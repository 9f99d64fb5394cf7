import Fillet.Assembler.RoundTrip

/-!
# Files, messages and listings

What assembling a file comes to in terms of its lines: which words are loaded and what is printed.
The listing of a loaded program, each word as `print_instruction_detail` shows it, is a file that is
assembled to this program without an error.
-/

namespace Fillet

open CString

/-! ### Contributions -/

/-- What a line comes to: nothing, an error or a word. -/
def contribution (line : List Char) : Option (Except ParserError UInt32) :=
  match assembleLine line with
  | .skipped => none
  | .rejected error => some (.error error)
  | .assembled encoded => some (.ok encoded)

/-- The contributions of a file, in order; lines of more than 127 characters contribute in
pieces. -/
def contributions (text : List Char) : List (Except ParserError UInt32) :=
  ((lines text).flatMap (pieces lineCapacity)).filterMap contribution

/-- The words among them. -/
def accepted (items : List (Except ParserError UInt32)) : List UInt32 :=
  items.filterMap Except.toOption

/-- The errors among them. -/
def rejected : List (Except ParserError UInt32) → List ParserError
  | [] => []
  | .error error :: items => error :: rejected items
  | .ok _ :: items => rejected items

/-- The beginning of a list up to the `n`-th word. -/
def upToWord : ℕ → List (Except ParserError UInt32) → List (Except ParserError UInt32)
  | 0, _ => []
  | _, [] => []
  | n + 1, .error error :: items => .error error :: upToWord (n + 1) items
  | n + 1, .ok word :: items => .ok word :: upToWord n items

lemma contribution_newline (line : List Char) :
    contribution (line ++ ['\n']) = contribution line := by
  simp only [contribution, assembleLine, instructionTokens_newline]

lemma contribution_of_ignored {line : List Char} (h : Ignored line) : contribution line = none := by
  have htokens : instructionTokens line = none := by
    simp only [instructionTokens]
    rcases h with h | h | h <;> simp [h]
  simp [contribution, assembleLine, htokens]

lemma contribution_of_word {line : List Char} {word : UInt32}
    (h : assembledWord line = some word) : contribution line = some (.ok word) := by
  rw [contribution, assembledWord_eq_some_iff.mp h]

lemma contributions_eq_buffers (text : List Char) :
    contributions text = (buffers lineCapacity text).filterMap contribution :=
  (filterMap_buffers (by decide) (contribution_of_ignored (Or.inl rfl)) contribution_newline
    text).symm

lemma accepted_filterMap (buffers : List (List Char)) :
    accepted (buffers.filterMap contribution) = buffers.filterMap assembledWord := by
  rw [accepted, List.filterMap_filterMap]
  congr 1
  funext line
  rw [contribution, assembledWord]
  cases assembleLine line <;> rfl

/-! ### The reading loop -/

lemma assembleLines_messages (buffers : List (List Char)) (state : AssemblyState)
    {room : ℕ} (hroom : state.instructionAddress.toNat + room = 1024) (hpos : 0 < room) :
    (assembleLines buffers state).messages = state.messages ++
      (rejected (upToWord room (buffers.filterMap contribution))).map .error ++
      if room ≤ (buffers.filterMap assembledWord).length then [.reachedMaximum 1024] else [] := by
  induction buffers generalizing state room with
  | nil =>
    obtain ⟨room, rfl⟩ := Nat.exists_eq_succ_of_ne_zero hpos.ne'
    simp [assembleLines, upToWord, rejected]
  | cons line buffers ih =>
    obtain ⟨n, rfl⟩ := Nat.exists_eq_succ_of_ne_zero hpos.ne'
    cases houtcome : assembleLine line with
    | skipped =>
      have hline : contribution line = none ∧ assembledWord line = none := by
        simp [contribution, assembledWord, houtcome]
      simp only [assembleLines, houtcome, List.filterMap_cons, hline.1, hline.2]
      exact ih state hroom hpos
    | rejected error =>
      have hline : contribution line = some (.error error) ∧ assembledWord line = none := by
        simp [contribution, assembledWord, houtcome]
      simp only [assembleLines, houtcome, List.filterMap_cons, hline.1, hline.2, upToWord]
      rw [ih (state.print (.error error)) hroom hpos]
      simp [AssemblyState.print, rejected]
    | assembled word =>
      have hline : contribution line = some (.ok word) ∧ assembledWord line = some word := by
        simp [contribution, assembledWord, houtcome]
      have hnext : (state.instructionAddress + 1).toNat = state.instructionAddress.toNat + 1 := by
        rw [UInt32.toNat_add]
        show (state.instructionAddress.toNat + 1) % 4294967296 = _
        omega
      simp only [assembleLines, houtcome, List.filterMap_cons, hline.1, hline.2, upToWord,
        rejected, List.length_cons, Nat.succ_eq_add_one, Nat.add_le_add_iff_right]
      by_cases hfull : (state.store word).instructionAddress.toNat ≥ instructionMemorySize
      · rw [if_pos hfull, if_pos (show n ≤ _ by
          change 1024 ≤ (state.instructionAddress + 1).toNat at hfull
          omega)]
        change 1024 ≤ (state.instructionAddress + 1).toNat at hfull
        have hn : n = 0 := by omega
        have haddress : state.instructionAddress + 1 = 1024 := by
          rw [← UInt32.toNat_inj]
          show _ = 1024
          omega
        subst hn
        simp [AssemblyState.print, AssemblyState.store, upToWord, rejected, haddress]
      · rw [if_neg hfull]
        change ¬ 1024 ≤ (state.instructionAddress + 1).toNat at hfull
        have hstore : (state.store word).instructionAddress.toNat + n = 1024 := by
          show (state.instructionAddress + 1).toNat + n = 1024
          omega
        exact ih (state.store word) hstore (by omega)

/-- What a file comes to: its words are loaded in order as far as they fit, and the errors before
the word that fills instruction memory are printed in order, with a warning if there is such a
word. -/
theorem parse_outcome (cpu : CPU) (filepath text : List Char) :
    parseAssemblyFile cpu filepath (some text) =
      (loadProgram (accepted (contributions text)) cpu,
        (rejected (upToWord 1024 (contributions text))).map .error ++
          if 1024 ≤ (accepted (contributions text)).length then [.reachedMaximum 1024] else []) := by
  have hempty : (0 : UInt32).toNat + 1024 = 1024 := rfl
  have hmessages := assembleLines_messages (buffers lineCapacity text)
    { cpu := cpu, instructionAddress := 0, messages := [] } hempty (by decide)
  rw [contributions_eq_buffers, accepted_filterMap]
  apply Prod.ext
  · exact parseAssemblyFile_eq_load cpu filepath text
  · exact hmessages

/-! ### Listings -/

/-- A line of a file. -/
lemma contributions_cons {line : List Char} (hline : '\n' ∉ line)
    (hlength : line.length ≤ lineCapacity) (rest : List Char) :
    contributions (line ++ '\n' :: rest) = (contribution line).toList ++ contributions rest := by
  rw [contributions, lines_cons hline, List.flatMap_cons, List.filterMap_append,
    filterMap_pieces_of_le hlength]
  rfl

/-- The line of the listing for an address. -/
def listingLine (cpu : CPU) (a : UInt32) : List Char :=
  printInstructionDetail (decodeRawInstruction (fetchedRegister a (memoryFetchInstruction cpu a)))

/-- The program in memory as a text. -/
def listing (cpu : CPU) : List Char :=
  (List.range cpu.instructionCount.toInt.toNat).flatMap fun i => listingLine cpu (UInt32.ofNat i)

lemma contributions_listingLines {cpu : CPU} {addresses : List ℕ}
    (hwords : ∀ i ∈ addresses, ∃ line,
      assembledWord line = some (memoryFetchInstruction cpu (UInt32.ofNat i))) :
    contributions (addresses.flatMap fun i => listingLine cpu (UInt32.ofNat i)) =
      addresses.map fun i => .ok (memoryFetchInstruction cpu (UInt32.ofNat i)) := by
  induction addresses with
  | nil =>
    rw [List.flatMap_nil, contributions_eq_buffers]
    rfl
  | cons i addresses ih =>
    obtain ⟨line, hword⟩ := hwords i List.mem_cons_self
    obtain ⟨printed, hprinted, hline, hlength, hagain⟩ :=
      assembledWord_printed (UInt32.ofNat i) hword
    rw [List.flatMap_cons, listingLine, hprinted, List.append_assoc, List.singleton_append,
      contributions_cons hline hlength, contribution_of_word hagain,
      ih fun j hj => hwords j (List.mem_cons_of_mem i hj)]
    rfl

section Words

variable (words : List UInt32)

lemma accepted_map_ok : accepted (words.map .ok) = words := by
  simp [accepted, List.filterMap_map, Except.toOption, Function.comp_def]

lemma rejected_upToWord_map_ok (n : ℕ) : rejected (upToWord n (words.map .ok)) = [] := by
  induction words generalizing n with
  | nil => cases n <;> rfl
  | cons word words ih =>
    cases n with
    | zero => rfl
    | succ n => exact ih n

end Words

/-- The listing of a loaded program contributes its words and nothing else. -/
lemma contributions_listing (cpu : CPU) (filepath text : List Char) :
    contributions (listing (parseAssemblyFile cpu filepath (some text)).1) =
      ((accepted (contributions text)).take 1024).map .ok := by
  set loaded := (parseAssemblyFile cpu filepath (some text)).1 with hloaded
  set words := accepted (contributions text) with hwords
  have hload : loaded = loadProgram words cpu := by
    rw [hloaded, parse_outcome]
  have hcount : loaded.instructionCount.toInt.toNat = min words.length 1024 := by
    rw [hload]
    show (Int32.ofNat (min words.length 1024)).toInt.toNat = _
    rw [toInt_ofNat_count (Nat.min_le_right _ _), Int.toNat_natCast]
  have haddress : ∀ i < min words.length 1024, (UInt32.ofNat i).toNat = i := by
    intro i hi
    apply UInt32.toNat_ofNat_of_lt'
    show i < 4294967296
    omega
  rw [listing, hcount, contributions_listingLines]
  · have hmap : (List.range (min words.length 1024)).map
        (fun i => memoryFetchInstruction loaded (UInt32.ofNat i)) = words.take 1024 := by
      apply List.ext_getElem
      · simp [Nat.min_comm]
      · intro i hi hi'
        rw [List.length_map, List.length_range] at hi
        have hfetch := fetch_loadProgram words cpu (a := UInt32.ofNat i) (by rwa [haddress i hi])
        rw [haddress i hi, List.getElem?_eq_getElem (by omega), Option.some.injEq,
          ← hload] at hfetch
        rw [List.getElem_map, List.getElem_range, List.getElem_take, hfetch]
    rw [← hmap, List.map_map]
    rfl
  · intro i hi
    have hbelow := List.mem_range.mp hi
    have hstored : ((UInt32.ofNat i).toNat : Int) < loaded.instructionCount.toInt := by
      rw [haddress i hbelow]
      omega
    obtain ⟨line, -, hline⟩ := stored_word hstored
    exact ⟨line, hline⟩

/-- The listing of a loaded program can stand for its file: on every CPU it loads the same program,
without an error, and with a warning only if it fills instruction memory. Two files have the same
listing exactly when they load the same program. -/
theorem listing_reassembles (cpu : CPU) (filepath text : List Char) :
    let loaded := (parseAssemblyFile cpu filepath (some text)).1
    (∀ (cpu' : CPU) (filepath' : List Char),
      parseAssemblyFile cpu' filepath' (some (listing loaded)) =
        ((parseAssemblyFile cpu' filepath' (some text)).1,
          if loaded.instructionCount = 1024 then [.reachedMaximum 1024] else [])) ∧
    ∀ text' : List Char,
      listing (parseAssemblyFile cpu filepath (some text')).1 = listing loaded ↔
        (parseAssemblyFile cpu filepath (some text')).1 = loaded := by
  intro loaded
  have hwords : ∀ text, accepted (contributions
      (listing (parseAssemblyFile cpu filepath (some text)).1)) =
        (accepted (contributions text)).take 1024 := by
    intro text
    rw [contributions_listing, accepted_map_ok]
  have hreload : ∀ (text : List Char) (cpu' : CPU) (filepath' : List Char),
      (parseAssemblyFile cpu' filepath'
        (some (listing (parseAssemblyFile cpu filepath (some text)).1))).1 =
        (parseAssemblyFile cpu' filepath' (some text)).1 := by
    intro text cpu' filepath'
    simp only [parse_outcome cpu' filepath', hwords]
    rw [loadProgram_eq_iff, List.take_take]
    rfl
  have hfull : loaded.instructionCount = 1024 ↔
      1024 ≤ ((accepted (contributions text)).take 1024).length := by
    have hcount : loaded.instructionCount.toInt =
        min (accepted (contributions text)).length 1024 := by
      show (parseAssemblyFile cpu filepath (some text)).1.instructionCount.toInt = _
      rw [parse_outcome]
      exact toInt_ofNat_count (Nat.min_le_right _ _)
    have h1024 : (1024 : Int32).toInt = 1024 := rfl
    rw [← Int32.toInt_inj, hcount, h1024, List.length_take]
    omega
  refine ⟨?_, ?_⟩
  · intro cpu' filepath'
    apply Prod.ext
    · exact hreload text cpu' filepath'
    · rw [parse_outcome, hwords text, contributions_listing, rejected_upToWord_map_ok]
      simp only [List.map_nil, List.nil_append, hfull]
  · intro text'
    constructor
    · intro hsame
      have hback := hreload text' cpu filepath
      rw [hsame] at hback
      exact hback.symm.trans (hreload text cpu filepath)
    · intro hsame
      rw [hsame]

end Fillet
