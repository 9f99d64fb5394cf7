import Fillet.Library.BitField
import Fillet.Model.Parser

/-!
# From lines to instruction memory

`parse_assembly_file` stores the words that its buffers contribute at the start of instruction
memory. The buffers are the lines of the file, except that `fgets` cuts a line of more than 127
characters into several.
-/

namespace Fillet

open CString

/-- The word a line contributes, if any. -/
def assembledWord (line : List Char) : Option UInt32 :=
  match assembleLine line with
  | .assembled encoded => some encoded
  | _ => none

lemma assembledWord_eq_some_iff {line : List Char} {word : UInt32} :
    assembledWord line = some word ↔ assembleLine line = .assembled word := by
  simp only [assembledWord]
  split
  · rename_i h
    rw [h, Option.some.injEq, LineOutcome.assembled.injEq]
  · rename_i h
    simpa using h word

/-! ### The newline at the end of a buffer -/

section Newline

variable {text text' : List Char}

/-- Two texts that differ by a newline at the end, if at all. -/
def UpToNewline (text text' : List Char) : Prop :=
  text' = text ∨ text' = text ++ ['\n']

lemma strtok_upToNewline (h : UpToNewline text text') :
    (strtok delimiter text').1 = (strtok delimiter text).1 ∧
      UpToNewline (strtok delimiter text).2 (strtok delimiter text').2 := by
  rcases h with rfl | rfl
  · exact ⟨rfl, Or.inl rfl⟩
  · exact strtok_append_delimiter rfl text

lemma tokenizeLine_eq (cursor : List Char) :
    tokenizeLine cursor = (strtok delimiter cursor).1.map fun opcodeToken =>
      let rest1 := (strtok delimiter cursor).2
      let rest2 := (strtok delimiter rest1).2
      let rest3 := (strtok delimiter rest2).2
      { opcodeToken := opcodeToken
        arg1 := (strtok delimiter rest1).1
        arg2 := (strtok delimiter rest2).1
        arg3 := (strtok delimiter rest3).1
        arg4 := (strtok delimiter (strtok delimiter rest3).2).1 } := by
  rcases h : strtok delimiter cursor with ⟨first, rest⟩
  cases first <;> simp [tokenizeLine, h]

lemma tokenizeLine_newline (cursor : List Char) :
    tokenizeLine (cursor ++ ['\n']) = tokenizeLine cursor := by
  obtain ⟨h0, r1⟩ := strtok_upToNewline (Or.inr rfl : UpToNewline cursor (cursor ++ ['\n']))
  obtain ⟨h1, r2⟩ := strtok_upToNewline r1
  obtain ⟨h2, r3⟩ := strtok_upToNewline r2
  obtain ⟨h3, r4⟩ := strtok_upToNewline r3
  obtain ⟨h4, -⟩ := strtok_upToNewline r4
  simp only [tokenizeLine_eq, h0, h1, h2, h3, h4]

lemma instructionTokens_newline (line : List Char) :
    instructionTokens (line ++ ['\n']) = instructionTokens line := by
  have hdrop : (line ++ ['\n']).dropWhile isSpace =
      if line.dropWhile isSpace = [] then [] else line.dropWhile isSpace ++ ['\n'] := by
    rw [List.dropWhile_append]
    simp [isSpace]
  by_cases hblank : line.dropWhile isSpace = []
  · simp [instructionTokens, hdrop, hblank]
  · have hhead : (line.dropWhile isSpace ++ ['\n']).head? = (line.dropWhile isSpace).head? :=
      List.head?_append_of_ne_nil _ hblank
    have hne : line.dropWhile isSpace ++ ['\n'] ≠ [] := List.append_ne_nil_of_left_ne_nil hblank _
    rw [if_neg hblank] at hdrop
    unfold instructionTokens
    dsimp only
    rw [hdrop, hhead, tokenizeLine_newline]
    simp only [hblank, hne]

lemma assembledWord_newline (line : List Char) :
    assembledWord (line ++ ['\n']) = assembledWord line := by
  simp only [assembledWord, assembleLine, instructionTokens_newline]

end Newline

/-! ### Lines that contribute nothing -/

/-- A blank line, or a line whose first character after the white space starts a comment. -/
def Ignored (line : List Char) : Prop :=
  line.dropWhile isSpace = [] ∨ (line.dropWhile isSpace).head? = some '#' ∨
    (line.dropWhile isSpace).head? = some ';'

lemma assembledWord_of_ignored {line : List Char} (h : Ignored line) :
    assembledWord line = none := by
  have htokens : instructionTokens line = none := by
    simp only [instructionTokens]
    rcases h with h | h | h <;> simp [h]
  simp [assembledWord, assembleLine, htokens]

lemma assembledWord_nil : assembledWord [] = none :=
  assembledWord_of_ignored (Or.inl rfl)

/-! ### The loop -/

lemma isInstructionAddress_toInt32 {a : UInt32} (h : a.toNat < 1024) :
    isInstructionAddress a.toInt32 = true ∧ (memoryIndex a.toInt32).val = a.toNat := by
  have hsigned : a.toInt32.toInt = a.toNat := by
    rw [BitField.toInt_toInt32, if_pos (h.trans (by decide))]
  refine ⟨(isInstructionAddress_iff _).mpr (by omega), ?_⟩
  show a.toInt32.toInt.toNat % 2048 = _
  omega

/-- `words` stored from address `a` on in the instruction memory of `cpu`, and nothing else
changed. -/
structure StoredFrom (cpu : CPU) (a : ℕ) (words : List UInt32) (after : CPU) : Prop where
  memory : ∀ i : Fin memorySize, after.memory i =
    if a ≤ i.val ∧ i.val < min (a + words.length) 1024 then (words.getD (i.val - a) 0).toInt32
    else cpu.memory i
  registers : after.registers = cpu.registers
  pc : after.pc = cpu.pc
  instructionCount : after.instructionCount = cpu.instructionCount
  memoryBusy : after.memoryBusy = cpu.memoryBusy

/-- Nothing is stored when there are no words or no room. -/
lemma StoredFrom.unchanged (cpu : CPU) {a : ℕ} {words : List UInt32}
    (h : min (a + words.length) 1024 ≤ a) : StoredFrom cpu a words cpu where
  memory i := by rw [if_neg (by omega)]
  registers := rfl
  pc := rfl
  instructionCount := rfl
  memoryBusy := rfl

/-- One more word in front. -/
lemma StoredFrom.cons {cpu after : CPU} {address word : UInt32} {words : List UInt32}
    (haddress : address.toNat < 1024)
    (h : StoredFrom (memoryStoreInstruction cpu address word) (address.toNat + 1) words after) :
    StoredFrom cpu address.toNat (word :: words) after := by
  obtain ⟨hinstruction, hindex⟩ := isInstructionAddress_toInt32 haddress
  have hstore : memoryStoreInstruction cpu address word =
      { cpu with
        memory := Function.update cpu.memory (memoryIndex address.toInt32) word.toInt32 } := by
    simp [memoryStoreInstruction, hinstruction]
  rw [hstore] at h
  refine ⟨?_, h.registers, h.pc, h.instructionCount, h.memoryBusy⟩
  intro i
  rw [h.memory i]
  by_cases hi : i.val = address.toNat
  · have hcell : i = memoryIndex address.toInt32 := Fin.ext (hi.trans hindex.symm)
    rw [if_neg (by omega), if_pos (by simp only [List.length_cons]; omega), hi, Nat.sub_self, hcell]
    simp
  · have hcell : i ≠ memoryIndex address.toInt32 := fun heq => hi (by rw [heq, hindex])
    simp only [Function.update_of_ne hcell, List.length_cons]
    by_cases hin : address.toNat + 1 ≤ i.val ∧ i.val < min (address.toNat + 1 + words.length) 1024
    · have hprevious : i.val - address.toNat = i.val - (address.toNat + 1) + 1 := by omega
      rw [if_pos hin, if_pos (by omega), hprevious]
      simp
    · rw [if_neg hin, if_neg (by omega)]

/-- The reading loop stores the words of its buffers until instruction memory is full. -/
lemma assembleLines_stored (buffers : List (List Char)) (state : AssemblyState)
    (haddress : state.instructionAddress.toNat < 1024) :
    StoredFrom state.cpu state.instructionAddress.toNat (buffers.filterMap assembledWord)
        (assembleLines buffers state).cpu ∧
      (assembleLines buffers state).instructionAddress.toNat =
        min (state.instructionAddress.toNat + (buffers.filterMap assembledWord).length) 1024 := by
  induction buffers generalizing state with
  | nil =>
    have hlength : min (state.instructionAddress.toNat + ([] : List UInt32).length) 1024 =
        state.instructionAddress.toNat := by
      rw [List.length_nil]
      omega
    exact ⟨StoredFrom.unchanged _ hlength.le, hlength.symm⟩
  | cons line buffers ih =>
    cases houtcome : assembleLine line with
    | skipped =>
      have hword : assembledWord line = none := by simp [assembledWord, houtcome]
      simpa only [assembleLines, houtcome, List.filterMap_cons, hword] using ih state haddress
    | rejected error =>
      have hword : assembledWord line = none := by simp [assembledWord, houtcome]
      simp only [assembleLines, houtcome, List.filterMap_cons, hword]
      exact ih (state.print (.error error)) haddress
    | assembled word =>
      have hword : assembledWord line = some word := assembledWord_eq_some_iff.mpr houtcome
      have hnext : (state.instructionAddress + 1).toNat = state.instructionAddress.toNat + 1 := by
        rw [UInt32.toNat_add]
        show (state.instructionAddress.toNat + 1) % 4294967296 = _
        omega
      simp only [assembleLines, houtcome, List.filterMap_cons, hword, List.length_cons]
      split_ifs with hfull
      · change 1024 ≤ (state.instructionAddress + 1).toNat at hfull
        have hroom :
            min (state.instructionAddress.toNat + 1 + (buffers.filterMap assembledWord).length)
              1024 ≤ state.instructionAddress.toNat + 1 := by
          omega
        refine ⟨StoredFrom.cons haddress (StoredFrom.unchanged _ hroom), ?_⟩
        show (state.instructionAddress + 1).toNat = _
        omega
      · change ¬ 1024 ≤ (state.instructionAddress + 1).toNat at hfull
        obtain ⟨hstored, hlast⟩ := ih (state.store word) (not_le.mp hfull)
        change _ = min ((state.instructionAddress + 1).toNat + _) 1024 at hlast
        refine ⟨StoredFrom.cons haddress (hnext ▸ hstored), ?_⟩
        rw [hlast]
        omega

/-! ### The file -/

/-- The words of a program at the start of instruction memory, as many as fit, and their number in
`instructionCount`. -/
def loadProgram (words : List UInt32) (cpu : CPU) : CPU :=
  { cpu with
    memory := fun i =>
      if h : i.val < min words.length 1024 then (words[i.val]).toInt32 else cpu.memory i
    instructionCount := Int32.ofNat (min words.length 1024) }

lemma loadProgram_memory (words : List UInt32) (cpu : CPU) (i : Fin memorySize) :
    (loadProgram words cpu).memory i =
      if i.val < min words.length 1024 then (words.getD i.val 0).toInt32 else cpu.memory i := by
  show dite _ _ _ = _
  by_cases hi : i.val < min words.length 1024
  · have hlength : i.val < words.length := by omega
    rw [dif_pos hi, if_pos hi, List.getD_eq_getElem?_getD, List.getElem?_eq_getElem hlength,
      Option.getD_some]
  · rw [dif_neg hi, if_neg hi]

lemma toInt_ofNat_count {n : ℕ} (h : n ≤ 1024) : (Int32.ofNat n).toInt = n := by
  rw [Int32.toInt_ofNat_of_lt (by omega)]

/-- Parsing a file loads the words of its buffers. -/
lemma parseAssemblyFile_eq_load (cpu : CPU) (filepath text : List Char) :
    (parseAssemblyFile cpu filepath (some text)).1 =
      loadProgram ((buffers lineCapacity text).filterMap assembledWord) cpu := by
  have hstart : (0 : UInt32).toNat < 1024 := by decide
  obtain ⟨hstored, hlast⟩ := assembleLines_stored (buffers lineCapacity text)
    { cpu := cpu, instructionAddress := 0, messages := [] } hstart
  set words := (buffers lineCapacity text).filterMap assembledWord
  set state := assembleLines (buffers lineCapacity text)
    { cpu := cpu, instructionAddress := 0, messages := [] } with hstate
  change StoredFrom cpu 0 words state.cpu at hstored
  change state.instructionAddress.toNat = min (0 + words.length) 1024 at hlast
  have hsigned : state.instructionAddress.toInt32.toInt = min words.length 1024 := by
    rw [BitField.toInt_toInt32, if_pos (by omega)]
    omega
  have hcount : state.instructionAddress.toInt32 = Int32.ofNat (min words.length 1024) := by
    rw [← Int32.toInt_inj, hsigned, toInt_ofNat_count (by omega)]
  have hnonneg : ¬ state.instructionAddress.toInt32.toInt < 0 := by omega
  show state.cpu.setInstructionCount state.instructionAddress.toInt32 = _
  apply CPU.ext
  · funext i
    refine (hstored.memory i).trans ?_
    rw [loadProgram_memory, Nat.zero_add]
    simp only [Nat.zero_le, true_and, Nat.sub_zero]
  · exact hstored.registers
  · exact hstored.pc
  · exact (if_neg hnonneg).trans hcount
  · exact hstored.memoryBusy

/-- Buffers and pieces of lines contribute the same. -/
lemma buffers_eq_pieces (text : List Char) :
    (buffers lineCapacity text).filterMap assembledWord =
      ((lines text).flatMap (pieces lineCapacity)).filterMap assembledWord :=
  filterMap_buffers (by decide) assembledWord_nil assembledWord_newline text

/-- What the first 1024 words are decides what is loaded, and the other way round. -/
lemma loadProgram_eq_iff {words words' : List UInt32} {cpu : CPU} :
    loadProgram words cpu = loadProgram words' cpu ↔ words.take 1024 = words'.take 1024 := by
  constructor
  · intro h
    have hlength : min words.length 1024 = min words'.length 1024 := by
      have hcount := congrArg (fun after => after.instructionCount.toInt) h
      change (Int32.ofNat _).toInt = (Int32.ofNat _).toInt at hcount
      rw [toInt_ofNat_count (by omega), toInt_ofNat_count (by omega)] at hcount
      omega
    apply List.ext_getElem
    · rw [List.length_take, List.length_take]
      omega
    · intro i hi hi'
      rw [List.length_take] at hi hi'
      have hmemory : i < memorySize := hi.trans_le ((min_le_left _ _).trans (by decide))
      have hcell := congrArg (fun after => after.memory ⟨i, hmemory⟩) h
      have hin : i < min words.length 1024 := by omega
      have hin' : i < min words'.length 1024 := by omega
      simp only [loadProgram, dif_pos hin, dif_pos hin'] at hcell
      rw [List.getElem_take, List.getElem_take]
      have hword := congrArg Int32.toUInt32 hcell
      rwa [UInt32.toUInt32_toInt32, UInt32.toUInt32_toInt32] at hword
  · intro h
    have hlength : min words.length 1024 = min words'.length 1024 := by
      have := congrArg List.length h
      rw [List.length_take, List.length_take] at this
      omega
    have hword : ∀ i (hi : i < words.length) (hi' : i < words'.length), i < 1024 →
        words[i] = words'[i] := by
      intro i hi hi' hbound
      have htake : i < (words.take 1024).length := by
        rw [List.length_take]
        omega
      rw [← List.getElem_take (h := htake)]
      simp only [h, List.getElem_take]
    apply CPU.ext
    · funext i
      show dite _ _ _ = dite _ _ _
      by_cases hi : i.val < min words.length 1024
      · have hi' : i.val < min words'.length 1024 := hlength ▸ hi
        rw [dif_pos hi, dif_pos hi', hword i.val (by omega) (by omega) (by omega)]
      · have hi' : ¬ i.val < min words'.length 1024 := hlength ▸ hi
        rw [dif_neg hi, dif_neg hi']
    · rfl
    · rfl
    · exact congrArg Int32.ofNat hlength
    · rfl

/-- The word fetched from a program address is the one that was loaded there. -/
lemma fetch_loadProgram (words : List UInt32) (cpu : CPU) {a : UInt32}
    (h : a.toNat < min words.length 1024) :
    words[a.toNat]? = some (memoryFetchInstruction (loadProgram words cpu) a) := by
  have hlength : a.toNat < words.length := by omega
  obtain ⟨hinstruction, hindex⟩ := isInstructionAddress_toInt32 (a := a) (by omega)
  have hcell : (loadProgram words cpu).memory (memoryIndex a.toInt32) =
      (words.get ⟨a.toNat, hlength⟩).toInt32 := by
    have hin : (memoryIndex a.toInt32).val < min words.length 1024 := hindex ▸ h
    refine (dif_pos hin).trans ?_
    simp only [hindex, List.get_eq_getElem]
  rw [List.getElem?_eq_getElem hlength, memoryFetchInstruction, hinstruction, hcell]
  simp

/-- Every word below `instructionCount` was contributed by a buffer. -/
lemma stored_word {cpu : CPU} {filepath text : List Char} {a : UInt32}
    (ha : (a.toNat : Int) <
      (parseAssemblyFile cpu filepath (some text)).1.instructionCount.toInt) :
    ∃ line ∈ buffers lineCapacity text, assembledWord line =
      some (memoryFetchInstruction (parseAssemblyFile cpu filepath (some text)).1 a) := by
  rw [parseAssemblyFile_eq_load] at ha ⊢
  set words := (buffers lineCapacity text).filterMap assembledWord
  change (a.toNat : Int) < (Int32.ofNat (min words.length 1024)).toInt at ha
  rw [toInt_ofNat_count (Nat.min_le_right _ _)] at ha
  have hfetch := fetch_loadProgram words cpu (Int.ofNat_lt.mp ha)
  exact List.mem_filterMap.mp (List.mem_of_getElem? hfetch)

/-- A file given by its lines loads the words of their pieces. -/
lemma parseAssemblyFile_unlines (cpu : CPU) (filepath : List Char) {ls : List (List Char)}
    (h : ∀ line ∈ ls, '\n' ∉ line) :
    (parseAssemblyFile cpu filepath (some (unlines ls))).1 =
      loadProgram ((ls.flatMap (pieces lineCapacity)).filterMap assembledWord) cpu := by
  rw [parseAssemblyFile_eq_load]
  by_cases hne : ls = []
  · rw [hne]
    rfl
  · rw [buffers_eq_pieces, lines_unlines hne h]

/-- A file of one line that fits into a buffer, with or without a newline behind it. -/
lemma parseAssemblyFile_line (cpu : CPU) (filepath : List Char) {line : List Char}
    (hline : '\n' ∉ line) (hlength : line.length ≤ lineCapacity) :
    (parseAssemblyFile cpu filepath (some line)).1 =
        loadProgram (assembledWord line).toList cpu ∧
      (parseAssemblyFile cpu filepath (some (line ++ ['\n']))).1 =
        loadProgram (assembledWord line).toList cpu := by
  have hpieces := filterMap_pieces_of_le (f := assembledWord) hlength
  constructor
  · rw [parseAssemblyFile_eq_load, buffers_eq_pieces, lines_last hline, List.flatMap_singleton,
      hpieces]
  · have hnil : lines [] = [[]] := lines_last (List.not_mem_nil)
    rw [parseAssemblyFile_eq_load, buffers_eq_pieces, lines_cons hline, hnil, List.flatMap_cons,
      List.flatMap_singleton, List.filterMap_append, hpieces,
      filterMap_pieces_of_le (Nat.zero_le _), assembledWord_nil]
    exact congrArg (loadProgram · cpu) (List.append_nil _)

end Fillet
