import Mathlib.Data.List.Induction
import Fillet.Assembler.Operands

/-!
# The assembly law

What a file should be assembled to: each line on its own, by the grammar of instruction lines
(`FileWords`). `parse_assembly_file` tests each buffer of `fgets` for a comment, not each line, so
that it keeps the law when a line of more than 127 characters that is no instruction has none among
its pieces, and one that is an instruction has that one only.
-/

namespace Fillet

open CString

/-! ### The grammar of lines -/

/-- The tokens of a mnemonic and its operands. -/
def lineTokens (name : List Char) (args : List (List Char)) : LineTokens where
  opcodeToken := name
  arg1 := args.head?
  arg2 := args.tail.head?
  arg3 := args.tail.tail.head?
  arg4 := args.tail.tail.tail.head?

/-- The tokens after the white space at the front are an instruction, and this is its word. -/
def WellFormed (line : List Char) (word : UInt32) : Prop :=
  ∃ name args opcode, tokens delimiter (line.dropWhile isSpace) = name :: args ∧
    opcodeFromString name = some opcode ∧ Assembles (lineTokens name args) opcode word

/-- The line is an instruction: it is well formed, not blank and no comment. -/
def IsInstruction (line : List Char) (word : UInt32) : Prop :=
  ¬ Ignored line ∧ WellFormed line word

/-- The line is blank, a comment or malformed. -/
def NoInstruction (line : List Char) : Prop :=
  ∀ word, ¬ IsInstruction line word

/-- The words of the instructions on the lines, in order. -/
inductive FileWords : List (List Char) → List UInt32 → Prop
  | nil : FileWords [] []
  | ignored {line : List Char} {rest : List (List Char)} {words : List UInt32}
      (hline : Ignored line) (h : FileWords rest words) : FileWords (line :: rest) words
  | malformed {line : List Char} {rest : List (List Char)} {words : List UInt32}
      (hline : ∀ word, ¬ WellFormed line word) (h : FileWords rest words) :
      FileWords (line :: rest) words
  | instruction {line : List Char} {rest : List (List Char)} {word : UInt32} {words : List UInt32}
      (hline : IsInstruction line word) (h : FileWords rest words) :
      FileWords (line :: rest) (word :: words)

/-- The words are at the start of instruction memory, as many as fit, and nothing else changed. -/
structure Loads (words : List UInt32) (cpu after : CPU) : Prop where
  memory : ∀ i : Fin memorySize, after.memory i =
    if i.val < min words.length 1024 then (words.getD i.val 0).toInt32 else cpu.memory i
  instructionCount : after.instructionCount.toInt = min words.length 1024
  registers : after.registers = cpu.registers
  pc : after.pc = cpu.pc

/-- The law of assembly: the instructions on the lines of the file are loaded. -/
def AssembledByLine (cpu : CPU) (filepath text : List Char) : Prop :=
  ∃ words, FileWords (lines text) words ∧
    Loads words cpu (parseAssemblyFile cpu filepath (some text)).1

/-- A line that may be read in pieces behind others that leave room for `room` words. -/
inductive Whole (room : ℕ) (line : List Char) : Prop
  | short (hlength : line.length ≤ lineCapacity)
  | full (hroom : room = 0)
  /-- Neither the line nor one of its pieces is an instruction. -/
  | nothing (hline : NoInstruction line)
      (hpieces : ∀ piece ∈ pieces lineCapacity line, NoInstruction piece)
  /-- One of the pieces is the instruction that the line is. A second one is harmless only when the
  first one fills the memory. -/
  | once {word : UInt32} {front back : List (List Char)} {piece : List Char}
      (hline : IsInstruction line word) (hpieces : pieces lineCapacity line = front ++ piece :: back)
      (hfront : ∀ other ∈ front, NoInstruction other) (hpiece : IsInstruction piece word)
      (hback : 1 < room → ∀ other ∈ back, NoInstruction other)

/-- Every line may be read in pieces, with the room that the lines before it leave. -/
def WholeLines (ls : List (List Char)) : Prop :=
  ∀ before line after words, ls = before ++ line :: after → FileWords before words →
    Whole (1024 - words.length) line

/-- No instruction takes more than 127 characters. -/
def ShortInstructions (text : List Char) : Prop :=
  ∀ line ∈ lines text, lineCapacity < line.length → NoInstruction line

/-- The file of the first `k` lines. -/
def beginning (k : ℕ) (text : List Char) : List Char :=
  unlines ((lines text).take k)

/-! ### The loop body accepts the grammar -/

/-- The calls of `strtok` take off one token after the other. -/
lemma tokenizeLine_eq_some_iff {cursor : List Char} {result : LineTokens} :
    tokenizeLine cursor = some result ↔
      ∃ name args, tokens delimiter cursor = name :: args ∧ result = lineTokens name args := by
  simp only [tokenizeLine_eq, strtok_fst, tokens_strtok_snd]
  cases tokens delimiter cursor with
  | nil => simp
  | cons name args => simp [lineTokens, eq_comm]

lemma instructionTokens_of_not_ignored {line : List Char} (h : ¬ Ignored line) :
    instructionTokens line = tokenizeLine (line.dropWhile isSpace) := by
  have hnewline : (line.dropWhile isSpace).head? ≠ some '\n' := by
    intro hhead
    have hspace := List.head?_dropWhile_not isSpace line
    rw [hhead] at hspace
    exact absurd hspace (by decide)
  simp only [Ignored, not_or] at h
  simp only [instructionTokens]
  rw [if_neg (by simp [h, hnewline])]

/-- A line contributes a word when it is an instruction by the grammar. -/
lemma isInstruction_iff {line : List Char} {word : UInt32} :
    IsInstruction line word ↔ assembledWord line = some word := by
  rw [IsInstruction]
  by_cases h : Ignored line
  · simp [assembledWord_of_ignored h, h]
  · rw [assembledWord_iff, instructionTokens_of_not_ignored h, iff_comm]
    constructor
    · rintro ⟨result, opcode, hresult, hopcode, hassembles⟩
      obtain ⟨name, args, htokens, rfl⟩ := tokenizeLine_eq_some_iff.mp hresult
      exact ⟨h, name, args, opcode, htokens, hopcode, hassembles⟩
    · rintro ⟨-, name, args, opcode, htokens, hopcode, hassembles⟩
      exact ⟨_, opcode, tokenizeLine_eq_some_iff.mpr ⟨name, args, htokens, rfl⟩, hopcode,
        hassembles⟩

lemma noInstruction_iff {line : List Char} : NoInstruction line ↔ assembledWord line = none := by
  simp only [NoInstruction, isInstruction_iff]
  exact Option.eq_none_iff_forall_ne_some.symm

lemma noInstruction_of_ignored {line : List Char} (h : Ignored line) : NoInstruction line :=
  fun _ hline => hline.1 h

/-- The grammar gives a file one list of words. -/
lemma fileWords_iff {ls : List (List Char)} {words : List UInt32} :
    FileWords ls words ↔ words = ls.filterMap assembledWord := by
  constructor
  · intro h
    induction h with
    | nil => rfl
    | ignored hline _ ih => rw [List.filterMap_cons, assembledWord_of_ignored hline, ih]
    | malformed hline _ ih =>
      have hnone : NoInstruction _ := fun word h => hline word h.2
      rw [List.filterMap_cons, noInstruction_iff.mp hnone, ih]
    | instruction hline _ ih => rw [List.filterMap_cons, isInstruction_iff.mp hline, ih]
  · rintro rfl
    induction ls with
    | nil => exact .nil
    | cons line rest ih =>
      rw [List.filterMap_cons]
      cases hword : assembledWord line with
      | some word => exact .instruction (isInstruction_iff.mpr hword) ih
      | none =>
        by_cases hignored : Ignored line
        · exact .ignored hignored ih
        · exact .malformed (fun word h => noInstruction_iff.mpr hword word ⟨hignored, h⟩) ih

/-! ### Loading by the law -/

lemma loads_iff {words : List UInt32} {cpu after : CPU}
    (hbusy : after.memoryBusy = cpu.memoryBusy) :
    Loads words cpu after ↔ after = loadProgram words cpu := by
  have hcount : (Int32.ofNat (min words.length 1024)).toInt = (min words.length 1024 : ℕ) :=
    toInt_ofNat_count (Nat.min_le_right _ _)
  constructor
  · intro h
    apply CPU.ext
    · funext i
      rw [h.memory i, loadProgram_memory]
    · exact h.registers
    · exact h.pc
    · rw [← Int32.toInt_inj, h.instructionCount]
      exact hcount.symm
    · exact hbusy
  · rintro rfl
    exact ⟨loadProgram_memory words cpu, hcount, rfl, rfl⟩

/-- The law speaks of the words of the lines, the parser loads the words of their pieces. -/
lemma assembledByLine_iff_take (cpu : CPU) (filepath text : List Char) :
    AssembledByLine cpu filepath text ↔
      (((lines text).flatMap (pieces lineCapacity)).filterMap assembledWord).take 1024 =
        ((lines text).filterMap assembledWord).take 1024 := by
  have hbusy : (parseAssemblyFile cpu filepath (some text)).1.memoryBusy = cpu.memoryBusy := by
    rw [parseAssemblyFile_eq_load]
    rfl
  constructor
  · rintro ⟨words, hwords, hloads⟩
    have hload := (loads_iff hbusy).mp hloads
    rw [parseAssemblyFile_eq_load, buffers_eq_pieces, fileWords_iff.mp hwords] at hload
    exact loadProgram_eq_iff.mp hload
  · intro h
    refine ⟨_, fileWords_iff.mpr rfl, (loads_iff hbusy).mpr ?_⟩
    rw [parseAssemblyFile_eq_load, buffers_eq_pieces]
    exact loadProgram_eq_iff.mpr h

/-! ### Lines in pieces -/

lemma whole_iff {room : ℕ} {line : List Char} :
    Whole room line ↔ ((pieces lineCapacity line).filterMap assembledWord).take room =
      (assembledWord line).toList.take room := by
  constructor
  · intro h
    cases h with
    | short hlength => rw [filterMap_pieces_of_le hlength]
    | full hroom => rw [hroom, List.take_zero, List.take_zero]
    | nothing hline hpieces =>
      have hwords : (pieces lineCapacity line).filterMap assembledWord = [] :=
        List.filterMap_eq_nil_iff.mpr fun piece h => noInstruction_iff.mp (hpieces piece h)
      rw [hwords, noInstruction_iff.mp hline, Option.toList_none]
    | once hline hpieces hfront hpiece hback =>
      have hbefore := List.filterMap_eq_nil_iff.mpr fun l h => noInstruction_iff.mp (hfront l h)
      rw [hpieces, List.filterMap_append, hbefore, List.nil_append, List.filterMap_cons,
        isInstruction_iff.mp hpiece, isInstruction_iff.mp hline, Option.toList_some]
      match room with
      | 0 | 1 => rfl
      | room + 2 =>
        have hafter := List.filterMap_eq_nil_iff.mpr fun l h =>
          noInstruction_iff.mp (hback (Nat.lt_add_left room (by decide)) l h)
        rw [hafter]
  · intro h
    match room with
    | 0 => exact .full rfl
    | room + 1 =>
      cases hline : assembledWord line with
      | none =>
        rw [hline, Option.toList_none, List.take_nil, List.take_eq_nil_iff] at h
        refine .nothing (noInstruction_iff.mpr hline) fun piece hpiece => ?_
        have hwords := h.resolve_left (Nat.succ_ne_zero room)
        exact noInstruction_iff.mpr (List.filterMap_eq_nil_iff.mp hwords piece hpiece)
      | some word =>
        cases hwords : (pieces lineCapacity line).filterMap assembledWord with
        | nil => simp [hline, hwords] at h
        | cons first rest =>
          rw [hline, hwords, Option.toList_some, List.take_succ_cons, List.take_succ_cons,
            List.take_nil, List.cons.injEq, List.take_eq_nil_iff] at h
          obtain ⟨rfl, hrest⟩ := h
          obtain ⟨front, piece, back, hpieces, hfront, hpiece, hback⟩ :=
            List.filterMap_eq_cons_iff.mp hwords
          refine .once (isInstruction_iff.mpr hline) hpieces
            (fun l h => noInstruction_iff.mpr (hfront l h)) (isInstruction_iff.mpr hpiece) ?_
          intro hroom l h
          rw [hrest.resolve_left (by omega)] at hback
          exact noInstruction_iff.mpr (List.filterMap_eq_nil_iff.mp hback l h)

/-- Behind equal beginnings, what fills the rest of the room decides. -/
lemma take_append_iff {β : Type*} {n : ℕ} {xs ys xs' ys' : List β}
    (h : xs.take n = ys.take n) :
    (xs ++ xs').take n = (ys ++ ys').take n ↔
      xs'.take (n - ys.length) = ys'.take (n - ys.length) := by
  have hroom : n - xs.length = n - ys.length := by
    have hlength := congrArg List.length h
    rw [List.length_take, List.length_take] at hlength
    omega
  rw [List.take_append, List.take_append, h, hroom, List.append_cancel_left_eq]

lemma WholeLines.of_append {ls rest : List (List Char)} (h : WholeLines (ls ++ rest)) :
    WholeLines ls := by
  rintro before line after words rfl hwords
  exact h before line (after ++ rest) words (by simp) hwords

lemma wholeLines_concat_iff {ls : List (List Char)} {line : List Char} :
    WholeLines (ls ++ [line]) ↔
      WholeLines ls ∧ Whole (1024 - (ls.filterMap assembledWord).length) line := by
  constructor
  · intro h
    exact ⟨h.of_append, h ls line [] _ rfl (fileWords_iff.mpr rfl)⟩
  · rintro ⟨hls, hline⟩ before l after words heq hwords
    rcases List.eq_nil_or_concat after with rfl | ⟨after, last, rfl⟩
    · obtain ⟨rfl, hlast⟩ := List.append_inj' heq rfl
      obtain rfl : line = l := List.singleton_inj.mp hlast
      rw [fileWords_iff.mp hwords]
      exact hline
    · have hinit : ls = before ++ l :: after := by
        have heq' : ls ++ [line] = (before ++ l :: after) ++ [last] := by
          rw [heq]
          simp
        exact (List.append_inj' heq' rfl).1
      exact hls before l after words hinit hwords

lemma wholeLines_of_pieces {ls : List (List Char)}
    (h : ∀ line ∈ ls,
      (pieces lineCapacity line).filterMap assembledWord = (assembledWord line).toList) :
    WholeLines ls := by
  rintro before line after words rfl -
  rw [whole_iff, h line (by simp)]

/-- As long as all lines so far may be read in pieces, one line more decides. -/
lemma assembled_concat_iff {ls : List (List Char)} {line : List Char}
    (h : ((ls.flatMap (pieces lineCapacity)).filterMap assembledWord).take 1024 =
      (ls.filterMap assembledWord).take 1024) :
    (((ls ++ [line]).flatMap (pieces lineCapacity)).filterMap assembledWord).take 1024 =
        ((ls ++ [line]).filterMap assembledWord).take 1024 ↔
      Whole (1024 - (ls.filterMap assembledWord).length) line := by
  have hline : [line].filterMap assembledWord = (assembledWord line).toList := by
    cases h : assembledWord line <;> simp [h]
  rw [List.flatMap_append, List.filterMap_append, List.filterMap_append, List.flatMap_singleton,
    hline, take_append_iff h, whole_iff]

/-- Lines that may be read in pieces are assembled by the law. -/
lemma take_of_wholeLines {ls : List (List Char)} (h : WholeLines ls) :
    ((ls.flatMap (pieces lineCapacity)).filterMap assembledWord).take 1024 =
      (ls.filterMap assembledWord).take 1024 := by
  induction ls using List.reverseRecOn with
  | nil => rfl
  | append_singleton ls line ih =>
    obtain ⟨hls, hline⟩ := wholeLines_concat_iff.mp h
    exact (assembled_concat_iff (ih hls)).mpr hline

/-- Lines of which every beginning is assembled by the law may be read in pieces. -/
lemma wholeLines_of_take {ls : List (List Char)}
    (h : ∀ k, (((ls.take k).flatMap (pieces lineCapacity)).filterMap assembledWord).take 1024 =
      ((ls.take k).filterMap assembledWord).take 1024) : WholeLines ls := by
  induction ls using List.reverseRecOn with
  | nil =>
    intro before line after words heq
    simp at heq
  | append_singleton ls line ih =>
    have hls : ∀ k ≤ ls.length, (ls ++ [line]).take k = ls.take k := fun k hk =>
      List.take_append_of_le_length hk
    have hwhole : WholeLines ls := by
      apply ih
      intro k
      have hk := h (min k ls.length)
      rwa [hls _ (Nat.min_le_right _ _), ← List.take_eq_take_min] at hk
    have hall : (ls ++ [line]).take (ls.length + 1) = ls ++ [line] :=
      List.take_of_length_le (by simp)
    have hlast := h (ls.length + 1)
    rw [hall] at hlast
    exact wholeLines_concat_iff.mpr
      ⟨hwhole, (assembled_concat_iff (take_of_wholeLines hwhole)).mp hlast⟩

/-! ### Files of short instructions -/

section Parts

variable {α β : Type*} {f g : α → List β} {xs : List α}

lemma length_flatMap_le (h : ∀ x ∈ xs, (g x).length ≤ (f x).length) :
    (xs.flatMap g).length ≤ (xs.flatMap f).length := by
  induction xs with
  | nil => exact le_rfl
  | cons x xs ih =>
    obtain ⟨hx, hxs⟩ := List.forall_mem_cons.mp h
    rw [List.flatMap_cons, List.flatMap_cons, List.length_append, List.length_append]
    exact Nat.add_le_add hx (ih hxs)

/-- When none of the parts is shorter, the wholes are equal only if the parts are. -/
lemma flatMap_inj_of_length_le (hlength : ∀ x ∈ xs, (g x).length ≤ (f x).length)
    (h : xs.flatMap f = xs.flatMap g) : ∀ x ∈ xs, f x = g x := by
  induction xs with
  | nil => simp
  | cons x xs ih =>
    obtain ⟨hx, hxs⟩ := List.forall_mem_cons.mp hlength
    rw [List.flatMap_cons, List.flatMap_cons] at h
    have hrest := length_flatMap_le hxs
    have htotal := congrArg List.length h
    rw [List.length_append, List.length_append] at htotal
    obtain ⟨heq, hflat⟩ := List.append_inj h (by omega)
    exact List.forall_mem_cons.mpr ⟨heq, ih hxs hflat⟩

end Parts

/-- A line that is no long instruction contributes at most what its pieces do. -/
lemma length_le_pieces {line : List Char} (h : lineCapacity < line.length → NoInstruction line) :
    (assembledWord line).toList.length ≤
      ((pieces lineCapacity line).filterMap assembledWord).length := by
  by_cases hlong : lineCapacity < line.length
  · rw [noInstruction_iff.mp (h hlong)]
    exact Nat.zero_le _
  · rw [filterMap_pieces_of_le (not_lt.mp hlong)]

/-- When no instruction takes more than 127 characters and all fit into memory, each line decides
for itself. -/
lemma wholeLines_of_shortInstructions {text : List Char} (hshort : ShortInstructions text)
    (hroom : ((lines text).filterMap assembledWord).length < 1024)
    (h : (((lines text).flatMap (pieces lineCapacity)).filterMap assembledWord).take 1024 =
      ((lines text).filterMap assembledWord).take 1024) : WholeLines (lines text) := by
  -- the words of the lines are fewer than 1024, so that nothing of the others is cut off
  have heq : ((lines text).flatMap (pieces lineCapacity)).filterMap assembledWord =
      (lines text).filterMap assembledWord := by
    rw [List.take_of_length_le hroom.le] at h
    have hlength := congrArg List.length h
    rw [List.length_take] at hlength
    rwa [List.take_of_length_le (by omega)] at h
  rw [List.filterMap_flatMap, List.filterMap_eq_flatMap_toList] at heq
  exact wholeLines_of_pieces <| flatMap_inj_of_length_le
    (fun line hline => length_le_pieces (hshort line hline)) heq

/-! ### The law -/

lemma lines_beginning {k : ℕ} (hk : k ≠ 0) (text : List Char) :
    lines (beginning k text) = (lines text).take k := by
  have hne : (lines text).take k ≠ [] := by
    simp [hk, lines]
  exact lines_unlines hne fun line hline => not_mem_of_mem_lines (List.mem_of_mem_take hline)

/-- A file whose lines may be read in pieces is assembled by the law. The condition is exact for
files of less than 1024 instructions none of which takes more than 127 characters, and for any file
together with its beginnings. -/
theorem assembled_by_line_iff (cpu : CPU) (filepath text : List Char) :
    (WholeLines (lines text) → AssembledByLine cpu filepath text) ∧
      (ShortInstructions text → (∀ words, FileWords (lines text) words → words.length < 1024) →
        (AssembledByLine cpu filepath text ↔ WholeLines (lines text))) ∧
      ((∀ k, AssembledByLine cpu filepath (beginning k text)) ↔ WholeLines (lines text)) := by
  have henough : ∀ text', WholeLines (lines text') → AssembledByLine cpu filepath text' :=
    fun text' h => (assembledByLine_iff_take cpu filepath text').mpr (take_of_wholeLines h)
  refine ⟨henough text, ?_, ?_, ?_⟩
  · intro hshort hroom
    refine ⟨fun h => ?_, henough text⟩
    exact wholeLines_of_shortInstructions hshort (hroom _ (fileWords_iff.mpr rfl))
      ((assembledByLine_iff_take cpu filepath text).mp h)
  · intro h
    apply wholeLines_of_take
    intro k
    by_cases hk : k = 0
    · rw [hk, List.take_zero]
      rfl
    · have htake := (assembledByLine_iff_take cpu filepath _).mp (h k)
      rwa [lines_beginning hk] at htake
  · intro h k
    by_cases hk : k = 0
    · apply henough
      have hempty : lines (beginning k text) = [[]] := by rw [hk]; rfl
      rw [hempty]
      exact wholeLines_of_pieces (by decide)
    · apply henough
      rw [lines_beginning hk]
      rw [← List.take_append_drop k (lines text)] at h
      exact h.of_append

/-- A comment of 127 characters with an instruction behind it. -/
def longComment : List Char :=
  '#' :: List.replicate 126 '-' ++ "ADD R1 R2 R3".toList

lemma lines_longComment : lines longComment = [longComment] :=
  lines_last (by decide)

lemma ignored_longComment : Ignored longComment :=
  Or.inr (Or.inl rfl)

lemma pieces_longComment : pieces lineCapacity longComment =
    ['#' :: List.replicate 126 '-', "ADD R1 R2 R3".toList] := by
  have hlong : lineCapacity < longComment.length := by
    rw [longComment, List.length_append, List.length_cons, List.length_replicate]
    decide
  rw [pieces_of_lt (by decide) hlong]
  exact congrArg (_ :: ·) (pieces_of_le (by decide))

/-- The tail of the comment is assembled. -/
theorem long_comment_is_assembled : ¬ AssembledByLine cpuReset [] longComment := by
  have hsome : (assembledWord "ADD R1 R2 R3".toList).isSome = true := by decide
  obtain ⟨word, htail⟩ := Option.isSome_iff_exists.mp hsome
  rw [assembledByLine_iff_take, lines_longComment, List.flatMap_singleton, pieces_longComment,
    List.filterMap_cons, List.filterMap_cons, assembledWord_of_ignored (Or.inr (Or.inl rfl)), htail,
    List.filterMap_cons, assembledWord_of_ignored ignored_longComment]
  exact List.cons_ne_nil _ _

/-- A comment of 201 characters whose pieces are comments. -/
def hashes : List Char :=
  List.replicate 201 '#'

/-- A long comment that is harmless, and for the other one the equivalence. -/
theorem assembled_by_line_comments :
    AssembledByLine cpuReset [] (hashes ++ "\nADD R1 R2 R3".toList) ∧
      (AssembledByLine cpuReset [] longComment ↔ WholeLines (lines longComment)) := by
  constructor
  · apply (assembled_by_line_iff cpuReset [] _).1
    have hlines : lines (hashes ++ "\nADD R1 R2 R3".toList) = [hashes, "ADD R1 R2 R3".toList] :=
      (lines_cons (by decide) _).trans (congrArg (hashes :: ·) (lines_last (by decide)))
    rw [hlines]
    apply wholeLines_of_pieces
    intro line hline
    rcases List.mem_pair.mp hline with rfl | rfl
    · have hlong : lineCapacity < hashes.length := by
        rw [hashes, List.length_replicate]
        decide
      have hshort : (List.replicate 74 '#').length ≤ lineCapacity := by
        rw [List.length_replicate]
        decide
      have hcut : pieces lineCapacity hashes = [List.replicate 127 '#', List.replicate 74 '#'] := by
        rw [pieces_of_lt (by decide) hlong, hashes, List.take_replicate, List.drop_replicate]
        exact congrArg (_ :: ·) (pieces_of_le hshort)
      rw [hcut, List.filterMap_cons, List.filterMap_cons,
        assembledWord_of_ignored (Or.inr (Or.inl rfl)),
        assembledWord_of_ignored (Or.inr (Or.inl rfl)),
        assembledWord_of_ignored (Or.inr (Or.inl rfl))]
      rfl
    · exact filterMap_pieces_of_le (by decide)
  · refine (assembled_by_line_iff cpuReset [] longComment).2.1 ?_ ?_
    · intro line hline _
      rw [lines_longComment, List.mem_singleton] at hline
      exact hline ▸ noInstruction_of_ignored ignored_longComment
    · intro words hwords
      rw [fileWords_iff.mp hwords, lines_longComment]
      exact (List.length_filterMap_le _ _).trans_lt (by decide)

end Fillet
