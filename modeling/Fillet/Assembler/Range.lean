import Fillet.Assembler.Operands

/-!
# The range checks

The immediate of an instruction is checked after `strtol` has saturated the integer that the token
denotes to a `long` and the cast to `int32_t` has kept its low 32 bits. The check is exact for the
integers that this leaves outside the range when they are outside themselves.
-/

namespace Fillet

open CString

/-- The range that is checked for the immediate operand of an opcode. -/
def operandRange : Opcode → Option (Int × Int)
  | .movi | .ori | .jeq | .movr | .movm => some (-131072, 131071)
  | .lsl | .lsr => some (0, 31)
  | _ => none

/-- A line that is well formed but for the immediate operand `token`, which may be anything. -/
def ImmediateLine (line : List Char) (opcode : Opcode) (r1 r2 : UInt32) (token : List Char) :
    Prop :=
  ∃ tokens, instructionTokens line = some tokens ∧
    opcodeFromString tokens.opcodeToken = some opcode ∧ parseRegister tokens.arg1 = .ok r1 ∧
    if opcode = .movi then r2 = 0 ∧ tokens.arg2 = some token ∧ tokens.arg3 = none
    else parseRegister tokens.arg2 = .ok r2 ∧ tokens.arg3 = some token ∧ tokens.arg4 = none

/-- The line is accepted behind the lines `before`: the file has one word more with it. -/
def Accepted (cpu : CPU) (filepath : List Char) (before : List (List Char)) (line : List Char) :
    Prop :=
  (parseAssemblyFile cpu filepath (some (unlines (before ++ [line])))).1.instructionCount.toInt =
    (parseAssemblyFile cpu filepath (some (unlines before))).1.instructionCount.toInt + 1

/-- The line is accepted exactly when `v` is in the range, and then `v` reaches the encoder: its
fields are in the word behind those of the lines `before`, whatever lines follow. -/
structure RangeExact (cpu : CPU) (filepath : List Char) (before : List (List Char))
    (line : List Char) (opcode : Opcode) (r1 r2 : UInt32) (token : List Char) (v low high : Int) :
    Prop where
  accepted : Accepted cpu filepath before line ↔ low ≤ v ∧ v ≤ high
  encoded : Accepted cpu filepath before line → ∃ value, parseImmediate (some token) = .ok value ∧
    value.toInt = v ∧ ∀ after, (∀ l ∈ after, '\n' ∉ l) →
      memoryFetchInstruction
          (parseAssemblyFile cpu filepath (some (unlines (before ++ line :: after)))).1
          (parseAssemblyFile cpu filepath (some (unlines before))).1.instructionCount.toUInt32 =
        encodeFields opcode r1 r2 0 value.toUInt32 value 0

/-! ### Saturation and truncation -/

/-- What is left of an integer: the low 32 bits of the nearest `long`, read as signed. -/
def truncated (v : Int) : Int :=
  if v < longMin then 0 else if longMax < v then -1 else v.bmod 4294967296

lemma toInt_ofInt_saturate (v : Int) : (Int32.ofInt (saturate v)).toInt = truncated v := by
  simp only [truncated]
  split_ifs with hlow hhigh
  · rw [saturate_of_lt hlow]
    decide
  · rw [saturate_of_gt hhigh]
    decide
  · rw [saturate_of_range ⟨not_lt.mp hlow, not_lt.mp hhigh⟩, Int32.toInt_ofInt]

/-- The three kinds of checked operands. -/
lemma operandRange_cases {opcode : Opcode} {low high : Int}
    (h : operandRange opcode = some (low, high)) :
    (opcode = .movr ∨ opcode = .ori ∨ opcode = .jeq ∨ opcode = .movm) ∧
        low = -131072 ∧ high = 131071 ∨
      opcode = .movi ∧ low = -131072 ∧ high = 131071 ∨
      (opcode = .lsl ∨ opcode = .lsr) ∧ low = 0 ∧ high = 31 := by
  cases opcode <;> simp_all [operandRange, eq_comm]

/-- An integer in one of the ranges is left as it is. -/
lemma truncated_of_range {opcode : Opcode} {v low high : Int}
    (hrange : operandRange opcode = some (low, high)) (h : low ≤ v ∧ v ≤ high) :
    truncated v = v := by
  have hbounds : -131072 ≤ low ∧ high ≤ 131071 := by
    rcases operandRange_cases hrange with ⟨-, rfl, rfl⟩ | ⟨-, rfl, rfl⟩ | ⟨-, rfl, rfl⟩ <;> decide
  have hmin : ¬ v < longMin := by
    simp only [longMin]
    omega
  have hmax : ¬ longMax < v := by
    simp only [longMax]
    omega
  rw [truncated, if_neg hmin, if_neg hmax, Int.bmod_eq_of_le] <;> omega

/-! ### The check -/

section Check

variable {line : List Char} {opcode : Opcode} {r1 r2 : UInt32} {token : List Char}
  {v low high : Int}

/-- Such a line is accepted when the truncated integer is in the range. -/
lemma assembledWord_immediateLine (hline : ImmediateLine line opcode r1 r2 token)
    (hrange : operandRange opcode = some (low, high)) {value : Int32}
    (hvalue : parseImmediate (some token) = .ok value) (word : UInt32) :
    assembledWord line = some word ↔ (low ≤ value.toInt ∧ value.toInt ≤ high) ∧
      word = encodeFields opcode r1 r2 0 value.toUInt32 value 0 := by
  obtain ⟨tokens, htokens, hopcode, h1, hrest⟩ := hline
  have hiff : assembledWord line = some word ↔ Assembles tokens opcode word := by
    rw [assembledWord_iff]
    constructor
    · rintro ⟨tokens', opcode', htokens', hopcode', h⟩
      obtain rfl := Option.some.inj (htokens.symm.trans htokens')
      obtain rfl := Option.some.inj (hopcode.symm.trans hopcode')
      exact h
    · intro h
      exact ⟨tokens, opcode, htokens, hopcode, h⟩
  rw [hiff]
  rcases operandRange_cases hrange with ⟨hop, rfl, rfl⟩ | ⟨rfl, rfl, rfl⟩ | ⟨hop, rfl, rfl⟩
  · have hformat : opcodeInstructionFormat opcode = .i ∧ opcode ≠ .movi := by
      rcases hop with rfl | rfl | rfl | rfl <;> decide
    rw [if_neg hformat.2] at hrest
    obtain ⟨h2, harg, hlast⟩ := hrest
    rw [assembles_immediate_iff hop, h1, h2, harg, hvalue, encodeFields, hformat.1]
    simp [hlast]
  · rw [if_pos rfl] at hrest
    obtain ⟨rfl, harg, hlast⟩ := hrest
    rw [assembles_movi_iff, h1, harg, hvalue]
    simp [hlast, encodeFields, opcodeInstructionFormat]
  · have hformat : opcodeInstructionFormat opcode = .r ∧ opcode ≠ .movi := by
      rcases hop with rfl | rfl <;> decide
    rw [if_neg hformat.2] at hrest
    obtain ⟨h2, harg, hlast⟩ := hrest
    rw [assembles_shift_iff hop, h1, h2, harg, hvalue, encodeFields, hformat.1]
    simp [hlast]

/-! ### The line in a file -/

section File

variable (cpu : CPU) (filepath : List Char) {before : List (List Char)}
  (hbefore : ∀ l ∈ before, '\n' ∉ l) (hnewline : '\n' ∉ line)
  (hlength : line.length ≤ lineCapacity)
include hbefore hnewline hlength

/-- What a line of at most 127 characters contributes comes behind the words before it. -/
lemma parseAssemblyFile_append {after : List (List Char)} (hafter : ∀ l ∈ after, '\n' ∉ l) :
    (parseAssemblyFile cpu filepath (some (unlines (before ++ line :: after)))).1 =
      loadProgram ((before.flatMap (pieces lineCapacity)).filterMap assembledWord ++
        ((assembledWord line).toList ++
          (after.flatMap (pieces lineCapacity)).filterMap assembledWord)) cpu := by
  have hall : ∀ l ∈ before ++ line :: after, '\n' ∉ l := by
    intro l hl
    rcases List.mem_append.mp hl with hl | hl
    · exact hbefore l hl
    · rcases List.mem_cons.mp hl with rfl | hl
      · exact hnewline
      · exact hafter l hl
  rw [parseAssemblyFile_unlines cpu filepath hall, List.flatMap_append, List.flatMap_cons,
    List.filterMap_append, List.filterMap_append, filterMap_pieces_of_le hlength]

variable
  (hroom : (parseAssemblyFile cpu filepath (some (unlines before))).1.instructionCount.toInt < 1024)
include hroom

/-- A line is accepted when it contributes a word. -/
lemma accepted_iff :
    Accepted cpu filepath before line ↔ ∃ word, assembledWord line = some word := by
  have hnil : ∀ l ∈ ([] : List (List Char)), '\n' ∉ l := fun l hl => absurd hl List.not_mem_nil
  rw [Accepted, parseAssemblyFile_append cpu filepath hbefore hnewline hlength hnil,
    parseAssemblyFile_unlines cpu filepath hbefore]
  rw [parseAssemblyFile_unlines cpu filepath hbefore] at hroom
  change (Int32.ofNat _).toInt < 1024 at hroom
  change (Int32.ofNat _).toInt = (Int32.ofNat _).toInt + 1 ↔ _
  rw [toInt_ofNat_count (Nat.min_le_right _ _)] at hroom ⊢
  rw [toInt_ofNat_count (Nat.min_le_right _ _), List.length_append]
  cases assembledWord line with
  | none =>
    refine iff_of_false ?_ (by simp)
    rw [Option.toList_none, List.nil_append, List.flatMap_nil, List.filterMap_nil, List.length_nil]
    omega
  | some word =>
    refine iff_of_true ?_ ⟨word, rfl⟩
    rw [Option.toList_some, List.flatMap_nil, List.filterMap_nil, List.append_nil,
      List.length_singleton]
    omega

/-- The word of an accepted line. -/
lemma fetch_accepted {after : List (List Char)} (hafter : ∀ l ∈ after, '\n' ∉ l) {word : UInt32}
    (hword : assembledWord line = some word) :
    memoryFetchInstruction
        (parseAssemblyFile cpu filepath (some (unlines (before ++ line :: after)))).1
        (parseAssemblyFile cpu filepath (some (unlines before))).1.instructionCount.toUInt32 =
      word := by
  rw [parseAssemblyFile_append cpu filepath hbefore hnewline hlength hafter, hword]
  rw [parseAssemblyFile_unlines cpu filepath hbefore] at hroom ⊢
  set words := (before.flatMap (pieces lineCapacity)).filterMap assembledWord
  change (Int32.ofNat (min words.length 1024)).toInt < 1024 at hroom
  rw [toInt_ofNat_count (Nat.min_le_right _ _)] at hroom
  have haddress : (loadProgram words cpu).instructionCount.toUInt32.toNat = words.length := by
    have hcount := BitField.toNat_toUInt32 (Int32.ofNat (min words.length 1024))
    rw [toInt_ofNat_count (Nat.min_le_right words.length 1024)] at hcount
    show (Int32.ofNat (min words.length 1024)).toUInt32.toNat = _
    omega
  set all := words ++ ((some word).toList ++
    (after.flatMap (pieces lineCapacity)).filterMap assembledWord) with hall
  have hlast : words.length < min all.length 1024 := by
    rw [hall, List.length_append, List.length_append, Option.toList_some, List.length_singleton]
    omega
  have hfetch := fetch_loadProgram all cpu (haddress ▸ hlast)
  rw [haddress, hall, List.getElem?_append_right le_rfl, Nat.sub_self] at hfetch
  exact (Option.some.inj hfetch).symm

/-- The range check is exact for the integers in the range and for those that are still outside when
they are truncated. -/
theorem operand_range_exact_iff (hline : ImmediateLine line opcode r1 r2 token)
    (hrange : operandRange opcode = some (low, high))
    (hv : parseInteger 0 token = some (v, [])) :
    RangeExact cpu filepath before line opcode r1 r2 token v low high ↔
      (low ≤ v ∧ v ≤ high) ∨ ¬ (low ≤ truncated v ∧ truncated v ≤ high) := by
  have hvalue := parseImmediate_of_integer hv
  have hword := assembledWord_immediateLine hline hrange hvalue
  rw [toInt_ofInt_saturate] at hword
  have haccepted : Accepted cpu filepath before line ↔ low ≤ truncated v ∧ truncated v ≤ high := by
    rw [accepted_iff cpu filepath hbefore hnewline hlength hroom]
    constructor
    · rintro ⟨word, h⟩
      exact ((hword word).mp h).1
    · intro hin
      exact ⟨_, (hword _).mpr ⟨hin, rfl⟩⟩
  constructor
  · intro h
    by_cases hin : low ≤ truncated v ∧ truncated v ≤ high
    · exact Or.inl (h.accepted.mp (haccepted.mpr hin))
    · exact Or.inr hin
  · intro h
    have hsame : Accepted cpu filepath before line → low ≤ v ∧ v ≤ high := fun hin =>
      h.resolve_right (not_not.mpr (haccepted.mp hin))
    refine ⟨⟨hsame, fun hin => ?_⟩, fun hin => ?_⟩
    · rw [haccepted, truncated_of_range hrange hin]
      exact hin
    · have htruncated := truncated_of_range hrange (hsame hin)
      refine ⟨_, hvalue, (toInt_ofInt_saturate v).trans htruncated, fun after hafter => ?_⟩
      exact fetch_accepted cpu filepath hbefore hnewline hlength hroom hafter
        ((hword _).mpr ⟨haccepted.mp hin, rfl⟩)

end File

end Check

/-- An immediate of 33 bits whose low 32 bits are 0. -/
def wideImmediate : List Char :=
  "4294967296".toList

/-- `MOVI R1 4294967296` is accepted as `MOVI R1 0`. -/
theorem wide_immediate_is_accepted :
    ImmediateLine ("MOVI R1 ".toList ++ wideImmediate) .movi 1 0 wideImmediate ∧
      parseInteger 0 wideImmediate = some (4294967296, []) ∧
      ¬ RangeExact cpuReset [] [] ("MOVI R1 ".toList ++ wideImmediate) .movi 1 0 wideImmediate
        4294967296 (-131072) 131071 := by
  have hline : ImmediateLine ("MOVI R1 ".toList ++ wideImmediate) .movi 1 0 wideImmediate :=
    ⟨⟨"MOVI".toList, some "R1".toList, some wideImmediate, none, none⟩, by decide,
      by decide, by rfl, rfl, rfl, rfl⟩
  refine ⟨hline, by decide, fun h => ?_⟩
  have haccepted : Accepted cpuReset [] [] ("MOVI R1 ".toList ++ wideImmediate) := by
    show _ = (_ : Int)
    decide
  exact absurd (h.accepted.mp haccepted) (by decide)

/-- The largest immediate, behind another line. -/
theorem operand_range_exact_largest :
    RangeExact cpuReset [] ["ADD R1 R2 R3".toList] "MOVI R1 131071".toList .movi 1 0
      "131071".toList 131071 (-131072) 131071 := by
  have hline : ImmediateLine "MOVI R1 131071".toList .movi 1 0 "131071".toList :=
    ⟨⟨"MOVI".toList, some "R1".toList, some "131071".toList, none, none⟩, by decide,
      by decide, by rfl, rfl, rfl, rfl⟩
  exact (operand_range_exact_iff cpuReset [] (by decide) (by decide) (by decide) (by decide)
    hline rfl (by decide)).mpr (Or.inl (by decide))

end Fillet
