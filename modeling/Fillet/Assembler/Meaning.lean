import Fillet.Assembler.Operands

/-!
# What an accepted word means

The decoder finds in an accepted word the operands that the parser read, except for the address of a
`JMP`: it is only checked to be non-negative, and the encoder keeps its low 28 bits. The range
checks see an immediate after `strtol` has saturated it and the cast to `int32_t` has cut it.
-/

namespace Fillet

open CString BitField

/-! ### Operands and fields -/

/-- The operand is a register token with this number. -/
def DenotesRegister (token : Option (List Char)) (r : Int) : Prop :=
  ∃ value, parseRegister token = .ok value ∧ r = value.toNat

/-- `parse_immediate` returns this integer for the operand. -/
def DenotesImmediate (token : Option (List Char)) (v : Int) : Prop :=
  ∃ value, parseImmediate token = .ok value ∧ v = value.toInt

/-- The fields of a decoded instruction are the operands of a line, each in its position. -/
def OperandsMatch (tokens : LineTokens) (reg : PipelineRegister) : Prop :=
  match reg.opcode with
  | .add | .sub | .mul | .and =>
    DenotesRegister tokens.arg1 reg.r1 ∧ DenotesRegister tokens.arg2 reg.r2 ∧
      DenotesRegister tokens.arg3 reg.r3
  | .lsl | .lsr =>
    DenotesRegister tokens.arg1 reg.r1 ∧ DenotesRegister tokens.arg2 reg.r2 ∧ reg.r3 = 0 ∧
      DenotesImmediate tokens.arg3 reg.shamt
  | .movi =>
    DenotesRegister tokens.arg1 reg.r1 ∧ reg.r2 = 0 ∧
      DenotesImmediate tokens.arg2 reg.immediate.toInt
  | .jeq | .ori | .movr | .movm =>
    DenotesRegister tokens.arg1 reg.r1 ∧ DenotesRegister tokens.arg2 reg.r2 ∧
      DenotesImmediate tokens.arg3 reg.immediate.toInt
  | .jmp => DenotesImmediate tokens.arg1 reg.address.toInt
  | .reserved _ => False

/-- A word says what a line says: it decodes to a valid instruction with the opcode and the operands
of the line. -/
def MeansLine (pc : UInt32) (line : List Char) (word : UInt32) : Prop :=
  let reg := decodeRawInstruction (fetchedRegister pc word)
  ∃ tokens, instructionTokens line = some tokens ∧ reg.valid = true ∧
    opcodeFromString tokens.opcodeToken = some reg.opcode ∧ OperandsMatch tokens reg

/-- If the line is a jump, its address fits into the address field. -/
def JumpFits (line : List Char) : Prop :=
  ∀ tokens value, instructionTokens line = some tokens →
    opcodeFromString tokens.opcodeToken = some .jmp → parseImmediate tokens.arg1 = .ok value →
    value.toInt < 2 ^ 28

section Fields

variable {tokens : LineTokens} {opcode : Opcode} {word pc : UInt32}

lemma DenotesRegister.of_ok {token : Option (List Char)} {value : UInt32}
    (h : parseRegister token = .ok value) : DenotesRegister token value.toNat :=
  ⟨value, h, rfl⟩

lemma DenotesImmediate.of_ok {token : Option (List Char)} {value : Int32}
    (h : parseImmediate token = .ok value) : DenotesImmediate token value.toInt :=
  ⟨value, h, rfl⟩

lemma DenotesImmediate.iff_of_ok {token : Option (List Char)} {value : Int32} {v : Int}
    (h : parseImmediate token = .ok value) : DenotesImmediate token v ↔ v = value.toInt := by
  constructor
  · rintro ⟨value', h', rfl⟩
    rw [Except.ok.inj (h.symm.trans h')]
  · rintro rfl
    exact .of_ok h

lemma toNat_toUInt32_of_nonneg {value : Int32} (h : 0 ≤ value.toInt) :
    (value.toUInt32.toNat : Int) = value.toInt := by
  have hlt := value.toInt_lt
  rw [toNat_toUInt32]
  omega

/-- The address field of an encoded jump. -/
lemma toInt_jumpField (pc : UInt32) {value : Int32} (hsign : 0 ≤ value.toInt) :
    (decodeRawInstruction (fetchedRegister pc (encodeJType .jmp value.toUInt32))).address.toInt =
      value.toInt % 2 ^ 28 := by
  have hopcode : rawOpcode (encodeJType .jmp value.toUInt32) = .jmp := rawOpcode_encodeJType _ _
  have hfield : (encodeJType .jmp value.toUInt32 &&& 0x0FFFFFFF).toNat =
      value.toUInt32.toNat % 2 ^ 28 := by
    rw [toNat_and_mask (k := 28) _ _ rfl, toNat_encodeJType]
    omega
  have hvalue := toNat_toUInt32_of_nonneg hsign
  rw [decode_j (by simp only [fetchedRegister, hopcode, opcodeInstructionFormat])]
  show (encodeJType .jmp value.toUInt32 &&& 0x0FFFFFFF).toInt32.toInt = _
  rw [toInt_toInt32, hfield, if_pos (by omega)]
  omega

/-! The fields of the words that the four other layouts are encoded to. -/

section Layouts

variable {token1 token2 token3 : Option (List Char)} {r1 r2 r3 : UInt32} {value : Int32}
  (h1 : parseRegister token1 = .ok r1)
include h1

lemma fields_arithmetic (pc : UInt32)
    (hop : opcode = .add ∨ opcode = .sub ∨ opcode = .mul ∨ opcode = .and)
    (h2 : parseRegister token2 = .ok r2) (h3 : parseRegister token3 = .ok r3) :
    let reg := decodeRawInstruction (fetchedRegister pc (encodeRType opcode r1 r2 r3 0))
    reg.r1 = r1.toNat ∧ reg.r2 = r2.toNat ∧ reg.r3 = r3.toNat := by
  have hformat : opcodeInstructionFormat opcode = .r := by
    rcases hop with rfl | rfl | rfl | rfl <;> rfl
  obtain ⟨d1, d2, d3, -⟩ := decode_encodeRType
    (fetchedRegister pc (encodeRType opcode r1 r2 r3 0)) hformat (parseRegister_lt h1)
    (parseRegister_lt h2) (parseRegister_lt h3) (by decide) rfl
  exact ⟨d1, d2, d3⟩

lemma fields_immediate (pc : UInt32)
    (hop : opcode = .movr ∨ opcode = .ori ∨ opcode = .jeq ∨ opcode = .movm)
    (h2 : parseRegister token2 = .ok r2)
    (hrange : -131072 ≤ value.toInt ∧ value.toInt ≤ 131071) :
    let reg := decodeRawInstruction (fetchedRegister pc (encodeIType opcode r1 r2 value))
    reg.r1 = r1.toNat ∧ reg.r2 = r2.toNat ∧ reg.immediate = value := by
  have hformat : opcodeInstructionFormat opcode = .i ∧ opcode ≠ .movi := by
    rcases hop with rfl | rfl | rfl | rfl <;> decide
  obtain ⟨d1, d2, d3⟩ := decode_encodeIType
    (fetchedRegister pc (encodeIType opcode r1 r2 value)) hformat.1 (parseRegister_lt h1)
    (parseRegister_lt h2) hrange rfl
  rw [if_neg hformat.2] at d2
  exact ⟨d1, d2, d3⟩

lemma fields_movi (pc : UInt32) (hrange : -131072 ≤ value.toInt ∧ value.toInt ≤ 131071) :
    let reg := decodeRawInstruction (fetchedRegister pc (encodeIType .movi r1 0 value))
    reg.r1 = r1.toNat ∧ reg.r2 = 0 ∧ reg.immediate = value := by
  obtain ⟨d1, d2, d3⟩ := decode_encodeIType
    (fetchedRegister pc (encodeIType .movi r1 0 value)) rfl (parseRegister_lt h1) (by decide)
    hrange rfl
  exact ⟨d1, d2, d3⟩

lemma fields_shift (pc : UInt32) (hop : opcode = .lsl ∨ opcode = .lsr)
    (h2 : parseRegister token2 = .ok r2) (hrange : 0 ≤ value.toInt ∧ value.toInt ≤ 31) :
    let reg := decodeRawInstruction (fetchedRegister pc (encodeRType opcode r1 r2 0 value.toUInt32))
    reg.r1 = r1.toNat ∧ reg.r2 = r2.toNat ∧ reg.r3 = 0 ∧ reg.shamt = value.toInt := by
  have hformat : opcodeInstructionFormat opcode = .r := by
    rcases hop with rfl | rfl <;> rfl
  have hamount := toNat_toUInt32_of_nonneg hrange.1
  obtain ⟨d1, d2, d3, d4⟩ := decode_encodeRType
    (fetchedRegister pc (encodeRType opcode r1 r2 0 value.toUInt32)) hformat
    (parseRegister_lt h1) (parseRegister_lt h2) (by decide) (by omega) rfl
  exact ⟨d1, d2, d3, d4.trans hamount⟩

end Layouts

/-- The fields of an accepted word match the operands, with one exception. -/
lemma Assembles.operandsMatch_iff (h : Assembles tokens opcode word) :
    OperandsMatch tokens (decodeRawInstruction (fetchedRegister pc word)) ↔
      (opcode = .jmp → ∀ value, parseImmediate tokens.arg1 = .ok value → value.toInt < 2 ^ 28) := by
  obtain ⟨-, hopcode⟩ := h.decoded pc
  simp only [OperandsMatch]
  rw [hopcode]
  cases h with
  | arithmetic hop h1 h2 h3 hlast =>
    obtain ⟨d1, d2, d3⟩ := fields_arithmetic h1 pc hop h2 h3
    rw [d1, d2, d3]
    have hfields := And.intro (DenotesRegister.of_ok h1) <|
      And.intro (DenotesRegister.of_ok h2) (DenotesRegister.of_ok h3)
    rcases hop with rfl | rfl | rfl | rfl <;>
      exact iff_of_true hfields fun heq => Opcode.noConfusion heq
  | immediate hop h1 h2 h3 hlast hrange =>
    obtain ⟨d1, d2, d3⟩ := fields_immediate h1 pc hop h2 hrange
    rw [d1, d2, d3]
    have hfields := And.intro (DenotesRegister.of_ok h1) <|
      And.intro (DenotesRegister.of_ok h2) (DenotesImmediate.of_ok h3)
    rcases hop with rfl | rfl | rfl | rfl <;>
      exact iff_of_true hfields fun heq => Opcode.noConfusion heq
  | movi h1 h2 hlast hrange =>
    obtain ⟨d1, d2, d3⟩ := fields_movi h1 pc hrange
    rw [d1, d2, d3]
    exact iff_of_true ⟨.of_ok h1, rfl, .of_ok h2⟩ fun heq => Opcode.noConfusion heq
  | shift hop h1 h2 h3 hlast hrange =>
    obtain ⟨d1, d2, d3, d4⟩ := fields_shift h1 pc hop h2 hrange
    rw [d1, d2, d3, d4]
    have hfields := And.intro (DenotesRegister.of_ok h1) <|
      And.intro (DenotesRegister.of_ok h2) <| And.intro (rfl : (0 : Int) = 0)
        (DenotesImmediate.of_ok h3)
    rcases hop with rfl | rfl <;>
      exact iff_of_true hfields fun heq => Opcode.noConfusion heq
  | jump h1 hlast hsign =>
    dsimp only
    rw [DenotesImmediate.iff_of_ok h1, toInt_jumpField _ hsign]
    constructor
    · intro heq _ value hvalue
      rw [← Except.ok.inj (h1.symm.trans hvalue)]
      omega
    · intro hfits
      have hlt := hfits rfl _ h1
      omega

lemma meansLine_iff {line : List Char} (h : assembledWord line = some word) :
    MeansLine pc line word ↔ JumpFits line := by
  obtain ⟨tokens, opcode, htokens, hopcode, hassembles⟩ := assembledWord_iff.mp h
  obtain ⟨hvalid, hdecoded⟩ := hassembles.decoded pc
  constructor
  · rintro ⟨tokens', htokens', -, -, hmatch⟩ tokens'' value htokens'' hjmp hvalue
    obtain rfl : tokens = tokens' := Option.some.inj (htokens.symm.trans htokens')
    obtain rfl : tokens = tokens'' := Option.some.inj (htokens.symm.trans htokens'')
    exact hassembles.operandsMatch_iff.mp hmatch (Option.some.inj (hopcode.symm.trans hjmp)) value
      hvalue
  · intro hfits
    refine ⟨tokens, htokens, hvalid, by rw [hdecoded, hopcode], hassembles.operandsMatch_iff.mpr ?_⟩
    rintro rfl value hvalue
    exact hfits tokens value htokens hopcode hvalue

end Fields

/-! ### The words of a file -/

/-- The lines of a file that are accepted, in order. A line of more than 127 characters is read in
pieces, each of them as a line. -/
def acceptedLines (text : List Char) : List (List Char) :=
  ((lines text).flatMap (pieces lineCapacity)).filter fun line => (assembledWord line).isSome

lemma filterMap_acceptedLines (text : List Char) :
    (acceptedLines text).filterMap assembledWord =
      (buffers lineCapacity text).filterMap assembledWord := by
  rw [buffers_eq_pieces, acceptedLines, List.filterMap_filter]
  refine List.filterMap_congr fun line _ => ?_
  cases assembledWord line <;> rfl

/-- The words of accepted lines, one for each. -/
lemma getElem?_filterMap_accepted {ls : List (List Char)}
    (h : ∀ line ∈ ls, (assembledWord line).isSome = true) (i : ℕ) :
    (ls.filterMap assembledWord)[i]? = ls[i]?.bind assembledWord := by
  induction ls generalizing i with
  | nil => rfl
  | cons line rest ih =>
    obtain ⟨hline, hrest⟩ := List.forall_mem_cons.mp h
    obtain ⟨word, hword⟩ := Option.isSome_iff_exists.mp hline
    rw [List.filterMap_cons, hword]
    cases i with
    | zero => simp [hword]
    | succ i => simpa using ih hrest i

lemma isSome_of_mem_acceptedLines {text line : List Char} (h : line ∈ acceptedLines text) :
    (assembledWord line).isSome = true :=
  (List.mem_filter.mp h).2

lemma parseAssemblyFile_accepted (cpu : CPU) (filepath text : List Char) :
    (parseAssemblyFile cpu filepath (some text)).1 =
      loadProgram ((acceptedLines text).filterMap assembledWord) cpu := by
  rw [parseAssemblyFile_eq_load, filterMap_acceptedLines]

lemma length_accepted (text : List Char) :
    ((acceptedLines text).filterMap assembledWord).length = (acceptedLines text).length := by
  rw [List.length_filterMap_eq_countP]
  exact List.countP_eq_length.mpr fun _ => isSome_of_mem_acceptedLines

/-- A file loads one word for each accepted line, as long as there is room. -/
lemma instructionCount_accepted (cpu : CPU) (filepath text : List Char) :
    (parseAssemblyFile cpu filepath (some text)).1.instructionCount.toInt =
      min (acceptedLines text).length 1024 := by
  rw [parseAssemblyFile_accepted]
  change (Int32.ofNat _).toInt = _
  rw [toInt_ofNat_count (Nat.min_le_right _ _), length_accepted]

/-- The word at each address is the one of the accepted line with that number. -/
lemma accepted_word (cpu : CPU) (filepath text : List Char) {a : UInt32}
    (ha : (a.toNat : Int) <
      (parseAssemblyFile cpu filepath (some text)).1.instructionCount.toInt) :
    ∃ line, (acceptedLines text)[a.toNat]? = some line ∧
      assembledWord line =
        some (memoryFetchInstruction (parseAssemblyFile cpu filepath (some text)).1 a) := by
  have hlength := length_accepted text
  rw [instructionCount_accepted] at ha
  rw [parseAssemblyFile_accepted]
  have hfetch := fetch_loadProgram ((acceptedLines text).filterMap assembledWord) cpu (a := a)
    (by omega)
  rw [getElem?_filterMap_accepted fun _ => isSome_of_mem_acceptedLines] at hfetch
  exact Option.bind_eq_some_iff.mp hfetch

/-- The word at each address of a program is the one of the accepted line with that number, and it
means what the line says, unless the line is a jump to an address of more than 28 bits. -/
theorem assembled_word_means_line (cpu : CPU) (filepath text : List Char) (pc : UInt32) :
    (parseAssemblyFile cpu filepath (some text)).1.instructionCount.toInt =
        min (acceptedLines text).length 1024 ∧
      ∀ a : UInt32,
        (a.toNat : Int) < (parseAssemblyFile cpu filepath (some text)).1.instructionCount.toInt →
        ∃ line, (acceptedLines text)[a.toNat]? = some line ∧
          (MeansLine pc line
              (memoryFetchInstruction (parseAssemblyFile cpu filepath (some text)).1 a) ↔
            JumpFits line) := by
  refine ⟨instructionCount_accepted cpu filepath text, fun a ha => ?_⟩
  obtain ⟨line, hline, hword⟩ := accepted_word cpu filepath text ha
  exact ⟨line, hline, meansLine_iff hword⟩

/-- A jump to the first address that does not fit. -/
def wideJump : List Char :=
  "JMP 268435456".toList

/-- The address is accepted and cut to 0. -/
theorem wide_jump_is_cut :
    (parseAssemblyFile cpuReset [] (some wideJump)).1.instructionCount = 1 ∧
      ¬ MeansLine 0 wideJump
        (memoryFetchInstruction (parseAssemblyFile cpuReset [] (some wideJump)).1 0) := by
  refine ⟨by decide, ?_⟩
  rintro ⟨tokens, htokens, -, -, hmatch⟩
  have hword : memoryFetchInstruction (parseAssemblyFile cpuReset [] (some wideJump)).1 0 =
      0x70000000 := by decide
  have harg : instructionTokens wideJump = some
      { opcodeToken := "JMP".toList, arg1 := some "268435456".toList, arg2 := none, arg3 := none,
        arg4 := none } := by decide
  obtain rfl := Option.some.inj (harg.symm.trans htokens)
  rw [hword] at hmatch
  obtain ⟨value, hvalue, haddress⟩ := hmatch
  have hparsed : parseImmediate (some "268435456".toList) = .ok 268435456 := by rfl
  rw [← Except.ok.inj (hparsed.symm.trans hvalue)] at haddress
  exact absurd haddress (by decide)

/-- A jump whose address fits, behind a comment and another instruction. -/
def jumpText : List Char :=
  "# loop\nMOVI R1 3\nJMP 3\n".toList

/-- The second word means what the third line says. -/
theorem assembled_word_means_line_jump :
    MeansLine 1 "JMP 3".toList
      (memoryFetchInstruction (parseAssemblyFile cpuReset [] (some jumpText)).1 1) := by
  obtain ⟨line, hline, hmeans⟩ :=
    (assembled_word_means_line cpuReset [] jumpText 1).2 1 (by decide)
  have hthird : (acceptedLines jumpText)[1]? = some "JMP 3".toList := by decide
  obtain rfl := Option.some.inj (hthird.symm.trans hline)
  refine hmeans.mpr ?_
  intro tokens value htokens _ hvalue
  have harg : instructionTokens "JMP 3".toList = some
      { opcodeToken := "JMP".toList, arg1 := some "3".toList, arg2 := none, arg3 := none,
        arg4 := none } := by decide
  obtain rfl := Option.some.inj (harg.symm.trans htokens)
  have hparsed : parseImmediate (some "3".toList) = .ok 3 := by rfl
  rw [← Except.ok.inj (hparsed.symm.trans hvalue)]
  decide

end Fillet
