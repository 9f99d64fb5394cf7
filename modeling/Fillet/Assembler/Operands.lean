import Fillet.Assembler.Lines
import Fillet.Encoding

/-!
# Operands of an assembled line

What a line must look like to be accepted, by opcode, and the word it is assembled to. Such a word
decodes to a valid instruction with the opcode of its line.
-/

namespace Fillet

open CString

/-! ### The checks -/

lemma bind_eq_ok_iff {ε α β : Type} {x : Except ε α} {f : α → Except ε β} {b : β} :
    (x >>= f) = .ok b ↔ ∃ a, x = .ok a ∧ f a = .ok b := by
  cases x <;> simp [bind, Except.bind]

lemma validateITypeImmediate_iff {value : Int32} {name : List Char} {u : Unit} :
    validateITypeImmediate value name = .ok u ↔
      -131072 ≤ value.toInt ∧ value.toInt ≤ 131071 := by
  simp only [validateITypeImmediate]
  split_ifs with h
  · simp only [false_iff]
    omega
  · simp only [true_iff]
    omega

lemma validateShiftAmount_iff {amount : Int32} {name : List Char} {u : Unit} :
    validateShiftAmount amount name = .ok u ↔ 0 ≤ amount.toInt ∧ amount.toInt ≤ 31 := by
  simp only [validateShiftAmount]
  split_ifs with h
  · simp only [false_iff]
    omega
  · simp only [true_iff]
    omega

section Counts

variable {opcodeToken : List Char} {arg1 arg2 arg3 arg4 : Option (List Char)} {u : Unit}

lemma ensureExactArgCount_iff :
    ensureExactArgCount opcodeToken arg1 arg2 arg3 arg4 = .ok u ↔
      arg1.isSome ∧ arg2.isSome ∧ arg3.isSome ∧ arg4 = none := by
  cases arg1 <;> cases arg2 <;> cases arg3 <;> cases arg4 <;> simp [ensureExactArgCount]

lemma ensureTwoOperandForm_iff :
    ensureTwoOperandForm opcodeToken arg1 arg2 arg3 = .ok u ↔
      arg1.isSome ∧ arg2.isSome ∧ arg3 = none := by
  cases arg1 <;> cases arg2 <;> cases arg3 <;> simp [ensureTwoOperandForm]

lemma ensureOneOperandForm_iff :
    ensureOneOperandForm opcodeToken arg1 arg2 = .ok u ↔ arg1.isSome ∧ arg2 = none := by
  cases arg1 <;> cases arg2 <;> simp [ensureOneOperandForm]

end Counts

lemma parseRegister_isSome {token : Option (List Char)} {r : UInt32}
    (h : parseRegister token = .ok r) : token.isSome := by
  cases token with
  | none => simp [parseRegister] at h
  | some text => rfl

lemma parseImmediate_isSome {token : Option (List Char)} {value : Int32}
    (h : parseImmediate token = .ok value) : token.isSome := by
  cases token with
  | none => simp [parseImmediate] at h
  | some text => rfl

/-- A token that denotes an integer is cut down to an `int32_t`. -/
lemma parseImmediate_of_integer {token : List Char} {v : Int}
    (h : parseInteger 0 token = some (v, [])) :
    parseImmediate (some token) = .ok (Int32.ofInt (saturate v)) := by
  simp [parseImmediate, strtol, h]

/-- A register number that was accepted is one. -/
lemma parseRegister_lt {token : Option (List Char)} {r : UInt32}
    (h : parseRegister token = .ok r) : r.toNat < 32 := by
  simp only [parseRegister] at h
  split at h
  · simp at h
  · split_ifs at h
    split at h
    · simp at h
    · split_ifs at h with hrange
      simp only [not_or, not_lt] at hrange
      rw [← Except.ok.inj h, UInt32.toNat_ofNat']
      omega

/-! ### Accepted lines -/

/-- The lines that are accepted for each opcode, and the word they are assembled to. -/
inductive Assembles (tokens : LineTokens) : Opcode → UInt32 → Prop
  | arithmetic {opcode : Opcode} {r1 r2 r3 : UInt32}
      (hop : opcode = .add ∨ opcode = .sub ∨ opcode = .mul ∨ opcode = .and)
      (h1 : parseRegister tokens.arg1 = .ok r1) (h2 : parseRegister tokens.arg2 = .ok r2)
      (h3 : parseRegister tokens.arg3 = .ok r3) (hlast : tokens.arg4 = none) :
      Assembles tokens opcode (encodeRType opcode r1 r2 r3 0)
  | immediate {opcode : Opcode} {r1 r2 : UInt32} {value : Int32}
      (hop : opcode = .movr ∨ opcode = .ori ∨ opcode = .jeq ∨ opcode = .movm)
      (h1 : parseRegister tokens.arg1 = .ok r1) (h2 : parseRegister tokens.arg2 = .ok r2)
      (h3 : parseImmediate tokens.arg3 = .ok value) (hlast : tokens.arg4 = none)
      (hrange : -131072 ≤ value.toInt ∧ value.toInt ≤ 131071) :
      Assembles tokens opcode (encodeIType opcode r1 r2 value)
  | movi {r1 : UInt32} {value : Int32}
      (h1 : parseRegister tokens.arg1 = .ok r1) (h2 : parseImmediate tokens.arg2 = .ok value)
      (hlast : tokens.arg3 = none) (hrange : -131072 ≤ value.toInt ∧ value.toInt ≤ 131071) :
      Assembles tokens .movi (encodeIType .movi r1 0 value)
  | shift {opcode : Opcode} {r1 r2 : UInt32} {amount : Int32}
      (hop : opcode = .lsl ∨ opcode = .lsr)
      (h1 : parseRegister tokens.arg1 = .ok r1) (h2 : parseRegister tokens.arg2 = .ok r2)
      (h3 : parseImmediate tokens.arg3 = .ok amount) (hlast : tokens.arg4 = none)
      (hrange : 0 ≤ amount.toInt ∧ amount.toInt ≤ 31) :
      Assembles tokens opcode (encodeRType opcode r1 r2 0 amount.toUInt32)
  | jump {immediate : Int32}
      (h1 : parseImmediate tokens.arg1 = .ok immediate) (hlast : tokens.arg2 = none)
      (hsign : 0 ≤ immediate.toInt) :
      Assembles tokens .jmp (encodeJType .jmp immediate.toUInt32)

/-- `encodeInstruction` on the tokens of a line. -/
def encodeTokens (tokens : LineTokens) (opcode : Opcode) : Except ParserError UInt32 :=
  encodeInstruction tokens.opcodeToken tokens.arg1 tokens.arg2 tokens.arg3 tokens.arg4 opcode

variable {tokens : LineTokens} {opcode : Opcode} {word : UInt32}

lemma assembles_of_encodeTokens (h : encodeTokens tokens opcode = .ok word) :
    Assembles tokens opcode word := by
  cases opcode
  case add | sub | mul | and =>
    simp only [encodeTokens, encodeInstruction, bind_eq_ok_iff, ensureExactArgCount_iff] at h
    obtain ⟨-, ⟨-, -, -, hlast⟩, r1, h1, r2, h2, r3, h3, hword⟩ := h
    rw [← Except.ok.inj hword]
    exact .arithmetic (by simp) h1 h2 h3 hlast
  case movr | ori | jeq | movm =>
    simp only [encodeTokens, encodeInstruction, bind_eq_ok_iff, ensureExactArgCount_iff,
      validateITypeImmediate_iff] at h
    obtain ⟨-, ⟨-, -, -, hlast⟩, r1, h1, r2, h2, value, h3, -, hrange, hword⟩ := h
    rw [← Except.ok.inj hword]
    exact .immediate (by simp) h1 h2 h3 hlast hrange
  case movi =>
    simp only [encodeTokens, encodeInstruction, bind_eq_ok_iff, ensureTwoOperandForm_iff,
      validateITypeImmediate_iff] at h
    obtain ⟨-, ⟨-, -, hlast⟩, r1, h1, value, h2, -, hrange, hword⟩ := h
    rw [← Except.ok.inj hword]
    exact .movi h1 h2 hlast hrange
  case lsl | lsr =>
    simp only [encodeTokens, encodeInstruction, bind_eq_ok_iff, ensureExactArgCount_iff,
      validateShiftAmount_iff] at h
    obtain ⟨-, ⟨-, -, -, hlast⟩, r1, h1, r2, h2, amount, h3, -, hrange, hword⟩ := h
    rw [← Except.ok.inj hword]
    exact .shift (by simp) h1 h2 h3 hlast hrange
  case jmp =>
    simp only [encodeTokens, encodeInstruction, bind_eq_ok_iff, ensureOneOperandForm_iff] at h
    obtain ⟨-, ⟨-, hlast⟩, immediate, h1, hword⟩ := h
    split_ifs at hword with hsign
    rw [← Except.ok.inj hword]
    exact .jump h1 hlast (not_lt.mp hsign)
  case reserved => simp [encodeTokens, encodeInstruction] at h

lemma encodeTokens_of_assembles (h : Assembles tokens opcode word) :
    encodeTokens tokens opcode = .ok word := by
  cases h with
  | arithmetic hop h1 h2 h3 hlast =>
    have hargs := And.intro (parseRegister_isSome h1) <| And.intro (parseRegister_isSome h2) <|
      And.intro (parseRegister_isSome h3) hlast
    rcases hop with rfl | rfl | rfl | rfl
    all_goals
      simp only [encodeTokens, encodeInstruction, bind_eq_ok_iff, ensureExactArgCount_iff]
      exact ⟨(), hargs, _, h1, _, h2, _, h3, rfl⟩
  | immediate hop h1 h2 h3 hlast hrange =>
    have hargs := And.intro (parseRegister_isSome h1) <| And.intro (parseRegister_isSome h2) <|
      And.intro (parseImmediate_isSome h3) hlast
    rcases hop with rfl | rfl | rfl | rfl
    all_goals
      simp only [encodeTokens, encodeInstruction, bind_eq_ok_iff, ensureExactArgCount_iff,
        validateITypeImmediate_iff]
      exact ⟨(), hargs, _, h1, _, h2, _, h3, (), hrange, rfl⟩
  | movi h1 h2 hlast hrange =>
    have hargs := And.intro (parseRegister_isSome h1) <| And.intro (parseImmediate_isSome h2) hlast
    simp only [encodeTokens, encodeInstruction, bind_eq_ok_iff, ensureTwoOperandForm_iff,
      validateITypeImmediate_iff]
    exact ⟨(), hargs, _, h1, _, h2, (), hrange, rfl⟩
  | shift hop h1 h2 h3 hlast hrange =>
    have hargs := And.intro (parseRegister_isSome h1) <| And.intro (parseRegister_isSome h2) <|
      And.intro (parseImmediate_isSome h3) hlast
    rcases hop with rfl | rfl
    all_goals
      simp only [encodeTokens, encodeInstruction, bind_eq_ok_iff, ensureExactArgCount_iff,
        validateShiftAmount_iff]
      exact ⟨(), hargs, _, h1, _, h2, _, h3, (), hrange, rfl⟩
  | jump h1 hlast hsign =>
    simp only [encodeTokens, encodeInstruction, bind_eq_ok_iff, ensureOneOperandForm_iff]
    exact ⟨(), ⟨parseImmediate_isSome h1, hlast⟩, _, h1, if_neg (not_lt.mpr hsign)⟩

/-! ### The lines with a checked immediate -/

lemma assembles_immediate_iff
    (hop : opcode = .movr ∨ opcode = .ori ∨ opcode = .jeq ∨ opcode = .movm) :
    Assembles tokens opcode word ↔ ∃ r1 r2 value, parseRegister tokens.arg1 = .ok r1 ∧
      parseRegister tokens.arg2 = .ok r2 ∧ parseImmediate tokens.arg3 = .ok value ∧
      tokens.arg4 = none ∧ (-131072 ≤ value.toInt ∧ value.toInt ≤ 131071) ∧
      word = encodeIType opcode r1 r2 value := by
  constructor
  · intro h
    cases h with
    | arithmetic hop' => rcases hop' with rfl | rfl | rfl | rfl <;> simp at hop
    | immediate _ h1 h2 h3 hlast hrange => exact ⟨_, _, _, h1, h2, h3, hlast, hrange, rfl⟩
    | movi => simp at hop
    | shift hop' => rcases hop' with rfl | rfl <;> simp at hop
    | jump => simp at hop
  · rintro ⟨r1, r2, value, h1, h2, h3, hlast, hrange, rfl⟩
    exact .immediate hop h1 h2 h3 hlast hrange

lemma assembles_movi_iff :
    Assembles tokens .movi word ↔ ∃ r1 value, parseRegister tokens.arg1 = .ok r1 ∧
      parseImmediate tokens.arg2 = .ok value ∧ tokens.arg3 = none ∧
      (-131072 ≤ value.toInt ∧ value.toInt ≤ 131071) ∧ word = encodeIType .movi r1 0 value := by
  constructor
  · intro h
    cases h with
    | arithmetic hop => simp at hop
    | immediate hop => simp at hop
    | movi h1 h2 hlast hrange => exact ⟨_, _, h1, h2, hlast, hrange, rfl⟩
    | shift hop => simp at hop
  · rintro ⟨r1, value, h1, h2, hlast, hrange, rfl⟩
    exact .movi h1 h2 hlast hrange

lemma assembles_shift_iff (hop : opcode = .lsl ∨ opcode = .lsr) :
    Assembles tokens opcode word ↔ ∃ r1 r2 amount, parseRegister tokens.arg1 = .ok r1 ∧
      parseRegister tokens.arg2 = .ok r2 ∧ parseImmediate tokens.arg3 = .ok amount ∧
      tokens.arg4 = none ∧ (0 ≤ amount.toInt ∧ amount.toInt ≤ 31) ∧
      word = encodeRType opcode r1 r2 0 amount.toUInt32 := by
  constructor
  · intro h
    cases h with
    | arithmetic hop' => rcases hop' with rfl | rfl | rfl | rfl <;> simp at hop
    | immediate hop' => rcases hop' with rfl | rfl | rfl | rfl <;> simp at hop
    | movi => simp at hop
    | shift _ h1 h2 h3 hlast hrange => exact ⟨_, _, _, h1, h2, h3, hlast, hrange, rfl⟩
    | jump => simp at hop
  · rintro ⟨r1, r2, amount, h1, h2, h3, hlast, hrange, rfl⟩
    exact .shift hop h1 h2 h3 hlast hrange

/-- A line is accepted exactly when it has one of the forms of its opcode. -/
theorem assembledWord_iff {line : List Char} :
    assembledWord line = some word ↔ ∃ tokens opcode, instructionTokens line = some tokens ∧
      opcodeFromString tokens.opcodeToken = some opcode ∧ Assembles tokens opcode word := by
  rw [assembledWord_eq_some_iff]
  constructor
  · intro h
    simp only [assembleLine] at h
    split at h
    · simp at h
    · rename_i tokens htokens
      split at h
      · simp at h
      · rename_i opcode hopcode
        split at h
        · simp at h
        · rename_i encoded hencoded
          rw [LineOutcome.assembled.injEq] at h
          exact ⟨tokens, opcode, htokens, hopcode, assembles_of_encodeTokens (h ▸ hencoded)⟩
  · rintro ⟨tokens, opcode, htokens, hopcode, h⟩
    have hencoded := encodeTokens_of_assembles h
    simp only [encodeTokens] at hencoded
    simp only [assembleLine, htokens, hopcode, hencoded]

/-- An accepted word has one of the twelve opcodes. -/
lemma Assembles.rawOpcode (h : Assembles tokens opcode word) : Fillet.rawOpcode word = opcode := by
  cases h with
  | arithmetic _ h1 h2 h3 =>
    exact rawOpcode_encodeRType _ _ (parseRegister_lt h1) (parseRegister_lt h2)
      (parseRegister_lt h3)
  | immediate _ h1 h2 => exact rawOpcode_encodeIType _ _ (parseRegister_lt h1) (parseRegister_lt h2)
  | movi h1 => exact rawOpcode_encodeIType _ _ (parseRegister_lt h1) (by decide)
  | shift _ h1 h2 =>
    exact rawOpcode_encodeRType _ _ (parseRegister_lt h1) (parseRegister_lt h2) (by decide)
  | jump => exact rawOpcode_encodeJType _ _

lemma Assembles.code_lt (h : Assembles tokens opcode word) : opcode.code < 12 := by
  cases h with
  | arithmetic hop => rcases hop with rfl | rfl | rfl | rfl <;> decide
  | immediate hop => rcases hop with rfl | rfl | rfl | rfl <;> decide
  | movi => decide
  | shift hop => rcases hop with rfl | rfl <;> decide
  | jump => decide

/-- An accepted word decodes to a valid instruction with the opcode of its line. -/
lemma Assembles.decoded (pc : UInt32) (h : Assembles tokens opcode word) :
    (decodeRawInstruction (fetchedRegister pc word)).valid = true ∧
      (decodeRawInstruction (fetchedRegister pc word)).opcode = opcode := by
  have hcode := h.code_lt
  rw [← h.rawOpcode] at hcode
  constructor
  · rw [decodeRawInstruction_valid]
    exact decide_eq_true hcode
  · rw [decodeRawInstruction_opcode]
    exact h.rawOpcode

end Fillet
