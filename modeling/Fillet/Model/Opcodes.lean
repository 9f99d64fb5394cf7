import Mathlib.Tactic.Common
import Mathlib.Tactic.IntervalCases

/-!
# Opcodes and the instruction word

The opcode table of `opcodes.h`, the control enumerations of `decode_types.h` and the functions of
`opcodes.c`. The three layouts of a word are

* R-format: `[31:28]` opcode, `[27:23]` R1, `[22:18]` R2, `[17:13]` R3, `[12:0]` shamt
* I-format: `[31:28]` opcode, `[27:23]` R1, `[22:18]` R2, `[17:0]` immediate
* J-format: `[31:28]` opcode, `[27:0]` address
-/

namespace Fillet

/-- `opcode_t`. The cast of a four-bit field can also produce the values 12 to 15, which every
`switch` of the source sends to its `default` branch. -/
inductive Opcode where
  | add | sub | mul | movi | jeq | and | ori | jmp | lsl | lsr | movr | movm
  | reserved (code : Fin 4)
  deriving DecidableEq, Repr

/-- `instruction_format_t`. -/
inductive InstructionFormat where
  | invalid | r | i | j
  deriving DecidableEq, Repr

/-- `alu_operation_t`. -/
inductive AluOperation where
  | none | add | sub | mul | and | xor | shiftLeft | shiftRight | passB
  deriving DecidableEq, Repr

/-- `control_signals_t`. -/
structure ControlSignals where
  regWrite : Bool
  memRead : Bool
  memWrite : Bool
  memToReg : Bool
  branch : Bool
  jump : Bool
  useImmediate : Bool
  useShamt : Bool
  aluOp : AluOperation
  deriving DecidableEq, Repr

/-- The number an opcode stands for. -/
def Opcode.code : Opcode → ℕ
  | .add => 0
  | .sub => 1
  | .mul => 2
  | .movi => 3
  | .jeq => 4
  | .and => 5
  | .ori => 6
  | .jmp => 7
  | .lsl => 8
  | .lsr => 9
  | .movr => 10
  | .movm => 11
  | .reserved k => 12 + k.val

/-- The cast of a four-bit field to `opcode_t`. -/
def Opcode.ofCode (n : ℕ) : Opcode :=
  match n with
  | 0 => .add
  | 1 => .sub
  | 2 => .mul
  | 3 => .movi
  | 4 => .jeq
  | 5 => .and
  | 6 => .ori
  | 7 => .jmp
  | 8 => .lsl
  | 9 => .lsr
  | 10 => .movr
  | 11 => .movm
  | k + 12 => .reserved ⟨k % 4, Nat.mod_lt _ (by decide)⟩

/-- `opcode_from_string`, with `none` for the source's -1. -/
def opcodeFromString (text : List Char) : Option Opcode :=
  if text = "ADD".toList then some .add
  else if text = "SUB".toList then some .sub
  else if text = "MUL".toList then some .mul
  else if text = "MOVI".toList then some .movi
  else if text = "JEQ".toList then some .jeq
  else if text = "AND".toList then some .and
  else if text = "ORI".toList ∨ text = "XORI".toList then some .ori
  else if text = "JMP".toList then some .jmp
  else if text = "LSL".toList then some .lsl
  else if text = "LSR".toList then some .lsr
  else if text = "MOVR".toList then some .movr
  else if text = "MOVM".toList then some .movm
  else none

/-- `opcode_instruction_format`. -/
def opcodeInstructionFormat : Opcode → InstructionFormat
  | .add | .sub | .mul | .and | .lsl | .lsr => .r
  | .jmp => .j
  | .movi | .jeq | .ori | .movr | .movm => .i
  | .reserved _ => .invalid

/-- `opcode_alu_operation`. -/
def opcodeAluOperation : Opcode → AluOperation
  | .add => .add
  | .sub => .sub
  | .mul => .mul
  | .and => .and
  | .ori => .xor
  | .lsl => .shiftLeft
  | .lsr => .shiftRight
  | .movi => .passB
  | .jeq | .jmp | .movr | .movm | .reserved _ => .none

/-- `opcode_writes_register`. -/
def opcodeWritesRegister : Opcode → Bool
  | .add | .sub | .mul | .movi | .and | .ori | .lsl | .lsr | .movr => true
  | .jeq | .jmp | .movm | .reserved _ => false

/-- The opcode in bits `[31:28]`, as the encoders place it. -/
def Opcode.shifted (opcode : Opcode) : UInt32 :=
  UInt32.ofNat opcode.code <<< 28

/-- `encode_r_type`; the source masks the shift amount the same way for every opcode. -/
def encodeRType (opcode : Opcode) (r1 r2 r3 shamt : UInt32) : UInt32 :=
  opcode.shifted ||| (r1 <<< 23) ||| (r2 <<< 18) ||| (r3 <<< 13) ||| (shamt &&& 0x1FFF)

/-- `encode_i_type`. -/
def encodeIType (opcode : Opcode) (r1 r2 : UInt32) (immediate : Int32) : UInt32 :=
  opcode.shifted ||| (r1 <<< 23) ||| (r2 <<< 18) ||| (immediate.toUInt32 &&& 0x3FFFF)

/-- `encode_j_type`. -/
def encodeJType (opcode : Opcode) (address : UInt32) : UInt32 :=
  opcode.shifted ||| (address &&& 0x0FFFFFFF)

/-! ### The opcode field -/

lemma Opcode.code_lt (opcode : Opcode) : opcode.code < 16 := by
  cases opcode with
  | reserved k =>
    have := k.isLt
    simp only [Opcode.code]
    omega
  | _ => simp [Opcode.code]

@[simp] lemma Opcode.ofCode_code (opcode : Opcode) : Opcode.ofCode opcode.code = opcode := by
  cases opcode with
  | reserved k => revert k; decide
  | _ => rfl

lemma Opcode.code_ofCode {n : ℕ} (h : n < 16) : (Opcode.ofCode n).code = n := by
  interval_cases n <;> rfl

lemma opcodeInstructionFormat_eq_invalid_iff (opcode : Opcode) :
    opcodeInstructionFormat opcode = .invalid ↔ 12 ≤ opcode.code := by
  cases opcode <;> simp [opcodeInstructionFormat, Opcode.code]

end Fillet
