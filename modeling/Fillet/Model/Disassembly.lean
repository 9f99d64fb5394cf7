import Fillet.Library.Strtol
import Fillet.Model.Cpu

/-!
# The disassembler

`opcode_name` and `print_instruction_detail` of `pipeline_sim.c`.
-/

namespace Fillet

open CString

/-- `opcode_name`: opcode 6 is shown under its older name. -/
def opcodeName : Opcode → List Char
  | .add => "ADD".toList
  | .sub => "SUB".toList
  | .mul => "MUL".toList
  | .movi => "MOVI".toList
  | .jeq => "JEQ".toList
  | .and => "AND".toList
  | .ori => "XORI".toList
  | .jmp => "JMP".toList
  | .lsl => "LSL".toList
  | .lsr => "LSR".toList
  | .movr => "MOVR".toList
  | .movm => "MOVM".toList
  | .reserved _ => "UNKNOWN".toList

/-- ` R%d`. -/
def printRegister (r : Int) : List Char :=
  " R".toList ++ decimal r

/-- ` %d`. -/
def printNumber (value : Int) : List Char :=
  ' ' :: decimal value

/-- `0x%08X`. -/
def printWord (raw : UInt32) : List Char :=
  let digits := (Nat.toDigits 16 raw.toNat).map Char.toUpper
  "0x".toList ++ List.replicate (8 - digits.length) '0' ++ digits

/-- `print_instruction_detail`. -/
def printInstructionDetail (reg : PipelineRegister) : List Char :=
  if !reg.valid then "EMPTY\n".toList
  else
    match reg.opcode with
    | .add | .sub | .mul | .and =>
      opcodeName reg.opcode ++ printRegister reg.r1 ++ printRegister reg.r2 ++
        printRegister reg.r3 ++ ['\n']
    | .movi =>
      "MOVI".toList ++ printRegister reg.r1 ++ printNumber reg.immediate.toInt ++ ['\n']
    | .jeq =>
      "JEQ".toList ++ printRegister reg.r1 ++ printRegister reg.r2 ++
        printNumber reg.immediate.toInt ++ ['\n']
    | .ori | .lsl | .lsr | .movr | .movm =>
      if reg.opcode = .lsl ∨ reg.opcode = .lsr then
        opcodeName reg.opcode ++ printRegister reg.r1 ++ printRegister reg.r2 ++
          printNumber reg.shamt ++ ['\n']
      else
        opcodeName reg.opcode ++ printRegister reg.r1 ++ printRegister reg.r2 ++
          printNumber reg.immediate.toInt ++ ['\n']
    | .jmp => "JMP".toList ++ printNumber reg.address.toInt ++ ['\n']
    | .reserved _ =>
      opcodeName reg.opcode ++ " pc=".toList ++ decimal reg.pc.toNat ++ " raw=".toList ++
        printWord reg.rawInstruction ++ ['\n']

end Fillet
