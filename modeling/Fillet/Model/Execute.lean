import Fillet.Model.Decode

/-!
# The execute module

The functions of `Execute.c`. The simulator itself does not call them: in the pipeline
`complete_ex_stage` and `calculate_branch_target` do their work.
-/

namespace Fillet

/-- `ALUResult`. -/
structure ALUResult where
  result : Int32
  zero : Bool
  negative : Bool
  carry : Bool
  overflow : Bool
  deriving DecidableEq, Repr

/-- `add_overflow`. -/
def addOverflow (a b result : Int32) : Bool :=
  (a > 0 && b > 0 && result < 0) || (a < 0 && b < 0 && result > 0)

/-- `sub_overflow`. -/
def subOverflow (a b result : Int32) : Bool :=
  (a > 0 && b < 0 && result < 0) || (a < 0 && b > 0 && result > 0)

/-- `executeALU`, with wrap-around arithmetic. The label `ALU_OP_OR` of its `switch` is declared
nowhere and selects no operation, so `ALU_OP_XOR` ends in the `default` branch and nothing reads the
immediate. C defines the shifts for amounts up to 31 only; nothing here checks that. -/
def executeALU (operation : AluOperation) (operand1 operand2 _immediate : Int32) (shamt : Int) :
    ALUResult :=
  let alu : ALUResult :=
    { result := 0, zero := false, negative := false, carry := false, overflow := false }
  let alu :=
    match operation with
    | .add =>
      let wideResult := operand1.toUInt32.toUInt64 + operand2.toUInt32.toUInt64
      let result := operand1 + operand2
      { alu with
        result := result
        carry := wideResult > 0xFFFFFFFF
        overflow := addOverflow operand1 operand2 result }
    | .sub =>
      let result := operand1 - operand2
      { alu with result := result, overflow := subOverflow operand1 operand2 result }
    | .mul => { alu with result := operand1 * operand2 }
    | .and => { alu with result := operand1 &&& operand2 }
    | .shiftLeft =>
      { alu with result := (operand1.toUInt32 <<< UInt32.ofNat shamt.toNat).toInt32 }
    | .shiftRight =>
      { alu with result := (operand1.toUInt32 >>> UInt32.ofNat shamt.toNat).toInt32 }
    | .passB => { alu with result := operand2 }
    | .xor | .none => alu
  { alu with zero := alu.result == 0, negative := alu.result < 0 }

/-- `evaluateBranch`: the target when it reports taken, in wrapping 32-bit arithmetic. -/
def evaluateBranch (stage : PipelineRegister) : Option UInt32 :=
  match stage.opcode with
  | .jeq =>
    if stage.operand1 = stage.operand2 then some (stage.pc + 1 + stage.immediate.toUInt32)
    else none
  | .jmp => some ((stage.pc &&& 0xF0000000) ||| (stage.address.toUInt32 &&& 0x0FFFFFFF))
  | _ => none

/-- `executeStage`. -/
def executeStage (stage : PipelineRegister) : PipelineRegister :=
  if !stage.valid then stage
  else
    let alu := executeALU stage.control.aluOp stage.operand1 stage.operand2 stage.immediate
      stage.shamt
    let stage := { stage with aluResult := alu.result }
    if stage.opcode = .movr ∨ stage.opcode = .movm then
      { stage with address := stage.operand1 + stage.immediate, memoryData := stage.operand2 }
    else stage

end Fillet
