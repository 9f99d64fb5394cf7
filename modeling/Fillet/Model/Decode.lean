import Fillet.Model.Cpu

/-!
# Decoding and the per-opcode tables of the pipeline

The part of `pipeline_sim.c` that works on a single `PipelineRegister`: `decode_raw_instruction`,
the read and write sets of the hazard unit, the branch resolver and the arithmetic of the EX stage.
-/

namespace Fillet

/-- `sign_extend`. -/
def signExtend (value : UInt32) (bitCount : ℕ) : Int32 :=
  let mask := (1 <<< UInt32.ofNat bitCount) - 1
  let signBit : UInt32 := 1 <<< (UInt32.ofNat bitCount - 1)
  let value := value &&& mask
  if value &&& signBit ≠ 0 then (value ||| ~~~mask).toInt32 else value.toInt32

/-- `generate_control_signals`. -/
def generateControlSignals (opcode : Opcode) : ControlSignals :=
  let control := { ControlSignals.zeroed with aluOp := opcodeAluOperation opcode }
  match opcode with
  | .add | .sub | .mul | .and => { control with regWrite := true }
  | .movi => { control with regWrite := true, useImmediate := true }
  | .jeq => { control with branch := true, useImmediate := true }
  | .ori => { control with regWrite := true, useImmediate := true }
  | .jmp => { control with jump := true }
  | .lsl | .lsr => { control with regWrite := true, useShamt := true }
  | .movr =>
    { control with regWrite := true, memRead := true, memToReg := true, useImmediate := true }
  | .movm => { control with memWrite := true, useImmediate := true }
  | .reserved _ => control

/-- The opcode field of a word. -/
def rawOpcode (raw : UInt32) : Opcode :=
  Opcode.ofCode ((raw >>> 28) &&& 0xF).toNat

/-- `decode_raw_instruction`: only `valid`, `rawInstruction` and `pc` survive, and `valid` is
cleared for an opcode without a format. -/
def decodeRawInstruction (reg : PipelineRegister) : PipelineRegister :=
  let raw := reg.rawInstruction
  let opcode := rawOpcode raw
  let reg :=
    { PipelineRegister.zeroed with
      valid := reg.valid
      rawInstruction := raw
      pc := reg.pc
      opcode := opcode
      format := opcodeInstructionFormat opcode
      control := generateControlSignals opcode }
  match reg.format with
  | .invalid => { reg with valid := false }
  | .j => { reg with address := (raw &&& 0x0FFFFFFF).toInt32 }
  | .r =>
    { reg with
      r1 := ((raw >>> 23) &&& 0x1F).toNat
      r2 := ((raw >>> 18) &&& 0x1F).toNat
      r3 := ((raw >>> 13) &&& 0x1F).toNat
      shamt := (raw &&& 0x1FFF).toNat }
  | .i =>
    { reg with
      r1 := ((raw >>> 23) &&& 0x1F).toNat
      r2 := if opcode = .movi then 0 else ((raw >>> 18) &&& 0x1F).toNat
      immediate := signExtend (raw &&& 0x3FFFF) 18 }

/-- `instruction_writes_register`. -/
def instructionWritesRegister (reg : PipelineRegister) : Bool :=
  reg.valid && opcodeWritesRegister reg.opcode

/-- `destination_register`. -/
def destinationRegister (reg : PipelineRegister) : Int :=
  if instructionWritesRegister reg then reg.r1 else -1

/-- `instruction_reads_register`. -/
def instructionReadsRegister (reg : PipelineRegister) (regIndex : Int) : Bool :=
  if !reg.valid || regIndex == 0 then false
  else
    match reg.opcode with
    | .add | .sub | .mul | .and => reg.r2 == regIndex || reg.r3 == regIndex
    | .jeq => reg.r1 == regIndex || reg.r2 == regIndex
    | .ori | .lsl | .lsr | .movr => reg.r2 == regIndex
    | .movm => reg.r1 == regIndex || reg.r2 == regIndex
    | .movi | .jmp | .reserved _ => false

/-- The operand table of `latch_decode_operands`, over any way of reading a register. -/
def latchOperands (read : Int → Int32) (reg : PipelineRegister) : PipelineRegister :=
  match reg.opcode with
  | .add | .sub | .mul | .and => { reg with operand1 := read reg.r2, operand2 := read reg.r3 }
  | .jeq => { reg with operand1 := read reg.r1, operand2 := read reg.r2 }
  | .ori | .lsl | .lsr | .movr | .movm =>
    { reg with operand1 := read reg.r2, operand2 := read reg.r1 }
  | .movi => { reg with operand1 := 0, operand2 := reg.immediate }
  | .jmp | .reserved _ => reg

/-- The register numbers `latchOperands` asks for. -/
def latchedRegisters (reg : PipelineRegister) : List Int :=
  match reg.opcode with
  | .add | .sub | .mul | .and => [reg.r2, reg.r3]
  | .jeq => [reg.r1, reg.r2]
  | .ori | .lsl | .lsr | .movr | .movm => [reg.r2, reg.r1]
  | .movi | .jmp | .reserved _ => []

/-- `calculate_branch_target`: the target when it reports taken. The JEQ target is computed in
64-bit arithmetic and rejected outside instruction memory, and so is the JMP target. -/
def calculateBranchTarget (reg : PipelineRegister) : Option UInt32 :=
  match reg.opcode with
  | .jeq =>
    if reg.operand1 = reg.operand2 then
      let signedTarget : Int := reg.pc.toNat + 1 + reg.immediate.toInt
      if signedTarget < 0 ∨ signedTarget ≥ instructionMemorySize then none
      else some (UInt32.ofNat signedTarget.toNat)
    else none
  | .jmp =>
    let targetPc := (reg.pc &&& 0xF0000000) ||| (reg.address.toUInt32 &&& 0x0FFFFFFF)
    if targetPc.toNat ≥ instructionMemorySize then none else some targetPc
  | _ => none

/-- The `switch` of `complete_ex_stage` on the ALU operation, with wrap-around arithmetic;
`ALU_OP_NONE` keeps the old result. -/
def exAluResult (reg : PipelineRegister) : Int32 :=
  match reg.control.aluOp with
  | .add => reg.operand1 + reg.operand2
  | .sub => reg.operand1 - reg.operand2
  | .mul => reg.operand1 * reg.operand2
  | .and => reg.operand1 &&& reg.operand2
  | .xor => reg.operand1 ^^^ reg.immediate
  | .shiftLeft =>
    if reg.shamt < 0 ∨ reg.shamt > 31 then 0
    else (reg.operand1.toUInt32 <<< UInt32.ofNat reg.shamt.toNat).toInt32
  | .shiftRight =>
    if reg.shamt < 0 ∨ reg.shamt > 31 then 0
    else (reg.operand1.toUInt32 >>> UInt32.ofNat reg.shamt.toNat).toInt32
  | .passB => reg.operand2
  | .none => reg.aluResult

/-- What `complete_ex_stage` stores into the register: the ALU result and, for a load or a store,
the effective address and the store data. -/
def exResult (reg : PipelineRegister) : PipelineRegister :=
  let reg := { reg with aluResult := exAluResult reg }
  if reg.opcode = .movr ∨ reg.opcode = .movm then
    { reg with address := reg.operand1 + reg.immediate, memoryData := reg.operand2 }
  else reg

/-- The data-memory access of `complete_mem_stage`: the register and the CPU afterwards. -/
def memResult (target : CPU) (reg : PipelineRegister) : PipelineRegister × CPU :=
  if reg.control.memRead then
    ({ reg with memoryData := (readMemory target reg.address).1 },
      (readMemory target reg.address).2)
  else if reg.control.memWrite then (reg, writeMemory target reg.address reg.memoryData)
  else (reg, target)

/-- The store `complete_mem_stage` attempts, whether or not `writeMemory` accepts the address. -/
def attemptedStore (reg : PipelineRegister) : Option (Int32 × Int32) :=
  if reg.control.memRead then none
  else if reg.control.memWrite then some (reg.address, reg.memoryData)
  else none

/-- The register write `complete_wb_stage` commits: the register number and the value. -/
def committedWrite (reg : PipelineRegister) : Option (Int × Int32) :=
  if !instructionWritesRegister reg || !reg.control.regWrite then none
  else if reg.control.memToReg then some (reg.r1, reg.memoryData)
  else some (reg.r1, reg.aluResult)

/-- The effect of `complete_wb_stage` on the register file. -/
def wbResult (target : CPU) (reg : PipelineRegister) : CPU :=
  match committedWrite reg with
  | none => target
  | some (r, value) => writeRegister target r value

/-! ### What decoding and the stages keep -/

@[simp] lemma generateControlSignals_aluOp (opcode : Opcode) :
    (generateControlSignals opcode).aluOp = opcodeAluOperation opcode := by
  cases opcode <;> rfl

@[simp] lemma decodeRawInstruction_opcode (reg : PipelineRegister) :
    (decodeRawInstruction reg).opcode = rawOpcode reg.rawInstruction := by
  simp only [decodeRawInstruction]
  split <;> rfl

@[simp] lemma decodeRawInstruction_control (reg : PipelineRegister) :
    (decodeRawInstruction reg).control = generateControlSignals (rawOpcode reg.rawInstruction) := by
  simp only [decodeRawInstruction]
  split <;> rfl

@[simp] lemma decodeRawInstruction_rawInstruction (reg : PipelineRegister) :
    (decodeRawInstruction reg).rawInstruction = reg.rawInstruction := by
  simp only [decodeRawInstruction]
  split <;> rfl

@[simp] lemma decodeRawInstruction_pc (reg : PipelineRegister) :
    (decodeRawInstruction reg).pc = reg.pc := by
  simp only [decodeRawInstruction]
  split <;> rfl

/-- Decoding clears `valid` exactly for the four unassigned opcodes. -/
lemma decodeRawInstruction_valid (reg : PipelineRegister) :
    (decodeRawInstruction reg).valid =
      (reg.valid && decide ((rawOpcode reg.rawInstruction).code < 12)) := by
  have hiff := opcodeInstructionFormat_eq_invalid_iff (rawOpcode reg.rawInstruction)
  simp only [decodeRawInstruction]
  split <;> rename_i hformat
  · have hcode := hiff.mp hformat
    simp [Nat.not_lt.mpr hcode]
  all_goals
    have hcode : ¬ 12 ≤ (rawOpcode reg.rawInstruction).code := by
      rw [← hiff, hformat]
      exact fun h => InstructionFormat.noConfusion h
    simp [Nat.not_le.mp hcode]

/-- Decoding looks at the validity, the word and the address of an instruction only. -/
lemma decodeRawInstruction_congr {reg reg' : PipelineRegister} (hvalid : reg.valid = reg'.valid)
    (hraw : reg.rawInstruction = reg'.rawInstruction) (hpc : reg.pc = reg'.pc) :
    decodeRawInstruction reg = decodeRawInstruction reg' := by
  simp only [decodeRawInstruction, hvalid, hraw, hpc]

lemma toNat_and_register (x : UInt32) : (x &&& 0x1F).toNat < 32 := by
  rw [UInt32.toNat_and]
  exact Nat.lt_succ_of_le Nat.and_le_right

lemma decodeRawInstruction_registers (reg : PipelineRegister) :
    (0 ≤ (decodeRawInstruction reg).r1 ∧ (decodeRawInstruction reg).r1 < 32) ∧
    (0 ≤ (decodeRawInstruction reg).r2 ∧ (decodeRawInstruction reg).r2 < 32) ∧
    (0 ≤ (decodeRawInstruction reg).r3 ∧ (decodeRawInstruction reg).r3 < 32) := by
  have h1 := toNat_and_register (reg.rawInstruction >>> 23)
  have h2 := toNat_and_register (reg.rawInstruction >>> 18)
  have h3 := toNat_and_register (reg.rawInstruction >>> 13)
  simp only [decodeRawInstruction]
  split <;> simp only [PipelineRegister.zeroed] <;> omega

@[simp] lemma latchOperands_valid (read : Int → Int32) (reg : PipelineRegister) :
    (latchOperands read reg).valid = reg.valid := by
  simp only [latchOperands]
  split <;> rfl

@[simp] lemma latchOperands_pc (read : Int → Int32) (reg : PipelineRegister) :
    (latchOperands read reg).pc = reg.pc := by
  simp only [latchOperands]
  split <;> rfl

@[simp] lemma latchOperands_opcode (read : Int → Int32) (reg : PipelineRegister) :
    (latchOperands read reg).opcode = reg.opcode := by
  simp only [latchOperands]
  split <;> rfl

@[simp] lemma latchOperands_control (read : Int → Int32) (reg : PipelineRegister) :
    (latchOperands read reg).control = reg.control := by
  simp only [latchOperands]
  split <;> rfl

@[simp] lemma latchOperands_r1 (read : Int → Int32) (reg : PipelineRegister) :
    (latchOperands read reg).r1 = reg.r1 := by
  simp only [latchOperands]
  split <;> rfl

@[simp] lemma exResult_valid (reg : PipelineRegister) : (exResult reg).valid = reg.valid := by
  simp only [exResult]
  split_ifs <;> rfl

@[simp] lemma exResult_pc (reg : PipelineRegister) : (exResult reg).pc = reg.pc := by
  simp only [exResult]
  split_ifs <;> rfl

@[simp] lemma exResult_opcode (reg : PipelineRegister) : (exResult reg).opcode = reg.opcode := by
  simp only [exResult]
  split_ifs <;> rfl

@[simp] lemma exResult_control (reg : PipelineRegister) : (exResult reg).control = reg.control := by
  simp only [exResult]
  split_ifs <;> rfl

@[simp] lemma exResult_r1 (reg : PipelineRegister) : (exResult reg).r1 = reg.r1 := by
  simp only [exResult]
  split_ifs <;> rfl

@[simp] lemma exResult_rawInstruction (reg : PipelineRegister) :
    (exResult reg).rawInstruction = reg.rawInstruction := by
  simp only [exResult]
  split_ifs <;> rfl

/-- The EX stage does not touch what a branch is decided on. -/
lemma calculateBranchTarget_exResult (reg : PipelineRegister) :
    calculateBranchTarget (exResult reg) = calculateBranchTarget reg := by
  simp only [exResult]
  split_ifs with hmem
  · rcases hmem with hop | hop <;> simp [calculateBranchTarget, hop]
  · rfl

lemma calculateBranchTarget_opcode {reg : PipelineRegister} {a : UInt32}
    (h : calculateBranchTarget reg = some a) : reg.opcode = .jeq ∨ reg.opcode = .jmp := by
  simp only [calculateBranchTarget] at h
  split at h <;> simp_all

@[simp] lemma memResult_valid (cpu : CPU) (reg : PipelineRegister) :
    (memResult cpu reg).1.valid = reg.valid := by
  simp only [memResult]
  split_ifs <;> rfl

@[simp] lemma memResult_control (cpu : CPU) (reg : PipelineRegister) :
    (memResult cpu reg).1.control = reg.control := by
  simp only [memResult]
  split_ifs <;> rfl

@[simp] lemma memResult_opcode (cpu : CPU) (reg : PipelineRegister) :
    (memResult cpu reg).1.opcode = reg.opcode := by
  simp only [memResult]
  split_ifs <;> rfl

@[simp] lemma memResult_r1 (cpu : CPU) (reg : PipelineRegister) :
    (memResult cpu reg).1.r1 = reg.r1 := by
  simp only [memResult]
  split_ifs <;> rfl

@[simp] lemma memResult_pc (cpu : CPU) (reg : PipelineRegister) :
    (memResult cpu reg).2.pc = cpu.pc := by
  simp only [memResult]
  split_ifs <;> simp

@[simp] lemma memResult_instructionCount (cpu : CPU) (reg : PipelineRegister) :
    (memResult cpu reg).2.instructionCount = cpu.instructionCount := by
  simp only [memResult]
  split_ifs <;> simp

@[simp] lemma memResult_registers (cpu : CPU) (reg : PipelineRegister) :
    (memResult cpu reg).2.registers = cpu.registers := by
  simp only [memResult]
  split_ifs <;> simp

@[simp] lemma wbResult_pc (cpu : CPU) (reg : PipelineRegister) :
    (wbResult cpu reg).pc = cpu.pc := by
  simp only [wbResult]
  split <;> simp

@[simp] lemma wbResult_instructionCount (cpu : CPU) (reg : PipelineRegister) :
    (wbResult cpu reg).instructionCount = cpu.instructionCount := by
  simp only [wbResult]
  split <;> simp

@[simp] lemma wbResult_memory (cpu : CPU) (reg : PipelineRegister) :
    (wbResult cpu reg).memory = cpu.memory := by
  simp only [wbResult]
  split <;> simp

/-- MEM does not change instruction memory. -/
lemma memResult_instruction (cpu : CPU) (reg : PipelineRegister) {i : Fin memorySize}
    (hi : i.val < 1024) : (memResult cpu reg).2.memory i = cpu.memory i := by
  simp only [memResult]
  split_ifs
  · simp
  · exact writeMemory_instruction cpu _ _ hi
  · rfl

/-- Neither MEM nor WB looks at the program counter. -/
lemma memResult_setPc (cpu : CPU) (reg : PipelineRegister) (w : UInt32) :
    memResult (cpu.setPc w) reg = ((memResult cpu reg).1, (memResult cpu reg).2.setPc w) := by
  simp only [memResult]
  split_ifs <;> simp [readMemory_setPc, writeMemory_setPc]

lemma wbResult_setPc (cpu : CPU) (reg : PipelineRegister) (w : UInt32) :
    wbResult (cpu.setPc w) reg = (wbResult cpu reg).setPc w := by
  simp only [wbResult]
  split <;> simp [writeRegister_setPc]

end Fillet
