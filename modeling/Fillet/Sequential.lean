import Fillet.Model.Pipeline

/-!
# The sequential machine

What the pipeline is meant to compute: one instruction at a time is fetched, decoded, given its
operands from the register file, executed, and written back before the next one starts. The state
keeps the history of retired instructions and attempted stores, which a step only appends to.

`finish` is the part of a step after the ALU. It ignores the operands that an instruction latches
without reading them (`instruction_reads_register`), which is why forwarding need not get those
right.
-/

namespace Fillet

/-- There is an instruction left to execute. -/
def running (cpu : CPU) : Bool :=
  cpu.pc < cpu.instructionCount.toUInt32

/-- The CPU together with what was retired and stored so far. -/
@[ext] structure Sequential where
  cpu : CPU
  retired : List Retirement
  stores : List (Int32 × Int32)

/-- Write back an instruction that has been through MEM. -/
def Sequential.writeBack (m : Sequential) (reg : PipelineRegister) : Sequential where
  cpu := wbResult m.cpu reg
  retired := m.retired ++ [retirement reg]
  stores := m.stores

/-- Memory access and write-back of an executed instruction. -/
def Sequential.finish (m : Sequential) (reg : PipelineRegister) : Sequential :=
  Sequential.writeBack
    { m with
      cpu := (memResult m.cpu reg).2
      stores := m.stores ++ (attemptedStore reg).toList }
    (memResult m.cpu reg).1

def Sequential.setPc (m : Sequential) (pc : UInt32) : Sequential :=
  { m with cpu := m.cpu.setPc pc }

/-- The instruction at the program counter with its operands. -/
def sequentialInstruction (cpu : CPU) : PipelineRegister :=
  latchOperands (readRegister cpu)
    (decodeRawInstruction (fetchedRegister cpu.pc (memoryFetchInstruction cpu cpu.pc)))

/-- The program counter after an instruction. -/
def nextPc (reg : PipelineRegister) : UInt32 :=
  (calculateBranchTarget reg).getD (reg.pc + 1)

/-- One instruction; a word without a format is skipped and does not retire. -/
def Sequential.step (m : Sequential) : Sequential :=
  if !running m.cpu then m
  else
    let reg := sequentialInstruction m.cpu
    if !reg.valid then m.setPc (m.cpu.pc + 1)
    else (m.finish (exResult reg)).setPc (nextPc (exResult reg))

/-- The sequential machine about to start on a CPU. -/
def Sequential.start (cpu : CPU) : Sequential where
  cpu := cpu
  retired := []
  stores := []

/-! ### Decoded registers -/

/-- What decoding establishes and no later stage undoes. -/
structure Decoded (reg : PipelineRegister) : Prop where
  control : reg.control = generateControlSignals reg.opcode
  r1_range : 0 ≤ reg.r1 ∧ reg.r1 < 32

lemma decoded_decodeRawInstruction (reg : PipelineRegister) :
    Decoded (decodeRawInstruction reg) where
  control := by rw [decodeRawInstruction_control, decodeRawInstruction_opcode]
  r1_range := (decodeRawInstruction_registers reg).1

lemma Decoded.latchOperands {reg : PipelineRegister} (h : Decoded reg) (read : Int → Int32) :
    Decoded (latchOperands read reg) where
  control := by simp [h.control]
  r1_range := by simpa using h.r1_range

lemma Decoded.exResult {reg : PipelineRegister} (h : Decoded reg) : Decoded (exResult reg) where
  control := by simp [h.control]
  r1_range := by simpa using h.r1_range

lemma Decoded.memResult {reg : PipelineRegister} (h : Decoded reg) (cpu : CPU) :
    Decoded (memResult cpu reg).1 where
  control := by simp [h.control]
  r1_range := by simpa using h.r1_range

/-! ### Operands that are latched but not read -/

/-- The opcodes whose second operand is latched from a register they do not read. -/
def ignoresOperand2 : Opcode → Bool
  | .ori | .lsl | .lsr | .movr => true
  | _ => false

lemma ignoresOperand2_iff (opcode : Opcode) :
    ignoresOperand2 opcode = true ↔
      opcode = .ori ∨ opcode = .lsl ∨ opcode = .lsr ∨ opcode = .movr := by
  cases opcode <;> simp [ignoresOperand2]

/-- Two ways of reading registers that agree where the instruction reads latch the same operands,
up to an ignored second one. -/
lemma latchOperands_congr {reg : PipelineRegister} (hvalid : reg.valid = true) {f g : Int → Int32}
    (hzero : f 0 = g 0) (hread : ∀ r, instructionReadsRegister reg r = true → f r = g r) :
    latchOperands f reg = latchOperands g reg ∨
      ignoresOperand2 reg.opcode = true ∧
        latchOperands f reg = { latchOperands g reg with operand2 := f reg.r1 } := by
  have hagree : ∀ r, (r ≠ 0 → instructionReadsRegister reg r = true) → f r = g r := by
    intro r hr
    by_cases h0 : r = 0
    · rw [h0, hzero]
    · exact hread r (hr h0)
  have h1 := hagree reg.r1
  have h2 := hagree reg.r2
  have h3 := hagree reg.r3
  cases hop : reg.opcode with
  | add | sub | mul | and =>
    left
    simp only [latchOperands, hop]
    rw [h2, h3] <;> simp [instructionReadsRegister, hvalid, hop]
  | jeq =>
    left
    simp only [latchOperands, hop]
    rw [h1, h2] <;> simp [instructionReadsRegister, hvalid, hop]
  | movm =>
    left
    simp only [latchOperands, hop]
    rw [h2, h1] <;> simp [instructionReadsRegister, hvalid, hop]
  | ori | lsl | lsr | movr =>
    right
    refine ⟨rfl, ?_⟩
    simp only [latchOperands, hop]
    rw [h2]
    simp [instructionReadsRegister, hvalid, hop]
  | movi | jmp | reserved k =>
    left
    simp only [latchOperands, hop]

/-- An ignored second operand reaches neither the branch decision ... -/
lemma calculateBranchTarget_operand2 {reg : PipelineRegister}
    (hop : ignoresOperand2 reg.opcode = true) (v : Int32) :
    calculateBranchTarget { reg with operand2 := v } = calculateBranchTarget reg := by
  rcases (ignoresOperand2_iff reg.opcode).mp hop with hcode | hcode | hcode | hcode <;>
    simp [calculateBranchTarget, hcode]

/-- ... nor the retirement, the CPU or a store. -/
lemma finish_operand2 {reg : PipelineRegister} (hreg : Decoded reg)
    (hop : ignoresOperand2 reg.opcode = true) (v : Int32) (m : Sequential) :
    m.finish (exResult { reg with operand2 := v }) = m.finish (exResult reg) := by
  have hcontrol := hreg.control
  rcases (ignoresOperand2_iff reg.opcode).mp hop with hcode | hcode | hcode | hcode
  all_goals
    simp [exResult, exAluResult, Sequential.finish, memResult, Sequential.writeBack, wbResult,
      retirement, attemptedStore, committedWrite, instructionWritesRegister, hcontrol, hcode,
      generateControlSignals, ControlSignals.zeroed, opcodeAluOperation, opcodeWritesRegister]

/-- Reading only the registers an instruction declares is enough for everything it does. -/
lemma finish_latchOperands_congr {reg : PipelineRegister} (hreg : Decoded reg)
    (hvalid : reg.valid = true) {f g : Int → Int32} (hzero : f 0 = g 0)
    (hread : ∀ r, instructionReadsRegister reg r = true → f r = g r) (m : Sequential) :
    m.finish (exResult (latchOperands f reg)) = m.finish (exResult (latchOperands g reg)) ∧
      calculateBranchTarget (latchOperands f reg) =
        calculateBranchTarget (latchOperands g reg) := by
  rcases latchOperands_congr hvalid hzero hread with heq | ⟨hop, heq⟩
  · simp only [heq, and_self]
  · have hop' : ignoresOperand2 (latchOperands g reg).opcode = true := by
      rwa [latchOperands_opcode]
    rw [heq]
    exact ⟨finish_operand2 (hreg.latchOperands g) hop' _ m, calculateBranchTarget_operand2 hop' _⟩

end Fillet
