import Fillet.LoadStore
import Fillet.RegisterTransfer

/-!
# The read and write sets of an instruction

`instruction_reads_register` and `destination_register` are what the hazard unit knows about an
instruction. Executed alone, an instruction does the same in two states that agree on the registers
it is said to read, and changes nothing but the register it is said to write and the word that a
store addresses.
-/

namespace Fillet

variable {cpu cpu' : CPU} {pc raw : UInt32}

/-- An instruction with no older one in flight: ID latches its operands and EX completes, ... -/
def afterEx (cpu : CPU) (pc raw : UInt32) : Simulation :=
  completeExStage ((Simulation.start cpu none).place .stageEx
    (setSlot (latchDecodeOperands cpu .zeroed (fetchedRegister pc raw)) exCycles))

/-- ... then MEM, ... -/
def afterMem (cpu : CPU) (pc raw : UInt32) : Simulation :=
  completeMemStage ((afterEx cpu pc raw).place .stageMem
    (setSlot (afterEx cpu pc raw).engine.exStage.reg memCycles))

/-- ... then WB. -/
def executeAlone (cpu : CPU) (pc raw : UInt32) : Simulation :=
  completeWbStage ((afterMem cpu pc raw).place .stageWb
    (setSlot (afterMem cpu pc raw).engine.memStage.reg wbCycles))

/-- What `calculate_branch_target` decides for it. -/
def branchDecision (cpu : CPU) (pc raw : UInt32) : Option UInt32 :=
  calculateBranchTarget (latchDecodeOperands cpu .zeroed (fetchedRegister pc raw))

/-- The instruction as ID decodes it. -/
def decodedWord (pc raw : UInt32) : PipelineRegister :=
  decodeRawInstruction (fetchedRegister pc raw)

/-! ### The stages one after the other -/

/-- Nothing is forwarded when nothing is in flight. -/
lemma readOperandWithForwarding_zeroed (cpu : CPU) :
    readOperandWithForwarding cpu .zeroed = readRegister cpu := by
  funext r
  have hempty : destinationRegister PipelineRegister.zeroed = -1 := rfl
  simp only [readOperandWithForwarding, PipelineEngine.zeroed, clearSlot, hempty]
  by_cases hnone : (-1 : Int) = r
  · subst hnone
    rfl
  · by_cases hzero : r = 0
    · simp [hzero]
    · simp [hzero, hnone]

lemma latchDecodeOperands_zeroed (cpu : CPU) (pc raw : UInt32) :
    latchDecodeOperands cpu .zeroed (fetchedRegister pc raw) =
      latchOperands (readRegister cpu) (decodedWord pc raw) := by
  rw [latchDecodeOperands, readOperandWithForwarding_zeroed, decodedWord]

lemma completeExStage_object (s : Simulation) : (completeExStage s).object = s.object := by
  simp only [completeExStage]
  split_ifs
  · split <;> rfl
  · rfl

/-- EX changes nothing of the CPU but the program counter, which a taken branch sets. -/
lemma completeExStage_cpu {s : Simulation} (hreg : Decoded s.engine.exStage.reg) :
    (completeExStage s).cpu =
      s.cpu.setPc ((calculateBranchTarget s.engine.exStage.reg).getD s.cpu.pc) := by
  simp only [completeExStage, exResult_control, calculateBranchTarget_exResult]
  split_ifs with hbranch
  · cases calculateBranchTarget s.engine.exStage.reg <;> rfl
  · have hnone : calculateBranchTarget s.engine.exStage.reg = none := by
      rw [hreg.branch_or_jump] at hbranch
      cases htarget : calculateBranchTarget s.engine.exStage.reg with
      | none => rfl
      | some a => exact absurd (calculateBranchTarget_opcode htarget) hbranch
    rw [hnone]
    rfl

/-- The instruction with its operands, as it leaves EX. -/
def executedWord (cpu : CPU) (pc raw : UInt32) : PipelineRegister :=
  exResult (latchOperands (readRegister cpu) (decodedWord pc raw))

lemma decoded_executedWord (cpu : CPU) (pc raw : UInt32) : Decoded (executedWord cpu pc raw) :=
  ((decoded_decodeRawInstruction _).latchOperands _).exResult

lemma afterEx_object (cpu : CPU) (pc raw : UInt32) : (afterEx cpu pc raw).object = none :=
  completeExStage_object _

lemma afterEx_exStage (cpu : CPU) (pc raw : UInt32) :
    (afterEx cpu pc raw).engine.exStage.reg = executedWord cpu pc raw := by
  rw [executedWord, ← latchDecodeOperands_zeroed]
  exact completeExStage_exStage _

lemma afterEx_cpu (cpu : CPU) (pc raw : UInt32) :
    (afterEx cpu pc raw).cpu = cpu.setPc ((branchDecision cpu pc raw).getD cpu.pc) := by
  apply completeExStage_cpu
  show Decoded (latchDecodeOperands cpu .zeroed (fetchedRegister pc raw))
  rw [latchDecodeOperands_zeroed]
  exact (decoded_decodeRawInstruction _).latchOperands _

lemma afterMem_object (cpu : CPU) (pc raw : UInt32) : (afterMem cpu pc raw).object = none :=
  completeMemStage_object (afterEx_object cpu pc raw)

lemma afterMem_memStage (cpu : CPU) (pc raw : UInt32) :
    (afterMem cpu pc raw).engine.memStage.reg = (memResult cpu (executedWord cpu pc raw)).1 := by
  have htarget : ∀ slot, ((afterEx cpu pc raw).place .stageMem slot).target =
      (afterEx cpu pc raw).cpu := by
    intro slot
    show (afterEx cpu pc raw).object.getD _ = _
    rw [afterEx_object]
    rfl
  rw [afterMem, completeMemStage_memStage, htarget]
  show (memResult (afterEx cpu pc raw).cpu (afterEx cpu pc raw).engine.exStage.reg).1 = _
  rw [afterEx_exStage, afterEx_cpu, memResult_setPc]

lemma afterMem_cpu (cpu : CPU) (pc raw : UInt32) :
    (afterMem cpu pc raw).cpu = (memResult cpu (executedWord cpu pc raw)).2.setPc
      ((branchDecision cpu pc raw).getD cpu.pc) := by
  rw [afterMem, completeMemStage_cpu]
  · show (memResult (afterEx cpu pc raw).cpu (afterEx cpu pc raw).engine.exStage.reg).2 = _
    rw [afterEx_exStage, afterEx_cpu, memResult_setPc]
  · exact afterEx_object cpu pc raw

lemma completeWbStage_engine (s : Simulation) : (completeWbStage s).engine = s.engine := by
  simp only [completeWbStage, Simulation.setTarget]
  split <;> rfl

/-- What an instruction leaves in WB. -/
lemma executeAlone_wbStage (cpu : CPU) (pc raw : UInt32) :
    (executeAlone cpu pc raw).engine.wbStage.reg = (memResult cpu (executedWord cpu pc raw)).1 := by
  rw [← afterMem_memStage]
  exact congrArg (fun e : PipelineEngine => e.wbStage.reg) (completeWbStage_engine _)

/-- The CPU after an instruction: MEM and WB of the executed register, and the program counter that
a taken branch sets. -/
lemma executeAlone_cpu (cpu : CPU) (pc raw : UInt32) :
    (executeAlone cpu pc raw).cpu =
      (wbResult (memResult cpu (executedWord cpu pc raw)).2
        (memResult cpu (executedWord cpu pc raw)).1).setPc
          ((branchDecision cpu pc raw).getD cpu.pc) := by
  have hstage : (executeAlone cpu pc raw).cpu =
      wbResult (afterMem cpu pc raw).cpu (afterMem cpu pc raw).engine.memStage.reg :=
    completeWbStage_cpu (afterMem_object cpu pc raw)
  rw [hstage, afterMem_memStage, afterMem_cpu, wbResult_setPc]

/-! ### What an instruction leaves alone -/

lemma destinationRegister_executedWord (cpu : CPU) (pc raw : UInt32) :
    destinationRegister (executedWord cpu pc raw) = destinationRegister (decodedWord pc raw) := by
  rw [executedWord, destinationRegister_exResult]
  simp [destinationRegister, instructionWritesRegister]

/-- The commit of a decoded instruction names its destination. -/
lemma Decoded.committedWrite_destination {reg : PipelineRegister} (h : Decoded reg) {r : Int}
    {v : Int32} (hwrite : Fillet.committedWrite reg = some (r, v)) :
    r = destinationRegister reg ∧ 0 ≤ r ∧ r < 32 := by
  rw [h.committedWrite] at hwrite
  split_ifs at hwrite with hwrites
  rw [Option.some.injEq, Prod.mk.injEq] at hwrite
  rw [← hwrite.1, destinationRegister, if_pos hwrites]
  exact ⟨rfl, h.r1_range⟩

lemma wbResult_other {reg : PipelineRegister} (h : Decoded reg) (cpu : CPU) {i : Fin registerCount}
    (hi : (i.val : Int) ≠ destinationRegister reg) :
    (wbResult cpu reg).registers i = cpu.registers i := by
  rw [wbResult]
  cases hwrite : committedWrite reg with
  | none => rfl
  | some write =>
    obtain ⟨r, v⟩ := write
    obtain ⟨hdest, hrange⟩ := h.committedWrite_destination hwrite
    exact writeRegister_other cpu hrange v (by rwa [hdest])

/-- Only a store changes memory, in the cell that its address selects. -/
lemma memResult_other {reg : PipelineRegister} (h : Decoded reg) (cpu : CPU) {i : Fin memorySize}
    (hi : reg.opcode = .movm → (i.val : Int) ≠ reg.address.toInt) :
    (memResult cpu reg).2.memory i = cpu.memory i := by
  rw [memResult]
  split_ifs with hread hwrite
  · exact congrFun (readMemory_memory cpu _) i
  · have hop : reg.opcode = .movm := by
      rw [h.control] at hwrite
      cases hop : reg.opcode <;> simp [hop, generateControlSignals, ControlSignals.zeroed] at hwrite
      rfl
    rw [writeMemory]
    split_ifs with hdata
    · rfl
    · have hrange := (isDataAddress_iff _).mp (by simpa using hdata)
      have hne : i ≠ memoryIndex reg.address := by
        rintro rfl
        apply hi hop
        show ((reg.address.toInt.toNat % 2048 : ℕ) : Int) = reg.address.toInt
        omega
      exact Function.update_of_ne hne ..
  · rfl

/-- Everything but the destination register and the word a store addresses is as it was. -/
structure Framed (cpu : CPU) (pc raw : UInt32) : Prop where
  written : ∀ r v, committedWrite (executeAlone cpu pc raw).engine.wbStage.reg = some (r, v) →
    r = destinationRegister (decodedWord pc raw)
  registers : ∀ i : Fin registerCount, (i.val : Int) ≠ destinationRegister (decodedWord pc raw) →
    (executeAlone cpu pc raw).cpu.registers i = cpu.registers i
  memory : ∀ i : Fin memorySize,
    ((decodedWord pc raw).opcode = .movm →
      (i.val : Int) ≠ (effectiveAddress cpu (decodedWord pc raw)).toInt) →
    (executeAlone cpu pc raw).cpu.memory i = cpu.memory i

lemma framed (cpu : CPU) (pc raw : UInt32) : Framed cpu pc raw := by
  have hexecuted := decoded_executedWord cpu pc raw
  have hdest := destinationRegister_executedWord cpu pc raw
  constructor
  case written =>
    intro r v hwrite
    rw [executeAlone_wbStage] at hwrite
    rw [((hexecuted.memResult cpu).committedWrite_destination hwrite).1,
      destinationRegister_memResult, hdest]
  case registers =>
    intro i hi
    rw [executeAlone_cpu, CPU.setPc_registers, wbResult_other (hexecuted.memResult cpu),
      memResult_registers]
    rwa [destinationRegister_memResult, hdest]
  case memory =>
    intro i hi
    rw [executeAlone_cpu, CPU.setPc_memory, wbResult_memory, memResult_other hexecuted]
    intro hop
    have hop' : (decodedWord pc raw).opcode = .movm := by simpa [executedWord] using hop
    have haddress : (executedWord cpu pc raw).address =
        effectiveAddress cpu (decodedWord pc raw) := by
      simp [executedWord, exResult, hop', latchOperands, effectiveAddress]
    rw [haddress]
    exact hi hop'

/-! ### What an instruction looks at -/

/-- In two states an instruction decides the same, leaves the same memory and writes the same. -/
structure SameEffect (cpu cpu' : CPU) (pc raw : UInt32) : Prop where
  decision : branchDecision cpu pc raw = branchDecision cpu' pc raw
  nextPc : (executeAlone cpu pc raw).cpu.pc = (executeAlone cpu' pc raw).cpu.pc
  memory : (executeAlone cpu pc raw).cpu.memory = (executeAlone cpu' pc raw).cpu.memory
  written : committedWrite (executeAlone cpu pc raw).engine.wbStage.reg =
    committedWrite (executeAlone cpu' pc raw).engine.wbStage.reg
  destination : ∀ i : Fin registerCount, (i.val : Int) = destinationRegister (decodedWord pc raw) →
    (executeAlone cpu pc raw).cpu.registers i = (executeAlone cpu' pc raw).cpu.registers i

/-- MEM looks at memory only. -/
lemma memResult_congr (hmemory : cpu.memory = cpu'.memory) (reg : PipelineRegister) :
    (memResult cpu reg).1 = (memResult cpu' reg).1 ∧
      (memResult cpu reg).2.memory = (memResult cpu' reg).2.memory := by
  have hread : ∀ a, (readMemory cpu a).1 = (readMemory cpu' a).1 := by
    intro a
    simp only [readMemory, hmemory]
    split_ifs <;> rfl
  have hwrite : ∀ a v, (writeMemory cpu a v).memory = (writeMemory cpu' a v).memory := by
    intro a v
    simp only [writeMemory]
    split_ifs
    · exact hmemory
    · simp only [hmemory]
  simp only [memResult]
  split_ifs
  · simp [hread, hmemory]
  · exact ⟨rfl, hwrite _ _⟩
  · exact ⟨rfl, hmemory⟩

/-- What a register that is written holds afterwards does not depend on what it held before. -/
lemma writeRegister_self (cpu : CPU) {r : Int} (hr : 0 ≤ r ∧ r < 32) (v : Int32) :
    (writeRegister cpu r v).registers (registerIndex r) = if r = 0 then 0 else v := by
  split_ifs with hzero
  · subst hzero
    exact Function.update_self (registerIndex 0) 0 cpu.registers
  · rw [writeRegister_of_range cpu v ⟨by omega, hr.2⟩]
    exact Function.update_self ..

lemma wbResult_destination {reg : PipelineRegister} (h : Decoded reg) (cpu cpu' : CPU)
    {i : Fin registerCount} (hi : (i.val : Int) = destinationRegister reg) :
    (wbResult cpu reg).registers i = (wbResult cpu' reg).registers i := by
  have hwrites : instructionWritesRegister reg = true := by
    by_contra hnot
    rw [destinationRegister, if_neg hnot] at hi
    omega
  have hwrite : committedWrite reg = some (reg.r1, writtenValue reg) := by
    rw [h.committedWrite, if_pos hwrites]
  have hindex : i = registerIndex reg.r1 := by
    rw [destinationRegister, if_pos hwrites] at hi
    have hlt : i.val < 32 := i.isLt
    apply Fin.ext
    show i.val = reg.r1.toNat % 32
    omega
  rw [wbResult, wbResult, hwrite, hindex]
  dsimp only
  rw [writeRegister_self cpu h.r1_range, writeRegister_self cpu' h.r1_range]

/-- Operands that are latched without being read make no difference. -/
lemma executedWord_congr (hop : (rawOpcode raw).code < 12)
    (hread : ∀ r, instructionReadsRegister (decodedWord pc raw) r = true →
      readRegister cpu r = readRegister cpu' r) (m : Sequential) :
    m.finish (executedWord cpu pc raw) = m.finish (executedWord cpu' pc raw) ∧
      branchDecision cpu pc raw = branchDecision cpu' pc raw := by
  have hvalid : (decodedWord pc raw).valid = true := by
    rw [decodedWord, decodeRawInstruction_valid]
    exact decide_eq_true hop
  rw [branchDecision, branchDecision, latchDecodeOperands_zeroed, latchDecodeOperands_zeroed]
  apply finish_latchOperands_congr (decoded_decodeRawInstruction _) hvalid
  · rw [readRegister_zero, readRegister_zero]
  · exact hread

/-- The read and write sets are sound: states that agree on the program counter, the memory and the
registers an instruction is said to read agree on everything it does, and it does nothing else. -/
theorem read_write_sets_sound (pc raw : UInt32) (cpu cpu' : CPU) (hop : (rawOpcode raw).code < 12)
    (hpc : cpu.pc = cpu'.pc) (hmemory : cpu.memory = cpu'.memory)
    (hread : ∀ r, instructionReadsRegister (decodedWord pc raw) r = true →
      readRegister cpu r = readRegister cpu' r) :
    SameEffect cpu cpu' pc raw ∧ Framed cpu pc raw ∧ Framed cpu' pc raw := by
  refine ⟨?_, framed cpu pc raw, framed cpu' pc raw⟩
  obtain ⟨hfinish, hdecision⟩ := executedWord_congr hop hread (.start cpu)
  obtain ⟨haccess, hstored⟩ := memResult_congr hmemory (executedWord cpu' pc raw)
  -- on one CPU the two executed registers do the same
  have hcpu : wbResult (memResult cpu (executedWord cpu pc raw)).2
        (memResult cpu (executedWord cpu pc raw)).1 =
      wbResult (memResult cpu (executedWord cpu' pc raw)).2
        (memResult cpu (executedWord cpu' pc raw)).1 := congrArg Sequential.cpu hfinish
  have hwritten : committedWrite (memResult cpu (executedWord cpu pc raw)).1 =
      committedWrite (memResult cpu (executedWord cpu' pc raw)).1 := by
    have hsingle : [retirement (memResult cpu (executedWord cpu pc raw)).1] =
        [retirement (memResult cpu (executedWord cpu' pc raw)).1] :=
      congrArg Sequential.retired hfinish
    exact congrArg Retirement.write (List.singleton_inj.mp hsingle)
  constructor
  case decision => exact hdecision
  case nextPc =>
    rw [executeAlone_cpu, executeAlone_cpu, CPU.setPc_pc, CPU.setPc_pc, hdecision, hpc]
  case memory =>
    rw [executeAlone_cpu, executeAlone_cpu, CPU.setPc_memory, CPU.setPc_memory, hcpu,
      wbResult_memory, wbResult_memory, hstored]
  case written => rw [executeAlone_wbStage, executeAlone_wbStage, hwritten, haccess]
  case destination =>
    intro i hi
    rw [executeAlone_cpu, executeAlone_cpu, CPU.setPc_registers, CPU.setPc_registers, hcpu, haccess]
    apply wbResult_destination ((decoded_executedWord cpu' pc raw).memResult cpu')
    rw [hi, destinationRegister_memResult, destinationRegister_executedWord]

/-- A CPU that differs from a reset one in R1. -/
def elevenInR1 : CPU :=
  { cpuReset with registers := fun i => if i.val = 1 then 11 else 0 }

/-- `LSL R1 R2 3` latches R1 and reads R2: what R1 held before makes no difference. -/
theorem read_write_sets_sound_lsl :
    SameEffect elevenInR1 cpuReset 0 0x80880003 ∧ Framed elevenInR1 0 0x80880003 ∧
      Framed cpuReset 0 0x80880003 := by
  apply read_write_sets_sound 0 0x80880003 elevenInR1 cpuReset (by decide) rfl rfl
  intro r hr
  have htwo : 2 = r := by
    have hvalid : (decodedWord 0 0x80880003).valid = true := by decide
    have hop : (decodedWord 0 0x80880003).opcode = .lsl := by decide
    have hr2 : (decodedWord 0 0x80880003).r2 = 2 := by decide
    simp only [instructionReadsRegister, hvalid, hop, hr2] at hr
    split_ifs at hr
    exact beq_iff_eq.mp hr
  rw [← htwo]
  decide

end Fillet
