import Fillet.Pipeline.Forwarding

/-!
# Three ways to perform a load or a store

MOVR and MOVM are implemented by the EX, MEM and WB stages of the pipeline, by `executeMOVR` and
`executeMOVM`, and by `memory_execute_stage` with a write-back behind it. The three agree on
everything but a load from outside the data segment: the pipeline writes the 0 that `readMemory`
returns to the destination, the other two leave the register alone.
-/

namespace Fillet

variable {cpu : CPU} {reg : PipelineRegister}

/-- The address a load or a store computes, with wrap-around. -/
def effectiveAddress (cpu : CPU) (reg : PipelineRegister) : Int32 :=
  readRegister cpu reg.r2 + reg.immediate

/-- The simulation with an instruction put into a stage. -/
def Simulation.place (s : Simulation) (kind : StageKind) (slot : StageSlot) : Simulation :=
  { s with engine := s.engine.setStage kind slot }

/-- The pipeline: an instruction with its current operands goes through `complete_ex_stage`,
`complete_mem_stage` and `complete_wb_stage`. -/
def pipelineTransfer (cpu : CPU) (reg : PipelineRegister) : CPU :=
  let latched := latchOperands (readRegister cpu) reg
  let executed := completeExStage ((Simulation.start cpu none).place .stageEx
    (setSlot latched exCycles))
  let accessed := completeMemStage (executed.place .stageMem
    (setSlot executed.engine.exStage.reg memCycles))
  let written := completeWbStage (accessed.place .stageWb
    (setSlot accessed.engine.memStage.reg wbCycles))
  written.cpu

/-- The input that MOVR and MOVM give to `memory_execute_stage`. -/
def transferInput (cpu : CPU) (reg : PipelineRegister) : MemoryStageInput where
  access := if reg.opcode = .movr then .load else .store
  address := (effectiveAddress cpu reg).toUInt32
  writeData := readRegister cpu reg.r1
  passthroughValue := 0
  destinationRegister := UInt8.ofNat reg.r1.toNat
  registerWrite := reg.opcode = .movr

/-- `memory_execute_stage`, and then the register write it asks for. -/
def memoryStageTransfer (cpu : CPU) (reg : PipelineRegister) : CPU :=
  let (output, cpu) := memoryExecuteStage cpu (transferInput cpu reg)
  if output.registerWrite then
    (cpuWriteRegister cpu output.destinationRegister output.writeBackValue).2
  else cpu

/-! ### What each of them does -/

/-- EX leaves the CPU alone unless a branch is taken. -/
lemma completeExStage_of_not_branch {s : Simulation}
    (hbranch : s.engine.exStage.reg.control.branch = false)
    (hjump : s.engine.exStage.reg.control.jump = false) :
    completeExStage s =
      s.place .stageEx { s.engine.exStage with reg := exResult s.engine.exStage.reg } := by
  simp only [completeExStage, exResult_control, hbranch, hjump, Bool.or_self, Bool.false_eq_true,
    if_false]
  rfl

/-- Whatever a branch does, EX leaves its result in its slot. -/
lemma completeExStage_exStage (s : Simulation) :
    (completeExStage s).engine.exStage.reg = exResult s.engine.exStage.reg := by
  simp only [completeExStage]
  split_ifs
  · split <;> rfl
  · rfl

/-- What MEM leaves behind in its slot. -/
lemma completeMemStage_memStage (s : Simulation) :
    (completeMemStage s).engine.memStage.reg = (memResult s.target s.engine.memStage.reg).1 := by
  simp only [completeMemStage]
  split_ifs <;> rfl

lemma completeMemStage_cpu {s : Simulation} (hobject : s.object = none) :
    (completeMemStage s).cpu = (memResult s.cpu s.engine.memStage.reg).2 := by
  simp [completeMemStage, Simulation.target, Simulation.setTarget, hobject]

lemma completeMemStage_object {s : Simulation} (hobject : s.object = none) :
    (completeMemStage s).object = none := by
  simp [completeMemStage, Simulation.setTarget, hobject]

lemma completeWbStage_cpu {s : Simulation} (hobject : s.object = none) :
    (completeWbStage s).cpu = wbResult s.cpu s.engine.wbStage.reg := by
  simp [completeWbStage, Simulation.target, Simulation.setTarget, hobject]

/-- An instruction that is no branch passes through the stages one result after the other. -/
lemma pipelineTransfer_of_not_branch (hbranch : reg.control.branch = false)
    (hjump : reg.control.jump = false) :
    pipelineTransfer cpu reg =
      let executed := exResult (latchOperands (readRegister cpu) reg)
      wbResult (memResult cpu executed).2 (memResult cpu executed).1 := by
  have hlatched : (latchOperands (readRegister cpu) reg).control = reg.control :=
    latchOperands_control _ _
  rw [pipelineTransfer, completeExStage_of_not_branch (hlatched ▸ hbranch) (hlatched ▸ hjump)]
  let executed := exResult (latchOperands (readRegister cpu) reg)
  let s := ((Simulation.start cpu none).place .stageEx (setSlot executed exCycles)).place .stageMem
    (setSlot executed memCycles)
  have hobject : s.object = none := rfl
  have hplaced (slot : StageSlot) : ((completeMemStage s).place .stageWb slot).object = none :=
    completeMemStage_object hobject
  show (completeWbStage ((completeMemStage s).place .stageWb
    (setSlot (completeMemStage s).engine.memStage.reg wbCycles))).cpu = _
  rw [completeWbStage_cpu (hplaced _)]
  show wbResult (completeMemStage s).cpu (completeMemStage s).engine.memStage.reg = _
  rw [completeMemStage_cpu hobject, completeMemStage_memStage]
  rfl

lemma pipelineTransfer_movr (hreg : Decoded reg) (hvalid : reg.valid = true)
    (hop : reg.opcode = .movr) :
    pipelineTransfer cpu reg =
      writeRegister (readMemory cpu (effectiveAddress cpu reg)).2 reg.r1
        (readMemory cpu (effectiveAddress cpu reg)).1 := by
  have hcontrol := hreg.control
  rw [hop] at hcontrol
  rw [pipelineTransfer_of_not_branch (by rw [hcontrol]; rfl) (by rw [hcontrol]; rfl)]
  simp [latchOperands, exResult, memResult, wbResult, committedWrite,
    instructionWritesRegister, opcodeWritesRegister, hvalid, hop, hcontrol, generateControlSignals,
    ControlSignals.zeroed, effectiveAddress]

lemma pipelineTransfer_movm (hreg : Decoded reg) (hop : reg.opcode = .movm) :
    pipelineTransfer cpu reg =
      writeMemory cpu (effectiveAddress cpu reg) (readRegister cpu reg.r1) := by
  have hcontrol := hreg.control
  rw [hop] at hcontrol
  rw [pipelineTransfer_of_not_branch (by rw [hcontrol]; rfl) (by rw [hcontrol]; rfl)]
  simp [latchOperands, exResult, memResult, wbResult, committedWrite,
    instructionWritesRegister, opcodeWritesRegister, hop, hcontrol, generateControlSignals,
    ControlSignals.zeroed, effectiveAddress]

lemma readMemory_of_not_data {a : Int32} (h : isDataAddress a = false) :
    readMemory cpu a = (0, cpu) := by
  simp [readMemory, h]

lemma writeMemory_of_not_data {a : Int32} (h : isDataAddress a = false) (v : Int32) :
    writeMemory cpu a v = cpu := by
  simp [writeMemory, h]

lemma executeMemoryStage_movr (hvalid : reg.valid = true) (hop : reg.opcode = .movr) :
    (executeMemoryStage cpu reg).1 =
      if isDataAddress (effectiveAddress cpu reg) then
        writeRegister (readMemory cpu (effectiveAddress cpu reg)).2 reg.r1
          (readMemory cpu (effectiveAddress cpu reg)).1
      else cpu := by
  simp only [executeMemoryStage, executeMOVR]
  simp only [hvalid, hop, Bool.not_true, Bool.false_eq_true, if_false, if_true]
  show (if (!isDataAddress (effectiveAddress cpu reg)) = true then _ else _ :
    CPU × PipelineRegister).1 = _
  cases hdata : isDataAddress (effectiveAddress cpu reg) with
  | true => rfl
  | false => exact congrArg Prod.snd (readMemory_of_not_data hdata)

lemma executeMemoryStage_movm (hvalid : reg.valid = true) (hop : reg.opcode = .movm) :
    (executeMemoryStage cpu reg).1 =
      writeMemory cpu (effectiveAddress cpu reg) (readRegister cpu reg.r1) := by
  simp only [executeMemoryStage, executeMOVM]
  simp only [hvalid, hop, Bool.not_true, Bool.false_eq_true, if_false, if_true, reduceCtorEq]
  split_ifs <;> rfl

/-- A register number of a decoded instruction survives the cast to `uint8_t`. -/
lemma cpuWriteRegister_destination (hreg : Decoded reg) (cpu : CPU) (v : Int32) :
    (cpuWriteRegister cpu (UInt8.ofNat reg.r1.toNat) v).2 = writeRegister cpu reg.r1 v := by
  have hrange := hreg.r1_range
  have hnumber : ((UInt8.ofNat reg.r1.toNat).toNat : Int) = reg.r1 := by
    rw [UInt8.toNat_ofNat', Nat.mod_eq_of_lt (by omega)]
    omega
  have hindex : ¬ 32 ≤ (UInt8.ofNat reg.r1.toNat).toNat := by omega
  rw [cpuWriteRegister, if_neg hindex, hnumber]

lemma memoryStageTransfer_movr (hreg : Decoded reg) (hop : reg.opcode = .movr) :
    memoryStageTransfer cpu reg =
      if isDataAddress (effectiveAddress cpu reg) then
        writeRegister (readMemory cpu (effectiveAddress cpu reg)).2 reg.r1
          (readMemory cpu (effectiveAddress cpu reg)).1
      else cpu := by
  have hwrite := cpuWriteRegister_destination hreg (readMemory cpu (effectiveAddress cpu reg)).2
    (readMemory cpu (effectiveAddress cpu reg)).1
  simp only [memoryStageTransfer, memoryExecuteStage, transferInput]
  simp only [hop, if_true, memoryReadData, Int32.toInt32_toUInt32]
  cases hdata : isDataAddress (effectiveAddress cpu reg) with
  | true => simpa using hwrite
  | false => simp

lemma memoryStageTransfer_movm (hop : reg.opcode = .movm) :
    memoryStageTransfer cpu reg =
      writeMemory cpu (effectiveAddress cpu reg) (readRegister cpu reg.r1) := by
  cases hdata : isDataAddress (effectiveAddress cpu reg) <;>
    simp [memoryStageTransfer, memoryExecuteStage, transferInput, hop, memoryWriteData, hdata,
      writeMemory_of_not_data]

/-! ### When they agree -/

/-- The three ways leave the same registers and the same memory behind, and an access outside the
data segment leaves both as they were. -/
def TransfersAgree (cpu : CPU) (reg : PipelineRegister) : Prop :=
  ((pipelineTransfer cpu reg).registers = (executeMemoryStage cpu reg).1.registers ∧
    (pipelineTransfer cpu reg).memory = (executeMemoryStage cpu reg).1.memory) ∧
  ((pipelineTransfer cpu reg).registers = (memoryStageTransfer cpu reg).registers ∧
    (pipelineTransfer cpu reg).memory = (memoryStageTransfer cpu reg).memory) ∧
  (isDataAddress (effectiveAddress cpu reg) = false →
    (pipelineTransfer cpu reg).registers = cpu.registers ∧
      (pipelineTransfer cpu reg).memory = cpu.memory)

/-- Writing 0 changes nothing exactly where 0 is stored already. -/
lemma writeRegister_zero_iff (cpu : CPU) {r : Int} (hr : 0 ≤ r ∧ r < 32) :
    (writeRegister cpu r 0).registers = cpu.registers ↔ cpu.registers (registerIndex r) = 0 := by
  have hwrite : (writeRegister cpu r 0).registers =
      Function.update cpu.registers (registerIndex r) 0 := by
    by_cases h0 : r = 0
    · subst h0
      rfl
    · rw [writeRegister_of_range cpu 0 ⟨by omega, hr.2⟩]
  rw [hwrite]
  constructor
  · intro h
    rw [← congrFun h (registerIndex r), Function.update_self]
  · intro h
    rw [← h, Function.update_eq_self]

lemma transfersAgree_movm (hreg : Decoded reg) (hvalid : reg.valid = true)
    (hop : reg.opcode = .movm) : TransfersAgree cpu reg := by
  rw [TransfersAgree, pipelineTransfer_movm hreg hop, executeMemoryStage_movm hvalid hop,
    memoryStageTransfer_movm hop]
  refine ⟨⟨rfl, rfl⟩, ⟨rfl, rfl⟩, ?_⟩
  intro hdata
  rw [writeMemory_of_not_data hdata]
  exact ⟨rfl, rfl⟩

lemma transfersAgree_movr (hreg : Decoded reg) (hvalid : reg.valid = true)
    (hop : reg.opcode = .movr) :
    TransfersAgree cpu reg ↔ isDataAddress (effectiveAddress cpu reg) = true ∨
      cpu.registers (registerIndex reg.r1) = 0 := by
  rw [TransfersAgree, pipelineTransfer_movr hreg hvalid hop, executeMemoryStage_movr hvalid hop,
    memoryStageTransfer_movr hreg hop]
  cases hdata : isDataAddress (effectiveAddress cpu reg) with
  | true => simp
  | false =>
    have hzero := writeRegister_zero_iff cpu hreg.r1_range
    rw [readMemory_of_not_data hdata]
    simp [hzero]

/-- The load and store paths agree exactly for stores, for addresses in the data segment, and for a
load whose destination holds 0 already. -/
theorem transfers_agree_iff (cpu : CPU) (pc raw : UInt32)
    (hop : rawOpcode raw = .movr ∨ rawOpcode raw = .movm) :
    let reg := decodeRawInstruction (fetchedRegister pc raw)
    TransfersAgree cpu reg ↔
      reg.opcode = .movm ∨ isDataAddress (effectiveAddress cpu reg) = true ∨
        cpu.registers (registerIndex reg.r1) = 0 := by
  intro reg
  have hreg : Decoded reg := decoded_decodeRawInstruction _
  have hopcode : reg.opcode = rawOpcode raw := decodeRawInstruction_opcode _
  have hvalid : reg.valid = true := by
    rw [decodeRawInstruction_valid]
    rcases hop with h | h <;> simp [fetchedRegister, h, Opcode.code]
  rcases hop with hmovr | hmovm
  · have hload : reg.opcode = .movr := hopcode.trans hmovr
    rw [transfersAgree_movr hreg hvalid hload, hload]
    simp
  · have hstore : reg.opcode = .movm := hopcode.trans hmovm
    simp [transfersAgree_movm hreg hvalid hstore, hstore]

/-- A CPU with 7 in R1. -/
def sevenInR1 : CPU :=
  { cpuReset with registers := fun i => if i.val = 1 then 7 else 0 }

/-- `MOVR R1 R0 0` addresses instruction memory; the pipeline overwrites R1 with 0. -/
theorem rejected_load_clears_register :
    ¬ TransfersAgree sevenInR1 (decodeRawInstruction (fetchedRegister 0 0xA0800000)) := by
  intro h
  have hregister := congrFun h.1.1 1
  exact absurd hregister (by decide)

/-- `MOVR R1 R0 1024` is inside the data segment. -/
theorem transfers_agree_inside :
    TransfersAgree sevenInR1 (decodeRawInstruction (fetchedRegister 0 0xA0800400)) :=
  (transfers_agree_iff sevenInR1 0 0xA0800400 (Or.inl (by decide))).mpr
    (Or.inr (Or.inl (by decide)))

end Fillet
