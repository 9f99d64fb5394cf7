import Fillet.Pipeline.Occupancy

/-!
# Draining the pipeline and forwarding

`drained s` lets the instructions in WB, MEM and EX of a state complete, oldest first and one after
the other. The operands that ID latches in an odd cycle are the registers of that drained state.
-/

namespace Fillet

variable {cpu : CPU} {e : PipelineEngine} {t : Trace}

/-! ### Draining -/

def drainWb (m : Sequential) (slot : StageSlot) : Sequential :=
  if slot.reg.valid then m.writeBack slot.reg else m

def drainMem (m : Sequential) (slot : StageSlot) : Sequential :=
  if slot.reg.valid then m.finish slot.reg else m

def drainEx (m : Sequential) (slot : StageSlot) : Sequential :=
  if slot.reg.valid then m.finish (exResult slot.reg) else m

/-- What a run has retired and stored so far, on the CPU it has produced. -/
def history (s : Simulation) : Sequential where
  cpu := s.cpu
  retired := s.trace.retired.map Prod.snd
  stores := s.trace.stores

/-- The state once every instruction that has left ID has completed. -/
def drained (s : Simulation) : Sequential :=
  drainEx (drainMem (drainWb (history s) s.engine.wbStage) s.engine.memStage) s.engine.exStage

@[simp] lemma drainWb_of_empty {slot : StageSlot} (h : slot.reg.valid = false) (m : Sequential) :
    drainWb m slot = m := by
  simp [drainWb, h]

@[simp] lemma drainMem_of_empty {slot : StageSlot} (h : slot.reg.valid = false) (m : Sequential) :
    drainMem m slot = m := by
  simp [drainMem, h]

@[simp] lemma drainEx_of_empty {slot : StageSlot} (h : slot.reg.valid = false) (m : Sequential) :
    drainEx m slot = m := by
  simp [drainEx, h]

/-! ### The parts of a step that the program counter does not matter to -/

lemma Sequential.writeBack_setPc (m : Sequential) (reg : PipelineRegister) (w : UInt32) :
    (m.setPc w).writeBack reg = (m.writeBack reg).setPc w := by
  simp [writeBack, setPc, wbResult_setPc]

lemma Sequential.finish_setPc (m : Sequential) (reg : PipelineRegister) (w : UInt32) :
    (m.setPc w).finish reg = (m.finish reg).setPc w := by
  simp [finish, writeBack, setPc, memResult_setPc, wbResult_setPc]

@[simp] lemma Sequential.setPc_setPc (m : Sequential) (v w : UInt32) :
    (m.setPc v).setPc w = m.setPc w := rfl

@[simp] lemma Sequential.setPc_retired (m : Sequential) (w : UInt32) :
    (m.setPc w).retired = m.retired := rfl

@[simp] lemma Sequential.setPc_stores (m : Sequential) (w : UInt32) :
    (m.setPc w).stores = m.stores := rfl

@[simp] lemma Sequential.setPc_cpu (m : Sequential) (w : UInt32) :
    (m.setPc w).cpu = m.cpu.setPc w := rfl

@[simp] lemma Sequential.writeBack_cpu (m : Sequential) (reg : PipelineRegister) :
    (m.writeBack reg).cpu = wbResult m.cpu reg := rfl

@[simp] lemma Sequential.finish_cpu (m : Sequential) (reg : PipelineRegister) :
    (m.finish reg).cpu = wbResult (memResult m.cpu reg).2 (memResult m.cpu reg).1 := rfl

/-! ### The value of a register after write-back -/

/-- The value an instruction writes back. -/
def writtenValue (reg : PipelineRegister) : Int32 :=
  if reg.opcode = .movr then reg.memoryData else reg.aluResult

/-- For a decoded instruction the control signals and the table of writing opcodes agree. -/
lemma Decoded.committedWrite {reg : PipelineRegister} (h : Decoded reg) :
    committedWrite reg =
      if instructionWritesRegister reg then some (reg.r1, writtenValue reg) else none := by
  rw [Fillet.committedWrite, instructionWritesRegister, writtenValue]
  rw [h.control]
  cases hop : reg.opcode <;> cases hv : reg.valid <;>
    simp [generateControlSignals, ControlSignals.zeroed, opcodeWritesRegister]

lemma Decoded.readRegister_wbResult {reg : PipelineRegister} (h : Decoded reg) (cpu : CPU) {r : Int}
    (hr : 0 < r) :
    readRegister (wbResult cpu reg) r =
      if destinationRegister reg = r then writtenValue reg else readRegister cpu r := by
  simp only [wbResult, destinationRegister, h.committedWrite]
  have hrange := h.r1_range
  by_cases hwrites : instructionWritesRegister reg = true
  · simp only [hwrites, if_true]
    split_ifs with hdest
    · subst hdest
      exact readRegister_writeRegister_self _ _ ⟨hr, hrange.2⟩
    · exact readRegister_writeRegister_ne _ _ hdest
  · have hne : ¬ (-1 : Int) = r := by omega
    simp [hwrites, hne]

/-- MEM changes the value an instruction writes back only for a load. -/
lemma writtenValue_memResult {reg : PipelineRegister} (hop : reg.opcode ≠ .movr) (cpu : CPU) :
    writtenValue (memResult cpu reg).1 = reg.aluResult := by
  have hop' : (memResult cpu reg).1.opcode ≠ .movr := by rwa [memResult_opcode]
  rw [writtenValue, if_neg hop']
  simp only [memResult]
  split_ifs <;> rfl

lemma destinationRegister_memResult (cpu : CPU) (reg : PipelineRegister) :
    destinationRegister (memResult cpu reg).1 = destinationRegister reg := by
  simp [destinationRegister, instructionWritesRegister]

lemma destinationRegister_exResult (reg : PipelineRegister) :
    destinationRegister (exResult reg) = destinationRegister reg := by
  simp [destinationRegister, instructionWritesRegister]

lemma destinationRegister_of_empty {reg : PipelineRegister} (h : reg.valid = false) :
    destinationRegister reg = -1 := by
  simp [destinationRegister, instructionWritesRegister, h]

/-- The registers an instruction reads are numbered from 1 to 31. -/
lemma reads_range {reg : PipelineRegister} {r : Int}
    (h : instructionReadsRegister (decodeRawInstruction reg) r = true) : 0 < r ∧ r < 32 := by
  obtain ⟨h1, h2, h3⟩ := decodeRawInstruction_registers reg
  have hne : r ≠ 0 := by
    rintro rfl
    simp [instructionReadsRegister] at h
  have hmem : r = (decodeRawInstruction reg).r1 ∨ r = (decodeRawInstruction reg).r2 ∨
      r = (decodeRawInstruction reg).r3 := by
    simp only [instructionReadsRegister] at h
    split_ifs at h
    split at h <;> simp at h <;> grind
  omega

/-! ### Forwarding -/

@[simp] lemma idEngine_exStage (e : PipelineEngine) :
    (idEngine e).exStage = finished e.exStage (exResult e.exStage.reg) := rfl

@[simp] lemma idEngine_wbStage (e : PipelineEngine) :
    (idEngine e).wbStage = finished e.wbStage e.wbStage.reg := rfl

@[simp] lemma idEngine_memStage (e : PipelineEngine) : (idEngine e).memStage = e.memStage := rfl

@[simp] lemma finished_self_reg (slot : StageSlot) : (finished slot slot.reg).reg = slot.reg := by
  simp only [finished]
  split_ifs <;> rfl

/-- A load in EX does not write a register that ID reads, unless ID is held. -/
lemma destinationRegister_ne_of_load (hstall : (evaluateIdHazard e).stalled = false)
    (hid : Pending e.idStage 1) (hop : e.exStage.reg.opcode = .movr) {r : Int}
    (hr : instructionReadsRegister (decodeRawInstruction e.idStage.reg) r = true) :
    destinationRegister e.exStage.reg ≠ r := by
  have hrange := reads_range hr
  intro hdest
  have hex : e.exStage.reg.valid = true := by
    by_contra hempty
    rw [destinationRegister_of_empty (by simpa using hempty)] at hdest
    omega
  have hr1 : e.exStage.reg.r1 = r := by
    simpa [destinationRegister, instructionWritesRegister, hex, hop, opcodeWritesRegister]
      using hdest
  have hidv : e.idStage.reg.valid = true := by
    by_contra hempty
    have hinvalid : (decodeRawInstruction e.idStage.reg).valid = false := by
      simp [decodeRawInstruction_valid, hempty]
    simp [instructionReadsRegister, hinvalid] at hr
  have hheld : (evaluateIdHazard e).stalled = true := by
    rw [stalled_iff, hr1]
    exact ⟨⟨hidv, (hid hidv).2⟩, ⟨hex, hop⟩, hrange.1, hr⟩
  exact absurd hheld (by simp [hstall])

/-- The register file after WB, in the order of the pipeline. -/
lemma readRegister_drainWb (hwb : e.wbStage.reg.valid = true → Decoded e.wbStage.reg)
    (m : Sequential) {r : Int} (hr : 0 < r) :
    readRegister (drainWb m e.wbStage).cpu r =
      if destinationRegister e.wbStage.reg = r then writtenValue e.wbStage.reg
      else readRegister m.cpu r := by
  by_cases hv : e.wbStage.reg.valid = true
  · rw [drainWb, if_pos hv, Sequential.writeBack_cpu, (hwb hv).readRegister_wbResult _ hr]
  · simp only [Bool.not_eq_true] at hv
    have hne : ¬ (-1 : Int) = r := by omega
    rw [drainWb_of_empty hv, destinationRegister_of_empty hv, if_neg hne]

lemma readRegister_drainEx (hex : e.exStage.reg.valid = true → Decoded e.exStage.reg)
    (m : Sequential) {r : Int} (hr : 0 < r)
    (hload : e.exStage.reg.opcode = .movr → destinationRegister e.exStage.reg ≠ r) :
    readRegister (drainEx m e.exStage).cpu r =
      if destinationRegister e.exStage.reg = r then (exResult e.exStage.reg).aluResult
      else readRegister m.cpu r := by
  by_cases hv : e.exStage.reg.valid = true
  · have hdecoded := ((hex hv).exResult).memResult m.cpu
    rw [drainEx, if_pos hv, Sequential.finish_cpu, hdecoded.readRegister_wbResult _ hr,
      destinationRegister_memResult, destinationRegister_exResult,
      readRegister_congr (memResult_registers _ _)]
    split_ifs with hdest
    · apply writtenValue_memResult
      intro hop
      rw [exResult_opcode] at hop
      exact hload hop hdest
    · rfl
  · simp only [Bool.not_eq_true] at hv
    have hne : ¬ (-1 : Int) = r := by omega
    rw [drainEx_of_empty hv, destinationRegister_of_empty hv, if_neg hne]

/-- The bypass network in an odd cycle: EX first, then WB, then the register file, in which WB has
already written. MEM is empty then, so asking it after WB does no harm. -/
lemma readOperandWithForwarding_idEngine (h : FetchReady e) {r : Int} (hr : 0 < r)
    (hload : e.exStage.reg.opcode = .movr → destinationRegister e.exStage.reg ≠ r) :
    readOperandWithForwarding (idCpu cpu e) (idEngine e) r =
      if destinationRegister e.exStage.reg = r then (exResult e.exStage.reg).aluResult
      else if destinationRegister e.wbStage.reg = r then writtenValue e.wbStage.reg
      else readRegister (idCpu cpu e) r := by
  have hne : ¬ r = 0 := by omega
  have hempty : ¬ (-1 : Int) = r := by omega
  have hmem := destinationRegister_of_empty h.mem
  simp only [readOperandWithForwarding]
  simp only [idEngine_exStage, idEngine_wbStage, idEngine_memStage, finished_self_reg, hmem, hne,
    hempty, if_false, writtenValue]
  by_cases hv : e.exStage.reg.valid = true
  · rw [finished_of_valid hv]
    dsimp only
    rw [destinationRegister_exResult, exResult_opcode]
    by_cases hdest : destinationRegister e.exStage.reg = r
    · have hop : e.exStage.reg.opcode ≠ .movr := fun hop => hload hop hdest
      simp [hdest, hop]
    · simp [hdest]
  · simp only [Bool.not_eq_true] at hv
    rw [finished_of_empty hv, destinationRegister_of_empty hv]
    simp [hempty]

/-- The operands that ID latches when it is not held are current: what an instruction reads is what
the register holds once every older instruction has completed. -/
theorem forwarded_operand_current (h : FetchReady e)
    (hstall : (evaluateIdHazard e).stalled = false) {r : Int}
    (hr : r = 0 ∨ instructionReadsRegister (decodeRawInstruction e.idStage.reg) r = true) :
    readOperandWithForwarding (idCpu cpu e) (idEngine e) r =
      readRegister (drained ⟨cpu, none, e, t⟩).cpu r := by
  rcases hr with rfl | hr
  · simp [readOperandWithForwarding]
  · have hpos : 0 < r := (reads_range hr).1
    have hid := h.id_pending hstall
    have hload : e.exStage.reg.opcode = .movr → destinationRegister e.exStage.reg ≠ r :=
      fun hop => destinationRegister_ne_of_load hstall hid hop hr
    have hregister : readRegister (idCpu cpu e) r =
        if destinationRegister e.wbStage.reg = r then writtenValue e.wbStage.reg
        else readRegister cpu r := by
      have hdrain := readRegister_drainWb h.decoded.wb
        (history ⟨fetchedCpu cpu e, none, e, t⟩) hpos
      have hidCpu : (drainWb (history ⟨fetchedCpu cpu e, none, e, t⟩) e.wbStage).cpu =
          idCpu cpu e := by
        simp only [drainWb, idCpu, writtenBack]
        split_ifs <;> rfl
      have hfetched : readRegister (fetchedCpu cpu e) r = readRegister cpu r := by
        apply readRegister_congr
        simp only [fetchedCpu]
        split_ifs <;> rfl
      rwa [hidCpu, history, hfetched] at hdrain
    rw [readOperandWithForwarding_idEngine h hpos hload, drained, drainMem_of_empty h.mem,
      readRegister_drainEx h.decoded.ex _ hpos hload, readRegister_drainWb h.decoded.wb _ hpos,
      hregister]
    split_ifs <;> rfl

end Fillet
