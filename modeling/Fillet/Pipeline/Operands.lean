import Fillet.Pipeline.Refinement

/-!
# The operands of a run

`forwarded_operand_current` speaks about one shape of the engine. Here it is carried to the moment
in which ID completes in a run, and to the instructions that are ahead at that moment: WB has been
written and EX has been computed, but their slots are still occupied.
-/

namespace Fillet

variable {cpu : CPU} {e : PipelineEngine} {t : Trace}

/-! ### The moment in which ID is ticked -/

/-- The next cycle up to the tick of ID. -/
def atIdTick (s : Simulation) : Simulation :=
  backPhase (hazardPhase (fetchPhase (beginCycle s)))

/-- The hazard unit lets ID progress in the next cycle. -/
def idProgresses (s : Simulation) : Bool :=
  !(evaluateIdHazard (hazardPhase (fetchPhase (beginCycle s))).engine).stalled

/-- ID completes in the next cycle: its slot holds an instruction that is not held and has no other
cycle to wait. -/
def completesId (s : Simulation) : Bool :=
  let slot := (atIdTick s).engine.idStage
  !slotIsEmpty slot && !slot.completed && idProgresses s && decide (slot.cyclesLeft - 1 ≤ 0)

/-- Then ID latches its operands from what is in flight at that moment. -/
lemma completeIdStage_of_completesId {s : Simulation} (h : completesId s = true) :
    ∃ s', tickSlot (atIdTick s) .stageId (idProgresses s) = completeIdStage s' ∧
      s'.target = (atIdTick s).target ∧
      s'.engine.idStage.reg = (atIdTick s).engine.idStage.reg ∧
      readOperandWithForwarding s'.target s'.engine =
        readOperandWithForwarding (atIdTick s).target (atIdTick s).engine := by
  simp only [completesId, Bool.and_eq_true, Bool.not_eq_true', decide_eq_true_eq] at h
  obtain ⟨⟨⟨hfull, hcompleted⟩, hprogress⟩, hleft⟩ := h
  simp only [tickSlot, PipelineEngine.stage, hfull, hcompleted, hprogress, Bool.not_true,
    Bool.or_self, Bool.false_eq_true, if_false, gt_iff_lt, not_lt.mpr hleft]
  exact ⟨_, rfl, rfl, rfl, rfl⟩

/-! ### What is ahead of ID -/

/-- WB completes, unless it has. -/
def settleWb (cpu : CPU) (slot : StageSlot) : CPU :=
  if slotIsEmpty slot || slot.completed then cpu else wbResult cpu slot.reg

/-- MEM completes, unless it has, and then WB. -/
def settleMem (cpu : CPU) (slot : StageSlot) : CPU :=
  if slotIsEmpty slot then cpu
  else if slot.completed then wbResult cpu slot.reg
  else wbResult (memResult cpu slot.reg).2 (memResult cpu slot.reg).1

/-- EX completes, unless it has, and then MEM and WB. -/
def settleEx (cpu : CPU) (slot : StageSlot) : CPU :=
  let reg := if slot.completed then slot.reg else exResult slot.reg
  if slotIsEmpty slot then cpu else wbResult (memResult cpu reg).2 (memResult cpu reg).1

/-- The CPU once the instructions in WB, MEM and EX have completed WB, oldest first. -/
def settled (s : Simulation) : CPU :=
  settleEx (settleMem (settleWb s.target s.engine.wbStage) s.engine.memStage) s.engine.exStage

/-! ### Odd cycles -/

/-- In an odd cycle that moves on, ID reads from the engine in which EX and WB have completed. -/
lemma FetchReady.atIdTick_flow (h : FetchReady e) (cpu : CPU) (t : Trace)
    (hnone : takenTarget e.exStage = none) :
    ∃ t', atIdTick ⟨cpu, none, e, t⟩ =
      ⟨idCpu cpu e, none,
        { idEngine e with cycle := e.cycle + 1, ifStage := fetchedSlot cpu e }, t'⟩ := by
  rw [atIdTick, h.fetchPhase]
  simp only [hazardPhase]
  rw [h.backPhase_untaken hnone]
  exact ⟨_, rfl⟩

lemma FetchReady.atIdTick_taken (h : FetchReady e) (hv : e.exStage.reg.valid = true) {a : UInt32}
    (htaken : calculateBranchTarget e.exStage.reg = some a) :
    (atIdTick ⟨cpu, none, e, t⟩).engine.idStage = clearSlot := by
  rw [atIdTick, h.fetchPhase]
  simp only [hazardPhase]
  rw [h.backPhase_taken hv htaken]

lemma FetchReady.idProgresses (h : FetchReady e) :
    idProgresses ⟨cpu, none, e, t⟩ = !(evaluateIdHazard e).stalled := by
  rw [Fillet.idProgresses, h.fetchPhase]
  rfl

/-- An even cycle reaches ID with nothing changed there. -/
lemma FetchIdle.atIdTick_idStage (h : FetchIdle e) :
    (atIdTick ⟨cpu, none, e, t⟩).engine.idStage = e.idStage := by
  rw [atIdTick, h.fetchPhase]
  simp only [hazardPhase, backPhase]
  rw [tickSlot_of_empty _ .stageWb true, tickSlot_mem, tickSlot_ex_two]
  · exact h.ex
  · exact h.mem
  · exact h.wb

/-! ### The instructions ahead -/

@[simp] lemma settleWb_finished (cpu : CPU) (slot : StageSlot) :
    settleWb cpu (finished slot slot.reg) = cpu := by
  cases hv : slot.reg.valid <;> simp [settleWb, finished, slotIsEmpty, hv]

lemma settleMem_of_empty {slot : StageSlot} (h : slot.reg.valid = false) (cpu : CPU) :
    settleMem cpu slot = cpu := by
  simp [settleMem, slotIsEmpty, h]

/-- EX has been computed, so what is left of its instruction is MEM and WB. -/
lemma settleEx_finished (m : Sequential) (slot : StageSlot) :
    settleEx m.cpu (finished slot (exResult slot.reg)) = (drainEx m slot).cpu := by
  cases hv : slot.reg.valid with
  | true => simp [settleEx, finished, slotIsEmpty, drainEx, hv]
  | false => simp [settleEx, finished, slotIsEmpty, drainEx, hv]

/-- Draining EX looks at the CPU only. -/
lemma drainEx_congr {m m' : Sequential} (h : m.cpu = m'.cpu) (slot : StageSlot) :
    (drainEx m slot).cpu = (drainEx m' slot).cpu := by
  simp only [drainEx]
  split_ifs
  · rw [Sequential.finish_cpu, Sequential.finish_cpu, h]
  · exact h

/-- What is ahead of ID in an odd cycle settles to the drained state. -/
lemma FetchReady.readRegister_settled (h : FetchReady e) (hnone : takenTarget e.exStage = none)
    (r : Int) :
    readRegister (settled (atIdTick ⟨cpu, none, e, t⟩)) r =
      readRegister (Fillet.drained ⟨cpu, none, e, t⟩).cpu r := by
  obtain ⟨t', hmoment⟩ := h.atIdTick_flow cpu t hnone
  -- the two sides start from the same registers, and differ in the program counter only
  let m : Sequential := { history ⟨cpu, none, e, t⟩ with cpu := idCpu cpu e }
  have hsettled : settled (atIdTick ⟨cpu, none, e, t⟩) = (drainEx m e.exStage).cpu := by
    rw [hmoment]
    show settleEx (settleMem (settleWb (idCpu cpu e) (finished e.wbStage e.wbStage.reg))
      e.memStage) (finished e.exStage (exResult e.exStage.reg)) = _
    rw [settleWb_finished, settleMem_of_empty h.mem, ← settleEx_finished]
  have hwb : ((drainWb (history ⟨cpu, none, e, t⟩) e.wbStage).setPc 0).cpu = (m.setPc 0).cpu := by
    rw [Sequential.setPc_cpu, Sequential.setPc_cpu, idCpu_setPc]
    simp only [drainWb, writtenBack]
    split_ifs <;> rfl
  have hdrained : (Fillet.drained ⟨cpu, none, e, t⟩).cpu.setPc 0 =
      (drainEx m e.exStage).cpu.setPc 0 := by
    rw [Fillet.drained, drainMem_of_empty h.mem, ← Sequential.setPc_cpu, ← Sequential.setPc_cpu,
      ← drainEx_setPc, ← drainEx_setPc]
    exact drainEx_congr hwb e.exStage
  rw [hsettled, ← readRegister_setPc _ 0 r, ← hdrained, readRegister_setPc]

/-! ### Every run -/

/-- ID completes in odd cycles only, when it is neither held nor flushed. -/
lemma Scheduled.completesId_cases {s : Simulation} (h : Scheduled s) (hid : completesId s = true) :
    ∃ cpu e t, s = ⟨cpu, none, e, t⟩ ∧ FetchReady e ∧ (evaluateIdHazard e).stalled = false ∧
      takenTarget e.exStage = none := by
  obtain ⟨cpu, e, t, rfl, hready | hidle⟩ := h.shape
  · rcases odd_cycle_cases e with ⟨hv, a, htaken⟩ | hstall | ⟨hstall, hnone⟩
    · simp [completesId, hready.atIdTick_taken hv htaken, slotIsEmpty] at hid
    · simp [completesId, hready.idProgresses, hstall] at hid
    · exact ⟨cpu, e, t, rfl, hready, hstall, hnone⟩
  · simp only [completesId, hidle.atIdTick_idStage, Bool.and_eq_true, Bool.not_eq_true',
      decide_eq_true_eq, slotIsEmpty, Bool.not_eq_false'] at hid
    have hleft := (hidle.id hid.1.1.1).1
    omega

/-- Whenever ID completes in a run on the global CPU, the operands it reads are what the registers
hold once every older instruction has completed WB. -/
theorem forwarded_operands_current (cpu : CPU) (n : ℕ)
    (hid : completesId (simulate n cpu none) = true) (r : Int)
    (hr : r = 0 ∨ instructionReadsRegister
      (decodeRawInstruction (atIdTick (simulate n cpu none)).engine.idStage.reg) r = true) :
    readOperandWithForwarding (atIdTick (simulate n cpu none)).target
        (atIdTick (simulate n cpu none)).engine r =
      readRegister (settled (atIdTick (simulate n cpu none))) r := by
  obtain ⟨c, e, t, hs, hready, hstall, hnone⟩ :=
    (scheduled_simulate n cpu).completesId_cases hid
  rw [hs] at hr ⊢
  rw [hready.readRegister_settled hnone]
  obtain ⟨t', hmoment⟩ := hready.atIdTick_flow c t hnone
  rw [hmoment] at hr ⊢
  exact forwarded_operand_current hready hstall hr

/-- `MOVI R1 7` and `ADD R2 R1 R1`. -/
def forwardingProgram : CPU :=
  { cpuReset with
    memory := fun i =>
      if i.val = 0 then UInt32.toInt32 0x30800007
      else if i.val = 1 then UInt32.toInt32 0x01042000
      else 0
    instructionCount := 2 }

/-- In cycle 5 ADD reads R1 while MOVI completes EX. -/
theorem forwarded_operands_current_add :
    readOperandWithForwarding (atIdTick (simulate 4 forwardingProgram none)).target
        (atIdTick (simulate 4 forwardingProgram none)).engine 1 =
      readRegister (settled (atIdTick (simulate 4 forwardingProgram none))) 1 :=
  forwarded_operands_current forwardingProgram 4 (by decide) 1
    (Or.inr (by decide))

end Fillet
