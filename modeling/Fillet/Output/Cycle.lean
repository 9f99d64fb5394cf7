import Fillet.Model.Output
import Fillet.Pipeline.Occupancy

/-!
# What one cycle prints

The counterpart of the computed cycles for the output: in a run on the global CPU the lines of a
cycle are those of its header, its fetch, its hazard and of the stages that complete in it.
-/

namespace Fillet

variable {cpu : CPU} {e : PipelineEngine} {t : Trace}

/-! ### Ticks -/

/-- The lines of a stage that completes. -/
def completeOutput (s : Simulation) : StageKind → List Message
  | .stageIf => [.ifOutput s.engine.ifStage.reg.rawInstruction s.engine.ifStage.reg.pc]
  | .stageId => completeIdOutput s
  | .stageEx => completeExOutput s
  | .stageMem => completeMemOutput s
  | .stageWb => completeWbOutput s

lemma tickSlotOutput_of_empty (s : Simulation) (kind : StageKind) (allow : Bool)
    (h : (s.engine.stage kind).reg.valid = false) : tickSlotOutput s kind allow = [] := by
  simp [tickSlotOutput, slotIsEmpty, h]

lemma tickSlotOutput_of_completed {s : Simulation} {kind : StageKind} (allow : Bool)
    (h : (s.engine.stage kind).completed = true) : tickSlotOutput s kind allow = [] := by
  simp [tickSlotOutput, h]

lemma tickSlotOutput_held (s : Simulation) (kind : StageKind) :
    tickSlotOutput s kind false = [] := by
  simp [tickSlotOutput]

/-- A slot that only counts down prints nothing. -/
lemma tickSlotOutput_of_two {s : Simulation} (kind : StageKind) (allow : Bool)
    (h : Pending (s.engine.stage kind) 2) : tickSlotOutput s kind allow = [] := by
  by_cases hv : (s.engine.stage kind).reg.valid = true
  · obtain ⟨hleft, hcompleted⟩ := h hv
    simp [tickSlotOutput, hleft]
  · exact tickSlotOutput_of_empty s kind allow (by simpa using hv)

/-- A slot in its last cycle prints the lines of its stage; these do not depend on the mark that is
set on the slot. -/
lemma tickSlotOutput_of_one {s : Simulation} (kind : StageKind)
    (h : Pending (s.engine.stage kind) 1) :
    tickSlotOutput s kind true = ifValid (s.engine.stage kind) (completeOutput s kind) := by
  by_cases hv : (s.engine.stage kind).reg.valid = true
  · obtain ⟨hleft, hcompleted⟩ := h hv
    simp only [tickSlotOutput, slotIsEmpty, hv, hcompleted, hleft, ifValid]
    cases kind <;> rfl
  · rw [tickSlotOutput_of_empty s kind true (by simpa using hv), ifValid, if_neg hv]

/-! ### The lines of a cycle -/

section Lines

variable (cpu e)

def headerLine : List Message :=
  [.cycleHeader { e with cycle := e.cycle + 1 } cpu.pc cpu.instructionCount]

/-- The fetch of an odd cycle. Without a fetch the program counter is behind the program, or IF is
still occupied. -/
def fetchLines : List Message :=
  if fetches cpu e then
    memoryFetchOutput cpu.pc ++ [.fetched cpu.pc (memoryFetchInstruction cpu cpu.pc) (cpu.pc + 1)]
  else [.noFetch (if running cpu then none else some .programEnd)]

def stallLine : List Message :=
  [.stall e.exStage.reg.r1 "waiting for MOVR load result from EX"]

def wbLines : List Message :=
  ifValid e.wbStage (completeWbOutput ⟨cpu, none, e, .empty⟩)

def memLines : List Message :=
  ifValid e.memStage (completeMemOutput ⟨cpu, none, e, .empty⟩)

def exLines : List Message :=
  ifValid e.exStage
    (completeExOutput ⟨idCpu cpu e, none, { e with ifStage := fetchedSlot cpu e }, .empty⟩)

def idLines : List Message :=
  ifValid e.idStage (completeIdOutput ⟨idCpu cpu e, none, idEngine e, .empty⟩)

def ifLines : List Message :=
  if fetches cpu e then [.ifOutput (memoryFetchInstruction cpu cpu.pc) cpu.pc] else []

end Lines

lemma hazardOutput_of_stalled (h : (evaluateIdHazard e).stalled = true) :
    hazardOutput (evaluateIdHazard e) = stallLine e := by
  obtain ⟨-, ⟨hex, hop⟩, -, -⟩ := (stalled_iff e).mp h
  have hdest : destinationRegister e.exStage.reg = e.exStage.reg.r1 := by
    simp [destinationRegister, instructionWritesRegister, hex, hop, opcodeWritesRegister]
  have hdecision : (evaluateIdHazard e).producerReg = e.exStage.reg.r1 ∧
      (evaluateIdHazard e).reason = some "waiting for MOVR load result from EX" := by
    rw [← hdest]
    simp only [evaluateIdHazard] at h ⊢
    split_ifs at h ⊢
    exact ⟨rfl, rfl⟩
  rw [hazardOutput, if_pos h, hdecision.1, hdecision.2]
  rfl

lemma hazardOutput_of_not_stalled (h : (evaluateIdHazard e).stalled = false) :
    hazardOutput (evaluateIdHazard e) = [] := by
  rw [hazardOutput, h]
  rfl

/-- `validatePipeline` is silent on an engine with sound counters. -/
lemma validateOutput_eq_nil {engine : PipelineEngine} {fetched active : Bool}
    (hfetched : fetched = true → active = false ∧ engine.cycle % 2 = 1)
    (hid : engine.idStage.reg.valid = true → engine.idStage.cyclesLeft ≤ 2)
    (hex : engine.exStage.reg.valid = true → engine.exStage.cyclesLeft ≤ 2) :
    validateOutput engine fetched active = [] := by
  have hidSlot : (!slotIsEmpty engine.idStage &&
      decide (engine.idStage.cyclesLeft > idCycles)) = false := by
    cases hv : engine.idStage.reg.valid
    · simp [slotIsEmpty, hv]
    · simp [slotIsEmpty, idCycles, hid hv]
  have hexSlot : (!slotIsEmpty engine.exStage &&
      decide (engine.exStage.cyclesLeft > exCycles)) = false := by
    cases hv : engine.exStage.reg.valid
    · simp [slotIsEmpty, hv]
    · simp [slotIsEmpty, exCycles, hex hv]
  cases hf : fetched with
  | false => simp [validateOutput, hidSlot, hexSlot]
  | true =>
    obtain ⟨hactive, hodd⟩ := hfetched hf
    simp [validateOutput, hidSlot, hexSlot, hactive, hodd]

lemma FetchReady.validateOutput (h : FetchReady e) (cpu' : CPU) :
    Fillet.validateOutput (simulateCycle ⟨cpu, none, e, t⟩).engine
      (canFetchThisCycle cpu' { e with cycle := e.cycle + 1 }) (!slotIsEmpty e.memStage) = [] := by
  have hidle : FetchIdle (simulateCycle ⟨cpu, none, e, t⟩).engine := h.idle_next
  apply validateOutput_eq_nil
  · intro _
    exact ⟨by simp [slotIsEmpty, h.mem], hidle.cycle⟩
  · exact fun hv => (hidle.id hv).1.le
  · exact fun hv => (hidle.ex hv).1.le

lemma FetchIdle.validateOutput (h : FetchIdle e) :
    Fillet.validateOutput (simulateCycle ⟨cpu, none, e, t⟩).engine
      (canFetchThisCycle cpu { e with cycle := e.cycle + 1 }) (!slotIsEmpty e.memStage) = [] := by
  have hready : FetchReady (simulateCycle ⟨cpu, none, e, t⟩).engine := h.ready_next
  apply validateOutput_eq_nil
  · intro hfetched
    rw [h.not_canFetch] at hfetched
    exact absurd hfetched Bool.noConfusion
  · intro hv
    rw [(hready.id hv).1]
    split_ifs <;> decide
  · exact fun hv => (hready.ex hv).1.trans_le (by decide)

/-! ### Odd cycles -/

lemma FetchReady.fetchPhaseOutput (h : FetchReady e) :
    Fillet.fetchPhaseOutput (beginCycle ⟨cpu, none, e, t⟩) = fetchLines cpu e := by
  have hodd := h.next_odd
  have hcan : canFetchThisCycle (beginCycle ⟨cpu, none, e, t⟩).target
      (beginCycle ⟨cpu, none, e, t⟩).engine = fetches cpu e := h.canFetch cpu
  rw [Fillet.fetchPhaseOutput, hcan, fetchLines]
  split_ifs with hf hrun
  · rfl
  · have hin : cpu.pc < cpu.instructionCount.toUInt32 := by simpa [running] using hrun
    simp [noFetchReason, beginCycle, Simulation.target, hodd, slotIsEmpty, h.mem, h.wait, hin]
  · have hout : cpu.instructionCount.toUInt32 ≤ cpu.pc := by simpa [running] using hrun
    simp [noFetchReason, beginCycle, Simulation.target, hodd, slotIsEmpty, h.mem, h.wait, hout]

/-- The stages before ID in an odd cycle. -/
lemma FetchReady.backOutput (h : FetchReady e) {s : Simulation}
    (hs : s = Fillet.fetchPhase (beginCycle ⟨cpu, none, e, t⟩)) :
    Fillet.backOutput (hazardPhase s) = wbLines (fetchedCpu cpu e) e ++ exLines cpu e := by
  rw [hs, h.fetchPhase]
  simp only [Fillet.backOutput, hazardPhase]
  rw [tickSlotOutput_of_one .stageWb, tickSlot_wb, tickSlotOutput_of_empty _ .stageMem true,
    tickSlot_of_empty _ .stageMem true, tickSlotOutput_of_one .stageEx]
  · rw [List.append_nil]
    rfl
  · exact h.ex
  · exact h.mem
  · exact h.mem
  · exact h.wb
  · exact h.wb

/-- The tick of IF, at any later point of the same cycle. -/
lemma FetchReady.tickSlotOutput_if (h : FetchReady e) {c : CPU} {e' : PipelineEngine} {t' : Trace}
    (he' : e'.ifStage = fetchedSlot cpu e) :
    tickSlotOutput ⟨c, none, e', t'⟩ .stageIf true = ifLines cpu e := by
  by_cases hf : fetches cpu e = true
  · simp [tickSlotOutput, PipelineEngine.stage, slotIsEmpty, he', fetchedSlot, hf,
      fetchedRegister, ifCycles, ifLines]
  · have hslot : e'.ifStage = e.ifStage := by simp [he', fetchedSlot, hf]
    rw [ifLines, if_neg hf]
    by_cases hv : e.ifStage.reg.valid = true
    · apply tickSlotOutput_of_completed
      simpa [PipelineEngine.stage, hslot] using (h.ifs hv).1
    · apply tickSlotOutput_of_empty
      simpa [PipelineEngine.stage, hslot] using hv

section Front

variable {s : Simulation}

/-- ID and IF after a taken branch: both are empty. -/
lemma FetchReady.frontOutput_taken (h : FetchReady e) (hv : e.exStage.reg.valid = true)
    {a : UInt32} (htaken : calculateBranchTarget e.exStage.reg = some a)
    (hazard : HazardDecision) (hs : s = Fillet.fetchPhase (beginCycle ⟨cpu, none, e, t⟩)) :
    frontOutput hazard (backPhase (hazardPhase s)) = [] := by
  rw [hs, h.fetchPhase]
  simp only [hazardPhase, frontOutput]
  rw [h.backPhase_taken hv htaken, tickSlotOutput_of_empty _ .stageId _ rfl,
    tickSlot_of_empty _ .stageId _ rfl, tickSlotOutput_of_empty _ .stageIf _ rfl]
  rfl

/-- ID and IF, when ID is held. -/
lemma FetchReady.frontOutput_stalled (h : FetchReady e)
    (hstall : (evaluateIdHazard e).stalled = true)
    (hs : s = Fillet.fetchPhase (beginCycle ⟨cpu, none, e, t⟩)) :
    frontOutput (evaluateIdHazard e) (backPhase (hazardPhase s)) = ifLines cpu e := by
  rw [hs, h.fetchPhase]
  simp only [hazardPhase, frontOutput]
  rw [h.backPhase_untaken (takenTarget_of_stalled hstall), hstall, Bool.not_true,
    tickSlotOutput_held, tickSlot_held, h.tickSlotOutput_if rfl, List.nil_append]

/-- ID and IF, when every slot moves on. -/
lemma FetchReady.frontOutput_flow (h : FetchReady e) (hstall : (evaluateIdHazard e).stalled = false)
    (hnone : takenTarget e.exStage = none)
    (hs : s = Fillet.fetchPhase (beginCycle ⟨cpu, none, e, t⟩)) :
    frontOutput (evaluateIdHazard e) (backPhase (hazardPhase s)) =
      idLines cpu e ++ ifLines cpu e := by
  rw [hs, h.fetchPhase]
  simp only [hazardPhase, frontOutput]
  rw [h.backPhase_untaken hnone, hstall, Bool.not_false, tickSlotOutput_of_one .stageId,
    tickSlot_id, h.tickSlotOutput_if rfl]
  · rfl
  · exact h.id_pending hstall
  · exact h.id_pending hstall

end Front

/-- The lines of a cycle, part by part. -/
lemma FetchReady.cycleOutput (h : FetchReady e) (t : Trace) :
    Fillet.cycleOutput ⟨cpu, none, e, t⟩ =
      headerLine cpu e ++ fetchLines cpu e ++ hazardOutput (evaluateIdHazard e) ++
        (wbLines (fetchedCpu cpu e) e ++ exLines cpu e) ++
        frontOutput (evaluateIdHazard e)
          (backPhase (hazardPhase (Fillet.fetchPhase (beginCycle ⟨cpu, none, e, t⟩)))) := by
  have hhazard : evaluateIdHazard
      (hazardPhase (Fillet.fetchPhase (beginCycle ⟨cpu, none, e, t⟩))).engine =
      evaluateIdHazard e := by
    rw [h.fetchPhase]
    rfl
  have hvalidate : Fillet.validateOutput (simulateCycle ⟨cpu, none, e, t⟩).engine
      (canFetchThisCycle (beginCycle ⟨cpu, none, e, t⟩).target
        (beginCycle ⟨cpu, none, e, t⟩).engine)
      (!slotIsEmpty (beginCycle ⟨cpu, none, e, t⟩).engine.memStage) = [] := h.validateOutput cpu
  simp only [Fillet.cycleOutput]
  rw [hhazard, hvalidate, h.fetchPhaseOutput, h.backOutput rfl, List.append_nil]
  rfl

/-- An odd cycle in which EX resolves a taken branch. -/
theorem odd_output_taken (h : FetchReady e) (hv : e.exStage.reg.valid = true) {a : UInt32}
    (htaken : calculateBranchTarget e.exStage.reg = some a) :
    cycleOutput ⟨cpu, none, e, t⟩ =
      headerLine cpu e ++ fetchLines cpu e ++ (wbLines (fetchedCpu cpu e) e ++ exLines cpu e) := by
  have hstall : (evaluateIdHazard e).stalled = false := by
    rw [← Bool.not_eq_true]
    intro hstall
    have hnone := takenTarget_of_stalled hstall
    rw [takenTarget, if_pos hv, htaken] at hnone
    exact absurd hnone (by simp)
  rw [h.cycleOutput, h.frontOutput_taken hv htaken _ rfl, hazardOutput_of_not_stalled hstall,
    List.append_nil, List.append_nil]

/-- An odd cycle in which ID waits for a load. -/
theorem odd_output_stalled (h : FetchReady e) (hstall : (evaluateIdHazard e).stalled = true) :
    cycleOutput ⟨cpu, none, e, t⟩ =
      headerLine cpu e ++ fetchLines cpu e ++ stallLine e ++
        (wbLines (fetchedCpu cpu e) e ++ exLines cpu e) ++ ifLines cpu e := by
  rw [h.cycleOutput, h.frontOutput_stalled hstall rfl, hazardOutput_of_stalled hstall]

/-- An odd cycle in which every slot moves on. -/
theorem odd_output_flow (h : FetchReady e) (hstall : (evaluateIdHazard e).stalled = false)
    (hnone : takenTarget e.exStage = none) :
    cycleOutput ⟨cpu, none, e, t⟩ =
      headerLine cpu e ++ fetchLines cpu e ++ (wbLines (fetchedCpu cpu e) e ++ exLines cpu e) ++
        (idLines cpu e ++ ifLines cpu e) := by
  rw [h.cycleOutput, h.frontOutput_flow hstall hnone rfl, hazardOutput_of_not_stalled hstall,
    List.append_nil]

/-! ### The even cycle -/

/-- An even cycle: the fetch pauses, MEM completes. -/
theorem even_output (h : FetchIdle e) :
    cycleOutput ⟨cpu, none, e, t⟩ =
      headerLine cpu e ++ [.noFetch (some .fetchCadence)] ++ hazardOutput (evaluateIdHazard e) ++
        memLines cpu e := by
  have hfetch : fetchPhaseOutput (beginCycle ⟨cpu, none, e, t⟩) =
      [.noFetch (some .fetchCadence)] := by
    have hcan : canFetchThisCycle (beginCycle ⟨cpu, none, e, t⟩).target
        (beginCycle ⟨cpu, none, e, t⟩).engine = false := h.not_canFetch cpu
    have heven : (beginCycle ⟨cpu, none, e, t⟩).engine.cycle % 2 = 0 := h.next_even
    rw [fetchPhaseOutput, hcan, noFetchReason, if_pos heven]
    rfl
  have hvalidate : validateOutput (simulateCycle ⟨cpu, none, e, t⟩).engine
      (canFetchThisCycle (beginCycle ⟨cpu, none, e, t⟩).target
        (beginCycle ⟨cpu, none, e, t⟩).engine)
      (!slotIsEmpty (beginCycle ⟨cpu, none, e, t⟩).engine.memStage) = [] := h.validateOutput
  have hif : ∀ (c : CPU) (e' : PipelineEngine) (t' : Trace), e'.ifStage = e.ifStage →
      tickSlotOutput ⟨c, none, e', t'⟩ .stageIf true = [] := by
    intro c e' t' he'
    by_cases hv : e.ifStage.reg.valid = true
    · apply tickSlotOutput_of_completed
      simpa [PipelineEngine.stage, he'] using (h.ifs hv).1
    · apply tickSlotOutput_of_empty
      simpa [PipelineEngine.stage, he'] using hv
  have hhazard : evaluateIdHazard { e with cycle := e.cycle + 1 } = evaluateIdHazard e := rfl
  simp only [cycleOutput]
  rw [hvalidate, hfetch, h.fetchPhase]
  simp only [hazardPhase, backOutput, backPhase, frontOutput, hhazard]
  rw [tickSlotOutput_of_empty _ .stageWb true, tickSlot_of_empty _ .stageWb true,
    tickSlotOutput_of_one .stageMem, tickSlot_mem, tickSlotOutput_of_two .stageEx,
    tickSlot_ex_two, tickSlotOutput_of_two .stageId, tickSlot_id_two, hif]
  · simp only [List.append_nil, List.nil_append]
    rfl
  · rfl
  · exact h.id
  · exact h.id
  · exact h.ex
  · exact h.ex
  · exact h.mem
  · exact h.mem
  · exact h.wb
  · exact h.wb

end Fillet
