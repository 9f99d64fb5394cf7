import Fillet.Output.Control
import Fillet.Pipeline.Completion

/-!
# The fetch log

What is fetched are the instructions of the sequential machine, in its order, and behind each branch
that is taken the two instructions that follow it in the program, as far as there are any. These two
are flushed. The lines about fetches say just that.
-/

namespace Fillet

open BoundedLoop

variable {cpu c : CPU} {e : PipelineEngine} {t : Trace}

/-! ### The log of the sequential machine -/

/-- The two fetches behind a branch at the address before `a`, as far as the program goes. -/
def wrongPath (cpu : CPU) (a : UInt32) : List (UInt32 × UInt32) :=
  if a < cpu.instructionCount.toUInt32 then
    (a, memoryFetchInstruction cpu a) ::
      if a + 1 < cpu.instructionCount.toUInt32 then
        [(a + 1, memoryFetchInstruction cpu (a + 1))]
      else []
  else []

/-- The fetches for the next instruction of the sequential machine. -/
def stepFetches (cpu : CPU) : List (UInt32 × UInt32) :=
  if running cpu then
    (cpu.pc, memoryFetchInstruction cpu cpu.pc) ::
      if (calculateBranchTarget (sequentialInstruction cpu)).isSome then
        wrongPath cpu (cpu.pc + 1)
      else []
  else []

/-- The fetches for the first `k` instructions. -/
def fetchLog (cpu : CPU) (k : ℕ) : List (UInt32 × UInt32) :=
  (List.range k).flatMap fun i => stepFetches (machineAt cpu i).cpu

lemma fetchLog_succ (cpu : CPU) (k : ℕ) :
    fetchLog cpu (k + 1) = fetchLog cpu k ++ stepFetches (machineAt cpu k).cpu := by
  simp [fetchLog, List.range_succ]

lemma wrongPath_congr {cpu' : CPU} (h : SameProgram cpu cpu') (a : UInt32) :
    wrongPath cpu' a = wrongPath cpu a := by
  simp only [wrongPath, h.count, memoryFetchInstruction_congr h.memory]

lemma stepFetches_of_halted (hhalt : running cpu = false) : stepFetches cpu = [] := by
  rw [stepFetches, hhalt, if_neg Bool.false_ne_true]

/-- A machine that has halted fetches nothing. -/
lemma fetchLog_of_halted {k j : ℕ} (hhalt : running (machineAt cpu k).cpu = false) (hkj : k ≤ j) :
    fetchLog cpu j = fetchLog cpu k :=
  log_of_halted (fun _ hi => stepFetches_of_halted hi) hhalt hkj

/-! ### What is in flight -/

/-- The fetch that a slot before EX stems from. -/
def held (slot : StageSlot) : List (UInt32 × UInt32) :=
  ifValid slot [(slot.reg.pc, slot.reg.rawInstruction)]

/-- What has been fetched and neither left ID nor been flushed. -/
def inFlight (e : PipelineEngine) : List (UInt32 × UInt32) :=
  held e.idStage ++ held e.ifStage

/-- The wrong path of a branch in EX that is taken. -/
def flushable (cpu : CPU) (e : PipelineEngine) : List (UInt32 × UInt32) :=
  if (takenTarget e.exStage).isSome then wrongPath cpu (e.exStage.reg.pc + 1) else []

lemma held_of_empty {slot : StageSlot} (h : slot.reg.valid = false) : held slot = [] :=
  ifValid_of_empty h _

lemma held_of_valid {slot : StageSlot} (h : slot.reg.valid = true) :
    held slot = [(slot.reg.pc, slot.reg.rawInstruction)] :=
  if_pos h

lemma flushable_of_none (h : takenTarget e.exStage = none) : flushable cpu e = [] := by
  rw [flushable, h]
  rfl

lemma held_counted (stalled : Bool) (slot : StageSlot) :
    held (countedUnless stalled slot) = held slot := by
  simp only [held, ifValid, countedUnless_reg]

/-- IF holds what it held, or what was fetched. -/
lemma held_arrivedSlot (cpu : CPU) (e : PipelineEngine) :
    held (arrivedSlot cpu e) = held e.ifStage ++ fetchEvents cpu e := by
  by_cases hf : fetches cpu e = true
  · have hif : e.ifStage.reg.valid = false := by
      simp only [fetches, Bool.and_eq_true, Bool.not_eq_true'] at hf
      exact hf.2
    rw [held_of_empty hif]
    simp [held, arrivedSlot, hf, fetchEvents, ifValid, fetchedRegister]
  · simp [arrivedSlot, hf, fetchEvents]

/-- The instruction in IF moves on to ID. -/
lemma held_moved (slot slot' : StageSlot) (n : Int) (reg : PipelineRegister) :
    held (if slot.reg.valid then setSlot slot.reg n else departed slot' reg) = held slot := by
  by_cases hv : slot.reg.valid = true
  · rw [if_pos hv]
    rfl
  · rw [if_neg hv, held_of_empty (departed_valid _ _), held_of_empty (by simpa using hv)]

/-! ### Behind EX the addresses are consecutive -/

/-- Behind an instruction in EX come ID and the program counter; an empty ID is the end of the
program. -/
def Consecutive (cpu : CPU) (e : PipelineEngine) : Prop :=
  e.exStage.reg.valid = true →
    e.exStage.reg.pc + 1 = (if e.idStage.reg.valid then e.idStage.reg.pc else cpu.pc) ∧
      (e.idStage.reg.valid = false → running cpu = false)

lemma consecutive_of_empty (h : e.exStage.reg.valid = false) : Consecutive cpu e :=
  fun hv => absurd (h.symm.trans hv) Bool.noConfusion

lemma FetchReady.consecutive_next (h : FetchReady e) (horder : FetchedInOrder cpu e) :
    Consecutive (simulateCycle ⟨cpu, none, e, t⟩).cpu
      (simulateCycle ⟨cpu, none, e, t⟩).engine := by
  rcases odd_cycle_cases e with ⟨hv, a, htaken⟩ | hstall | ⟨hstall, hnone⟩
  · rw [odd_cycle_taken h hv htaken]
    exact consecutive_of_empty rfl
  · rw [odd_cycle_stalled h hstall]
    exact consecutive_of_empty rfl
  · rw [odd_cycle_flow h hstall hnone]
    intro hex
    dsimp only at hex ⊢
    cases hid : e.idStage.reg.valid with
    | false =>
      rw [hid, Bool.false_and, if_neg Bool.false_ne_true, vacated_valid] at hex
      exact absurd hex Bool.false_ne_true
    | true =>
      have hnext := horder.id_next hid
      have hlatched : (latchedId cpu e).valid = true := by
        by_contra hlatched
        rw [hid, Bool.true_and, if_neg hlatched, vacated_valid] at hex
        exact absurd hex Bool.false_ne_true
      have hpc : (latchedId cpu e).pc = e.idStage.reg.pc := by
        rw [latchedId, latchDecodeOperands, latchOperands_pc, decodeRawInstruction_pc]
      rw [hlatched, Bool.and_self, if_pos rfl, setSlot_reg, hpc, idCpu_pc, hnext]
      by_cases harrived : (arrivedSlot cpu e).reg.valid = true
      · simp [harrived]
      · refine ⟨by simp [harrived], fun _ => ?_⟩
        have hend : ¬ e.idStage.reg.pc + 1 < cpu.instructionCount.toUInt32 :=
          fun hrun => harrived (arrived_of_running horder hid hrun)
        rw [hnext, if_neg harrived] at hend
        have hcount : (idCpu cpu e).instructionCount = cpu.instructionCount :=
          (sameProgram_idCpu cpu e).count
        simpa [running, hcount] using hend

lemma FetchIdle.consecutive_next (h : FetchIdle e) (hbehind : Consecutive cpu e) :
    Consecutive (simulateCycle ⟨cpu, none, e, t⟩).cpu
      (simulateCycle ⟨cpu, none, e, t⟩).engine := by
  rw [even_cycle h]
  intro hex
  dsimp only at hex ⊢
  rw [counted_reg] at hex ⊢
  rw [countedUnless_reg, memAccessed_pc, running_memAccessed]
  exact hbehind hex

/-- When a branch is resolved as taken, just its wrong path is in flight. -/
lemma FetchReady.inFlight_taken (h : FetchReady e) (horder : FetchedInOrder cpu e)
    (hbehind : Consecutive cpu e) (hex : e.exStage.reg.valid = true) :
    inFlight e ++ fetchEvents cpu e = wrongPath cpu (e.exStage.reg.pc + 1) := by
  obtain ⟨hpc, hend⟩ := hbehind hex
  have hif : e.ifStage.reg.valid = false := by
    by_contra hif
    have hempty := (h.ifs (by simpa using hif)).2.2
    exact absurd (hempty.symm.trans hex) Bool.noConfusion
  rw [inFlight, held_of_empty hif, List.append_nil]
  cases hid : e.idStage.reg.valid with
  | true =>
    obtain ⟨hfrom, hnext⟩ := horder.id hid
    rw [hid, if_pos rfl] at hpc
    rw [if_neg (by simp [hif])] at hnext
    rw [hpc, wrongPath, if_pos hfrom.inside, hnext, held_of_valid hid, hfrom.raw]
    simp [fetchEvents, fetches, running, hif]
  | false =>
    rw [hid, if_neg (by decide)] at hpc
    have hout : ¬ cpu.pc < cpu.instructionCount.toUInt32 := by simpa [running] using hend hid
    rw [held_of_empty hid, hpc, wrongPath, if_neg hout]
    simp [fetchEvents, fetches, hend hid]

/-! ### The run -/

/-- A run in which `k` instructions have left ID: what was fetched is their log, without the part of
the wrong path that is still to be fetched, and what is in flight. -/
structure Logged (cpu : CPU) (k : ℕ) (s : Simulation) : Prop extends InStep s where
  view : sequentialView s = machineAt cpu k
  program : SameProgram cpu s.cpu
  consecutive : Consecutive s.cpu s.engine
  fetched : ∃ done, s.trace.fetched = done ++ inFlight s.engine ∧
    fetchLog cpu k = done ++ flushable cpu s.engine

lemma logged_start (cpu : CPU) : Logged cpu 0 (.start cpu none) where
  toInStep := inStep_start cpu
  view := sequentialView_start cpu
  program := .refl cpu
  consecutive := consecutive_of_empty rfl
  fetched := ⟨[], rfl, rfl⟩

/-- What is in ID is fetched next by the sequential machine. -/
lemma stepFetches_view {s : Simulation} (horder : FetchedInOrder s.cpu s.engine)
    (hnone : takenTarget s.engine.exStage = none) (hid : s.engine.idStage.reg.valid = true) :
    stepFetches (sequentialView s).cpu = held s.engine.idStage ++
      if (calculateBranchTarget (sequentialInstruction (sequentialView s).cpu)).isSome then
        wrongPath s.cpu (s.engine.idStage.reg.pc + 1)
      else [] := by
  have hfrom := (horder.id hid).1
  have hrun : running (sequentialView s).cpu = true := by
    rw [running_view, resumePc_of_id hnone hid]
    exact decide_eq_true hfrom.inside
  have hpc : (sequentialView s).cpu.pc = s.engine.idStage.reg.pc := resumePc_of_id hnone hid
  have hsame : SameProgram s.cpu (sequentialView s).cpu :=
    ((extends_drained s).trans (extends_setPc _ _)).program
  rw [stepFetches, if_pos hrun, hpc, wrongPath_congr hsame,
    memoryFetchInstruction_congr hsame.memory, held_of_valid hid, hfrom.raw]
  rfl

/-- When an instruction leaves ID, its wrong path becomes flushable. -/
lemma FetchReady.flushable_issue (h : FetchReady e) (horder : FetchedInOrder c e)
    (hstall : (evaluateIdHazard e).stalled = false) (hnone : takenTarget e.exStage = none)
    (hid : e.idStage.reg.valid = true) :
    flushable c (simulateCycle ⟨c, none, e, t⟩).engine =
      if (calculateBranchTarget (sequentialInstruction (sequentialView ⟨c, none, e, t⟩).cpu)).isSome
        then wrongPath c (e.idStage.reg.pc + 1) else [] := by
  rw [flushable, h.exStage_issue c t hstall hnone hid]
  cases hvalid : (decodeRawInstruction e.idStage.reg).valid with
  | true =>
    have hbranch := (h.latched_agrees c t hstall hvalid (.start c)).2
    have hlatched : (latchedId c e).pc = e.idStage.reg.pc := by
      rw [latchedId, latchDecodeOperands, latchOperands_pc, decodeRawInstruction_pc]
    rw [← sequentialInstruction_view ⟨c, none, e, t⟩ horder hnone hid] at hbranch
    rw [if_pos rfl, takenTarget, setSlot_reg, latchedId_valid, hvalid, if_pos rfl, hbranch,
      hlatched]
  | false =>
    rw [if_neg Bool.false_ne_true, takenTarget_of_empty (vacated_valid _),
      sequentialInstruction_view ⟨c, none, e, t⟩ horder hnone hid,
      calculateBranchTarget_of_invalid hid hvalid]
    rfl

section Ready

variable {k : ℕ} (h : FetchReady e) (hs : Logged cpu k ⟨c, none, e, t⟩)
include h hs

/-- An odd cycle keeps everything but the view and what was fetched. -/
lemma FetchReady.logged_of_view {k' : ℕ}
    (hview : sequentialView (simulateCycle ⟨c, none, e, t⟩) = machineAt cpu k')
    (hfetched : ∃ done, (simulateCycle ⟨c, none, e, t⟩).trace.fetched =
        done ++ inFlight (simulateCycle ⟨c, none, e, t⟩).engine ∧
      fetchLog cpu k' = done ++ flushable cpu (simulateCycle ⟨c, none, e, t⟩).engine) :
    Logged cpu k' (simulateCycle ⟨c, none, e, t⟩) where
  toInStep := hs.toInStep.next
  view := hview
  program := hs.program.trans hs.toScheduled.sameProgram
  consecutive := h.consecutive_next hs.order
  fetched := hfetched

/-- A branch that is taken flushes its wrong path, which has been fetched by then. -/
lemma FetchReady.logged_taken (hv : e.exStage.reg.valid = true) {a : UInt32}
    (htaken : calculateBranchTarget e.exStage.reg = some a) :
    Logged cpu k (simulateCycle ⟨c, none, e, t⟩) := by
  obtain ⟨done, hfetched, hlog⟩ := hs.fetched
  change t.fetched = done ++ inFlight e at hfetched
  have htarget : (takenTarget e.exStage).isSome = true := by
    rw [takenTarget, if_pos hv, htaken]
    rfl
  have hpath := h.inFlight_taken hs.order hs.consecutive hv
  rw [wrongPath_congr hs.program] at hpath
  refine h.logged_of_view hs ((h.view_taken hv htaken).trans hs.view) ⟨fetchLog cpu k, ?_, ?_⟩
  · rw [odd_cycle_taken h hv htaken, hlog, flushable, if_pos htarget, ← hpath]
    show t.fetched ++ fetchEvents c e = _ ++ []
    rw [hfetched, List.append_nil, List.append_assoc]
  · rw [odd_cycle_taken h hv htaken, flushable_of_none (takenTarget_of_empty rfl),
      List.append_nil]

/-- A stall leaves ID alone; what is fetched waits in IF. -/
lemma FetchReady.logged_stalled (hstall : (evaluateIdHazard e).stalled = true) :
    Logged cpu k (simulateCycle ⟨c, none, e, t⟩) := by
  obtain ⟨done, hfetched, hlog⟩ := hs.fetched
  change t.fetched = done ++ inFlight e at hfetched
  refine h.logged_of_view hs ((h.view_stalled hstall).trans hs.view) ⟨done, ?_, ?_⟩
  · rw [odd_cycle_stalled h hstall]
    show t.fetched ++ fetchEvents c e = done ++ (held e.idStage ++ held (arrivedSlot c e))
    rw [hfetched, held_arrivedSlot, inFlight]
    simp only [List.append_assoc]
  · rw [flushable_of_none (takenTarget_of_stalled hstall)] at hlog
    rw [odd_cycle_stalled h hstall, flushable_of_none (takenTarget_of_empty rfl), hlog]

/-- Otherwise ID hands its instruction on, if it holds one, and IF moves to ID. -/
lemma FetchReady.logged_flow (hstall : (evaluateIdHazard e).stalled = false)
    (hnone : takenTarget e.exStage = none) :
    ∃ k', Logged cpu k' (simulateCycle ⟨c, none, e, t⟩) := by
  obtain ⟨done, hfetched, hlog⟩ := hs.fetched
  change t.fetched = done ++ inFlight e at hfetched
  change fetchLog cpu k = done ++ flushable cpu e at hlog
  rw [flushable_of_none hnone, List.append_nil] at hlog
  have hflight : (simulateCycle ⟨c, none, e, t⟩).trace.fetched = t.fetched ++ fetchEvents c e ∧
      inFlight (simulateCycle ⟨c, none, e, t⟩).engine = held e.ifStage ++ fetchEvents c e := by
    rw [odd_cycle_flow h hstall hnone]
    refine ⟨rfl, ?_⟩
    rw [← held_arrivedSlot, inFlight, held_of_empty (vacated_valid _), List.append_nil]
    exact held_moved _ _ _ _
  cases hid : e.idStage.reg.valid with
  | false =>
    refine ⟨k, h.logged_of_view hs ((h.view_bubble hstall hnone hid).trans hs.view)
      ⟨done, ?_, ?_⟩⟩
    · rw [hflight.1, hflight.2, hfetched, inFlight, held_of_empty hid, List.nil_append,
        List.append_assoc]
    · rw [hlog, odd_cycle_flow h hstall hnone, flushable_of_none, List.append_nil]
      apply takenTarget_of_empty
      simp [hid]
  | true =>
    have hview : sequentialView (simulateCycle ⟨c, none, e, t⟩) = machineAt cpu (k + 1) := by
      rw [h.view_issue hs.order hstall hnone hid, hs.view, machineAt_succ]
    have hstep := stepFetches_view hs.order hnone hid
    rw [← h.flushable_issue hs.order hstall hnone hid, hs.view] at hstep
    refine ⟨k + 1, h.logged_of_view hs hview ⟨done ++ held e.idStage, ?_, ?_⟩⟩
    · rw [hflight.1, hflight.2, hfetched, inFlight]
      simp only [List.append_assoc]
    · have hpath : flushable c (simulateCycle ⟨c, none, e, t⟩).engine =
          flushable cpu (simulateCycle ⟨c, none, e, t⟩).engine := by
        simp only [flushable, wrongPath_congr hs.program]
      rw [fetchLog_succ, hstep, hlog, List.append_assoc, hpath]

lemma FetchReady.logged : ∃ k', Logged cpu k' (simulateCycle ⟨c, none, e, t⟩) := by
  rcases odd_cycle_cases e with ⟨hv, a, htaken⟩ | hstall | ⟨hstall, hnone⟩
  · exact ⟨k, h.logged_taken hs hv htaken⟩
  · exact ⟨k, h.logged_stalled hs hstall⟩
  · exact h.logged_flow hs hstall hnone

end Ready

lemma FetchIdle.logged (h : FetchIdle e) {k : ℕ} (hs : Logged cpu k ⟨c, none, e, t⟩) :
    Logged cpu k (simulateCycle ⟨c, none, e, t⟩) where
  toInStep := hs.toInStep.next
  view := h.view.trans hs.view
  program := hs.program.trans hs.toScheduled.sameProgram
  consecutive := h.consecutive_next hs.consecutive
  fetched := by
    obtain ⟨done, hfetched, hlog⟩ := hs.fetched
    refine ⟨done, ?_, ?_⟩
    · rw [even_cycle h]
      dsimp only
      rw [inFlight, held_counted]
      exact hfetched
    · rw [even_cycle h, hlog]
      simp only [flushable, takenTarget, counted_reg]

lemma logged_simulate (cpu : CPU) (n : ℕ) : ∃ k, Logged cpu k (simulate n cpu none) := by
  refine boundedWhile_invariant (P := fun s => ∃ k, Logged cpu k s) ?_ n ⟨0, logged_start cpu⟩
  rintro s ⟨k, hs⟩ _
  obtain ⟨c, e, t, rfl, hready | hidle⟩ := hs.toScheduled.shape
  · exact hready.logged hs
  · exact ⟨k, hidle.logged hs⟩

/-- IF only holds an instruction that waits behind ID, with nothing in EX. -/
lemma Scheduled.ifs {s : Simulation} (h : Scheduled s)
    (hif : s.engine.ifStage.reg.valid = true) :
    s.engine.idStage.reg.valid = true ∧ s.engine.exStage.reg.valid = false := by
  rcases h.engine with hready | hidle
  · exact (hready.ifs hif).2
  · exact (hidle.ifs hif).2

/-- Behind a branch in EX that is taken only its wrong path is fetched. -/
lemma Logged.inFlight_wrongPath {k : ℕ} {s : Simulation} (h : Logged cpu k s)
    (hex : s.engine.exStage.reg.valid = true) :
    inFlight s.engine <+: wrongPath cpu (s.engine.exStage.reg.pc + 1) := by
  have hif : s.engine.ifStage.reg.valid = false := by
    by_contra hif
    have hempty := (h.toScheduled.ifs (by simpa using hif)).2
    exact absurd (hempty.symm.trans hex) Bool.noConfusion
  rw [inFlight, held_of_empty hif, List.append_nil]
  cases hid : s.engine.idStage.reg.valid with
  | true =>
    have hfrom := (h.order.id hid).1
    have hpc := (h.consecutive hex).1
    rw [hid, if_pos rfl] at hpc
    rw [hpc, ← wrongPath_congr h.program, wrongPath, if_pos hfrom.inside, held_of_valid hid,
      hfrom.raw]
    exact List.prefix_append [_] _
  | false =>
    rw [held_of_empty hid]
    exact List.nil_prefix

/-- Without such a branch what is in flight is fetched next by the sequential machine. -/
lemma Logged.inFlight_steps {k : ℕ} {s : Simulation} (h : Logged cpu k s)
    (hnone : takenTarget s.engine.exStage = none) :
    inFlight s.engine <+:
      stepFetches (machineAt cpu k).cpu ++ stepFetches (machineAt cpu (k + 1)).cpu := by
  cases hid : s.engine.idStage.reg.valid with
  | false =>
    have hif : s.engine.ifStage.reg.valid = false := by
      by_contra hif
      have hbusy := (h.toScheduled.ifs (by simpa using hif)).1
      exact absurd (hid.symm.trans hbusy) Bool.noConfusion
    rw [inFlight, held_of_empty hid, held_of_empty hif]
    exact List.nil_prefix
  | true =>
    have hfirst := stepFetches_view h.order hnone hid
    have hpc : (machineAt cpu k).cpu.pc = s.engine.idStage.reg.pc := by
      rw [← h.view]
      exact resumePc_of_id hnone hid
    have hrun : running (machineAt cpu k).cpu = true := by
      rw [← h.view, running_view, resumePc_of_id hnone hid]
      exact decide_eq_true (h.order.id hid).1.inside
    rw [h.view] at hfirst
    rw [inFlight, hfirst, List.append_assoc, List.prefix_append_right_inj]
    cases hif : s.engine.ifStage.reg.valid with
    | false =>
      rw [held_of_empty hif]
      exact List.nil_prefix
    | true =>
      have hfrom := (h.order.ifs hif).1
      have hnext := (h.order.id hid).2
      rw [hif, if_pos rfl] at hnext
      rw [held_of_valid hif, hfrom.raw]
      cases htarget : calculateBranchTarget (sequentialInstruction (machineAt cpu k).cpu) with
      | some a =>
        rw [Option.isSome_some, if_pos rfl, hnext, wrongPath, if_pos hfrom.inside]
        exact (List.prefix_append [_] _).trans (List.prefix_append _ _)
      | none =>
        have hpc' : (machineAt cpu (k + 1)).cpu.pc = s.engine.ifStage.reg.pc := by
          rw [machineAt_succ, step_pc hrun, htarget, Option.getD_none, hpc, hnext]
        have hsame : SameProgram s.cpu (machineAt cpu (k + 1)).cpu := by
          rw [machineAt_succ, ← h.view]
          exact (((extends_drained s).trans (extends_setPc _ _)).trans (extends_step _)).program
        have hrun' : running (machineAt cpu (k + 1)).cpu = true := by
          rw [running, hpc', hsame.count]
          exact decide_eq_true hfrom.inside
        rw [stepFetches, if_pos hrun', hpc', memoryFetchInstruction_congr hsame.memory]
        exact List.prefix_append [_] _

/-- Whatever was fetched so far is the beginning of the log. -/
lemma Logged.fetched_le {k : ℕ} {s : Simulation} (h : Logged cpu k s) :
    s.trace.fetched <+: fetchLog cpu (k + 2) := by
  obtain ⟨done, hfetched, hlog⟩ := h.fetched
  have hsteps : fetchLog cpu (k + 2) = done ++ (flushable cpu s.engine ++
      (stepFetches (machineAt cpu k).cpu ++ stepFetches (machineAt cpu (k + 1)).cpu)) := by
    rw [fetchLog_succ, fetchLog_succ, hlog]
    simp only [List.append_assoc]
  rw [hfetched, hsteps, List.prefix_append_right_inj]
  cases htarget : takenTarget s.engine.exStage with
  | some a =>
    have hex : s.engine.exStage.reg.valid = true := by
      by_contra hempty
      rw [takenTarget_of_empty (by simpa using hempty)] at htarget
      exact absurd htarget (by simp)
    rw [flushable, htarget, Option.isSome_some, if_pos rfl]
    exact (h.inFlight_wrongPath hex).trans (List.prefix_append _ _)
  | none =>
    rw [flushable_of_none htarget, List.nil_append]
    exact h.inFlight_steps htarget

/-- When nothing is left to do, the log is complete. -/
lemma Logged.fetched_of_no_work {k : ℕ} {s : Simulation} (h : Logged cpu k s)
    (hdone : s.hasWork = false) :
    s.trace.fetched = fetchLog cpu k ∧ running (machineAt cpu k).cpu = false := by
  obtain ⟨done, hfetched, hlog⟩ := h.fetched
  have hhalt := (h.toInStep.view_of_no_work hdone).2
  rw [h.view] at hhalt
  simp only [Simulation.hasWork, pipelineHasWork, slotIsEmpty, Bool.or_eq_false_iff,
    Bool.not_not] at hdone
  obtain ⟨⟨⟨⟨⟨-, hif⟩, hid⟩, hex⟩, -⟩, -⟩ := hdone
  rw [flushable_of_none (takenTarget_of_empty hex), List.append_nil] at hlog
  rw [inFlight, held_of_empty hid, held_of_empty hif, List.append_nil, List.append_nil] at hfetched
  exact ⟨hfetched.trans hlog.symm, hhalt⟩

/-! ### The lines about fetches -/

/-- The addresses and words of the fetches that were printed. -/
def fetchedLines (messages : List Message) : List (UInt32 × UInt32) :=
  messages.filterMap fun m =>
    match m with
    | .fetched pc raw _ => some (pc, raw)
    | _ => none

lemma fetchedLines_append (messages messages' : List Message) :
    fetchedLines (messages ++ messages') = fetchedLines messages ++ fetchedLines messages' :=
  List.filterMap_append ..

/-- Lines on other topics are no fetches. -/
lemma fetchedLines_of_topics {messages : List Message} (h : ∀ m ∈ messages, m.topic ≠ .fetch) :
    fetchedLines messages = [] := by
  rw [fetchedLines, List.filterMap_eq_nil_iff]
  intro m hm
  cases m with
  | fetched => exact absurd rfl (h _ hm)
  | _ => rfl

lemma fetchedLines_controlLines (messages : List Message) :
    fetchedLines (controlLines messages) = fetchedLines messages := by
  rw [controlLines, fetchedLines, List.filterMap_filter]
  refine List.filterMap_congr fun m _ => ?_
  cases m <;> rfl

lemma fetchedLines_cycle {s : Simulation} (h : Scheduled s) :
    (simulateCycle s).trace.fetched = s.trace.fetched ++ fetchedLines (cycleOutput s) := by
  have hhazard : ∀ hazard : HazardDecision, fetchedLines (hazardOutput hazard) = [] := by
    intro hazard
    apply fetchedLines_of_topics
    intro m hm hfetch
    exact not_mem_hazardOutput (by simp [hfetch]) hazard hm
  obtain ⟨c, e, t, rfl, hready | hidle⟩ := h.shape
  · have hredirect : fetchedLines (redirectLines e.exStage) = [] := by
      apply fetchedLines_of_topics
      intro m hm hfetch
      exact not_mem_redirectLines (by simp [hfetch]) _ hm
    have hline : fetchedLines [fetchLine c e] = fetchEvents c e := by
      simp only [fetchLine, fetchEvents]
      split_ifs <;> rfl
    have hevents : (simulateCycle ⟨c, none, e, t⟩).trace.fetched =
        t.fetched ++ fetchEvents c e := by
      rcases odd_cycle_cases e with ⟨hv, a, htaken⟩ | hstall | ⟨hstall, hnone⟩
      · rw [odd_cycle_taken hready hv htaken]
      · rw [odd_cycle_stalled hready hstall]
      · rw [odd_cycle_flow hready hstall hnone]
    rw [hevents, ← fetchedLines_controlLines, hready.controlLines, ← List.singleton_append,
      fetchedLines_append, fetchedLines_append, hline, hhazard, hredirect, List.append_nil,
      List.append_nil]
  · rw [← fetchedLines_controlLines, hidle.controlLines, ← List.singleton_append,
      fetchedLines_append, hhazard, even_cycle hidle]
    exact (List.append_nil _).symm

lemma fetchedLines_simulate (n : ℕ) (cpu : CPU) :
    fetchedLines (simulateOutput n cpu none) = (simulate n cpu none).trace.fetched := by
  have hrun : Scheduled (simulate n cpu none) ∧ (simulate n cpu none).trace.fetched =
      fetchedLines ([] ++ simulateOutput n cpu none) := by
    refine boundedLog_invariant
      (P := fun log s => Scheduled s ∧ s.trace.fetched = fetchedLines log) ?_ n
      ⟨scheduled_start cpu, rfl⟩
    rintro log s ⟨hs, hlog⟩ _
    exact ⟨hs.next, by rw [fetchedLines_cycle hs, hlog, fetchedLines_append]⟩
  exact hrun.2.symm

/-- The fetches that are printed are the beginning of the log of the sequential machine: its
instructions in order, each taken branch followed by its wrong path. A run that ends by itself has
printed the whole log. -/
theorem printed_fetches (cpu : CPU) (n : ℕ) :
    (∃ k, fetchedLines (simulateOutput n cpu none) <+: fetchLog cpu k) ∧
    ((simulate n cpu none).hasWork = false → ∀ k, running (machineAt cpu k).cpu = false →
      fetchedLines (simulateOutput n cpu none) = fetchLog cpu k) := by
  obtain ⟨j, hlogged⟩ := logged_simulate cpu n
  rw [fetchedLines_simulate]
  refine ⟨⟨j + 2, hlogged.fetched_le⟩, ?_⟩
  intro hdone k hk
  obtain ⟨hfetched, hj⟩ := hlogged.fetched_of_no_work hdone
  rw [hfetched]
  exact log_eq_of_halted (fun _ hi => stepFetches_of_halted hi) hk hj

end Fillet
