import Fillet.Output.Control
import Fillet.Pipeline.Completion

/-!
# Where the cycles go

Every load that is used by the next instruction is answered by two lines about a stall, every taken
branch by one line about the program counter, and nothing else is. With these lines the number of
cycles of a run is accounted for.
-/

namespace Fillet

open BoundedLoop

variable {cpu c : CPU} {e : PipelineEngine} {t : Trace}

/-! ### Counting lines -/

/-- The number of lines on a topic. -/
def linesOn (topic : Topic) (messages : List Message) : ℕ :=
  messages.countP fun m => m.topic = topic

@[simp] lemma linesOn_append (topic : Topic) (messages messages' : List Message) :
    linesOn topic (messages ++ messages') = linesOn topic messages + linesOn topic messages' :=
  List.countP_append ..

lemma linesOn_controlLines {topic : Topic}
    (h : topic = .fetch ∨ topic = .hazard ∨ topic = .redirect) (messages : List Message) :
    linesOn topic (controlLines messages) = linesOn topic messages := by
  rw [linesOn, controlLines, List.countP_filter]
  refine List.countP_congr fun m _ => ?_
  rcases h with rfl | rfl | rfl <;> simp +contextual

lemma linesOn_hazardOutput (hazard : HazardDecision) :
    linesOn .hazard (hazardOutput hazard) = if hazard.stalled then 1 else 0 := by
  simp only [hazardOutput]
  split_ifs <;> rfl

lemma linesOn_redirectLines (slot : StageSlot) :
    linesOn .redirect (redirectLines slot) = if (takenTarget slot).isSome then 1 else 0 := by
  simp only [redirectLines]
  cases takenTarget slot <;> rfl

/-- Messages on other topics do not count. -/
lemma linesOn_eq_zero {topic : Topic} {messages : List Message}
    (h : ∀ m ∈ messages, m.topic ≠ topic) : linesOn topic messages = 0 := by
  rw [linesOn, List.countP_eq_zero]
  exact fun m hm => by simpa using h m hm

lemma FetchReady.linesOn (h : FetchReady e) :
    Fillet.linesOn .hazard (Fillet.cycleOutput ⟨cpu, none, e, t⟩) =
        (if (evaluateIdHazard e).stalled then 1 else 0) ∧
      Fillet.linesOn .redirect (Fillet.cycleOutput ⟨cpu, none, e, t⟩) =
        if (takenTarget e.exStage).isSome then 1 else 0 := by
  have hfetch : ∀ topic, topic ≠ .fetch → Fillet.linesOn topic [fetchLine cpu e] = 0 := by
    intro topic htopic
    apply linesOn_eq_zero
    rw [List.forall_mem_singleton, fetchLine_topic]
    exact htopic.symm
  have hredirect : Fillet.linesOn .hazard (redirectLines e.exStage) = 0 := by
    apply linesOn_eq_zero
    intro m hm hhazard
    exact not_mem_redirectLines (by simp [hhazard]) _ hm
  have hhazard : Fillet.linesOn .redirect (hazardOutput (evaluateIdHazard e)) = 0 := by
    apply linesOn_eq_zero
    intro m hm hredirect
    exact not_mem_hazardOutput (by simp [hredirect]) _ hm
  constructor
  · rw [← linesOn_controlLines (Or.inr (Or.inl rfl)), h.controlLines, ← List.singleton_append,
      linesOn_append, linesOn_append, hfetch _ (by decide), hredirect, linesOn_hazardOutput,
      Nat.zero_add, Nat.add_zero]
  · rw [← linesOn_controlLines (Or.inr (Or.inr rfl)), h.controlLines, ← List.singleton_append,
      linesOn_append, linesOn_append, hfetch _ (by decide), hhazard, linesOn_redirectLines,
      Nat.zero_add, Nat.zero_add]

lemma FetchIdle.linesOn (h : FetchIdle e) :
    Fillet.linesOn .hazard (Fillet.cycleOutput ⟨cpu, none, e, t⟩) =
        (if (evaluateIdHazard e).stalled then 1 else 0) ∧
      Fillet.linesOn .redirect (Fillet.cycleOutput ⟨cpu, none, e, t⟩) = 0 := by
  have hhazard : Fillet.linesOn .redirect (hazardOutput (evaluateIdHazard e)) = 0 := by
    apply linesOn_eq_zero
    intro m hm hredirect
    exact not_mem_hazardOutput (by simp [hredirect]) _ hm
  constructor
  · rw [← linesOn_controlLines (Or.inr (Or.inl rfl)), h.controlLines, ← List.singleton_append,
      linesOn_append, linesOn_hazardOutput]
    exact Nat.zero_add _
  · rw [← linesOn_controlLines (Or.inr (Or.inr rfl)), h.controlLines, ← List.singleton_append,
      linesOn_append, hhazard]
    rfl

/-! ### The lines that are due -/

/-- The stalls a load in EX will still cause. -/
def pendingStalls (e : PipelineEngine) : ℕ :=
  if (evaluateIdHazard e).stalled then 1 + e.cycle % 2 else 0

/-- The branch in EX that will still be taken. -/
def pendingRedirects (e : PipelineEngine) : ℕ :=
  if (takenTarget e.exStage).isSome then 1 else 0

lemma pendingStalls_of_empty_ex (h : e.exStage.reg.valid = false) : pendingStalls e = 0 := by
  rw [pendingStalls, not_stalled_of_empty_ex h]
  rfl

lemma pendingRedirects_of_empty_ex (h : e.exStage.reg.valid = false) : pendingRedirects e = 0 := by
  rw [pendingRedirects, takenTarget_of_empty h]
  rfl

/-- A cycle prints what it takes off the lines that are due. -/
structure Settles (e : PipelineEngine) (messages : List Message) (e' : PipelineEngine) : Prop where
  stalls : linesOn .hazard messages + pendingStalls e' = pendingStalls e
  redirects : linesOn .redirect messages + pendingRedirects e' = pendingRedirects e

lemma FetchIdle.settles (h : FetchIdle e) :
    Settles e (Fillet.cycleOutput ⟨cpu, none, e, t⟩)
      (simulateCycle ⟨cpu, none, e, t⟩).engine := by
  have hodd := h.cycle
  have heven := h.next_even
  constructor
  · rw [h.linesOn.1, even_cycle h]
    simp only [pendingStalls, stalled_counted, hodd, heven]
    split_ifs <;> rfl
  · have htarget : takenTarget (counted e.exStage) = takenTarget e.exStage := by
      simp [takenTarget]
    rw [h.linesOn.2, even_cycle h]
    simp only [pendingRedirects, htarget, Nat.zero_add]

/-- An odd cycle from which EX comes out empty. -/
lemma FetchReady.settles (h : FetchReady e)
    (hex : (simulateCycle ⟨cpu, none, e, t⟩).engine.exStage.reg.valid = false) :
    Settles e (Fillet.cycleOutput ⟨cpu, none, e, t⟩)
      (simulateCycle ⟨cpu, none, e, t⟩).engine := by
  have heven := h.cycle
  constructor
  · rw [h.linesOn.1, pendingStalls_of_empty_ex hex, pendingStalls, heven]
    rfl
  · rw [h.linesOn.2, pendingRedirects_of_empty_ex hex]
    rfl

/-! ### The instruction that enters EX -/

/-- A word without a format is neither a load nor a branch. -/
lemma decoded_of_invalid {reg : PipelineRegister} (hv : reg.valid = true)
    (h : (decodeRawInstruction reg).valid = false) :
    ∃ k, (decodeRawInstruction reg).opcode = .reserved k := by
  rw [decodeRawInstruction_valid, hv, Bool.true_and, decide_eq_false_iff_not] at h
  rw [decodeRawInstruction_opcode]
  cases hop : rawOpcode reg.rawInstruction with
  | reserved k => exact ⟨k, rfl⟩
  | _ => exact absurd (by simp [hop, Opcode.code]) h

/-- EX takes the branch that the sequential machine takes. -/
lemma FetchReady.taken_issue (h : FetchReady e) (horder : FetchedInOrder cpu e)
    (hstall : (evaluateIdHazard e).stalled = false) (hnone : takenTarget e.exStage = none)
    (hid : e.idStage.reg.valid = true) :
    takenTarget (simulateCycle ⟨cpu, none, e, t⟩).engine.exStage =
      calculateBranchTarget (sequentialInstruction (sequentialView ⟨cpu, none, e, t⟩).cpu) := by
  have hex := h.exStage_issue cpu t hstall hnone hid
  rw [sequentialInstruction_view _ horder hnone hid, hex]
  cases hvalid : (decodeRawInstruction e.idStage.reg).valid with
  | false =>
    obtain ⟨k, hop⟩ := decoded_of_invalid hid hvalid
    rw [if_neg (by decide), takenTarget_of_empty (vacated_valid _)]
    simp only [calculateBranchTarget, latchOperands_opcode, hop]
  | true =>
    rw [if_pos rfl, takenTarget, setSlot_reg, latchedId_valid, hvalid, if_pos rfl]
    exact (h.latched_agrees cpu t hstall hvalid (.start cpu)).2

/-- Behind an instruction that is not a taken branch, ID holds the next one, if there is one. -/
lemma FetchReady.id_issue (h : FetchReady e) (horder : FetchedInOrder cpu e)
    (hstall : (evaluateIdHazard e).stalled = false) (hnone : takenTarget e.exStage = none)
    (hid : e.idStage.reg.valid = true)
    (hnext : takenTarget (simulateCycle ⟨cpu, none, e, t⟩).engine.exStage = none) :
    (simulateCycle ⟨cpu, none, e, t⟩).engine.idStage.reg.valid =
      running (sequentialView (simulateCycle ⟨cpu, none, e, t⟩)).cpu := by
  have hcount : (simulateCycle ⟨cpu, none, e, t⟩).cpu.instructionCount =
      cpu.instructionCount := by
    rw [odd_cycle_flow h hstall hnone]
    exact (sameProgram_idCpu cpu e).count
  rw [running_view, h.resumePc_issue t horder hstall hnone hid, hnext, Option.getD_none, hcount,
    odd_cycle_flow h hstall hnone]
  by_cases hinside : e.idStage.reg.pc + 1 < cpu.instructionCount.toUInt32
  · simp [arrived_of_running horder hid hinside, hinside]
  · have harrived : (arrivedSlot cpu e).reg.valid = false := by
      by_contra hv
      have hfrom := (horder.arrived (by simpa using hv)).1
      have hpc := horder.id_next hid
      rw [if_pos (by simpa using hv)] at hpc
      rw [hpc] at hinside
      exact hinside hfrom.inside
    simp [harrived, hinside]

/-- EX holds ID back for the instructions that use the load of the sequential machine. -/
lemma FetchReady.stalled_issue (h : FetchReady e) (horder : FetchedInOrder cpu e)
    (hstall : (evaluateIdHazard e).stalled = false) (hnone : takenTarget e.exStage = none)
    (hid : e.idStage.reg.valid = true) :
    (evaluateIdHazard (simulateCycle ⟨cpu, none, e, t⟩).engine).stalled =
      (running (sequentialView (simulateCycle ⟨cpu, none, e, t⟩)).cpu &&
        loadUse (sequentialInstruction (sequentialView ⟨cpu, none, e, t⟩).cpu)
          (sequentialInstruction (sequentialView (simulateCycle ⟨cpu, none, e, t⟩)).cpu)) := by
  have hex := h.exStage_issue cpu t hstall hnone hid
  have htaken := h.taken_issue (t := t) horder hstall hnone hid
  cases hvalid : (decodeRawInstruction e.idStage.reg).valid with
  | false =>
    obtain ⟨k, hop⟩ := decoded_of_invalid hid hvalid
    rw [hvalid, if_neg (by decide)] at hex
    rw [not_stalled_of_empty_ex (by rw [hex]; exact vacated_valid _),
      sequentialInstruction_view _ horder hnone hid, loadUse_latchOperands]
    simp only [loadUse, hop, reduceCtorEq, decide_false, Bool.false_and, Bool.and_false]
  | true =>
    rw [hvalid, if_pos rfl] at hex
    cases htarget : calculateBranchTarget
        (sequentialInstruction (sequentialView ⟨cpu, none, e, t⟩).cpu) with
    | some a =>
      rw [htarget] at htaken
      rw [loadUse_of_branch htarget, Bool.and_false, ← Bool.not_eq_true]
      intro hstall'
      rw [takenTarget_of_stalled hstall'] at htaken
      exact absurd htaken (by simp)
    | none =>
      rw [htarget] at htaken
      have hnext := h.id_issue horder hstall hnone hid htaken
      cases hrun : running (sequentialView (simulateCycle ⟨cpu, none, e, t⟩)).cpu with
      | false => exact not_stalled_of_empty_id (by rw [hnext, hrun])
      | true =>
        rw [hrun] at hnext
        have hidle : FetchIdle (simulateCycle ⟨cpu, none, e, t⟩).engine := h.idle_next
        have hissued : (simulateCycle ⟨cpu, none, e, t⟩).engine.exStage.reg = latchedId cpu e := by
          rw [hex, setSlot_reg]
        have hr1 := (decoded_latchedId cpu e).r1_range.1
        rw [stalled_iff_loadUse (Or.inr hidle.id) (by rwa [hissued]), hissued, Bool.true_and,
          sequentialInstruction_view _ horder hnone hid,
          sequentialInstruction_view _ (h.fetchedInOrder horder) htaken hnext,
          loadUse_latchOperands, loadUse_latchOperands_right]
        · exact loadUse_latchOperands _ _ _
        · rw [hissued, latchedId_valid, hvalid]
        · exact hnext

/-! ### The run -/

/-- Whether the `i`-th instruction of the sequential run is a load that the next one uses. -/
def loadUseAt (cpu : CPU) (i : ℕ) : Bool :=
  running (machineAt cpu (i + 1)).cpu && loadUse (instructionAt cpu i) (instructionAt cpu (i + 1))

/-- Whether it is a branch that is taken. -/
def takenAt (cpu : CPU) (i : ℕ) : Bool :=
  (calculateBranchTarget (instructionAt cpu i)).isSome

lemma countP_range_succ (p : ℕ → Bool) (k : ℕ) :
    (List.range (k + 1)).countP p = (List.range k).countP p + if p k then 1 else 0 := by
  rw [List.range_succ, List.countP_append, List.countP_singleton]

/-- A register as it leaves ID: a second operand that the instruction does not use may be out of
date. -/
def Latched (reg reg' : PipelineRegister) : Prop :=
  reg = reg' ∨ ignoresOperand2 reg'.opcode = true ∧ ∃ v, reg = { reg' with operand2 := v }

section Issue

variable {k : ℕ}

/-- ID holds the next instruction of the sequential machine. -/
lemma running_machineAt_of_id (horder : FetchedInOrder c e)
    (hview : sequentialView ⟨c, none, e, t⟩ = machineAt cpu k)
    (hnone : takenTarget e.exStage = none) (hid : e.idStage.reg.valid = true) :
    running (machineAt cpu k).cpu = true := by
  rw [← hview, running_view, resumePc_of_id hnone hid]
  exact decide_eq_true (horder.id hid).1.inside

/-- It reads the registers of the drained state. -/
lemma instructionAt_of_id (horder : FetchedInOrder c e)
    (hview : sequentialView ⟨c, none, e, t⟩ = machineAt cpu k)
    (hnone : takenTarget e.exStage = none) (hid : e.idStage.reg.valid = true) :
    instructionAt cpu k = latchOperands (readRegister (drained ⟨c, none, e, t⟩).cpu)
      (decodeRawInstruction e.idStage.reg) := by
  rw [instructionAt, ← hview]
  exact sequentialInstruction_view _ horder hnone hid

lemma FetchReady.view_machineAt (h : FetchReady e) (horder : FetchedInOrder c e)
    (hview : sequentialView ⟨c, none, e, t⟩ = machineAt cpu k)
    (hstall : (evaluateIdHazard e).stalled = false) (hnone : takenTarget e.exStage = none)
    (hid : e.idStage.reg.valid = true) :
    sequentialView (simulateCycle ⟨c, none, e, t⟩) = machineAt cpu (k + 1) := by
  rw [h.view_issue horder hstall hnone hid, hview, machineAt_succ]

lemma FetchReady.stalled_loadUseAt (h : FetchReady e) (horder : FetchedInOrder c e)
    (hview : sequentialView ⟨c, none, e, t⟩ = machineAt cpu k)
    (hstall : (evaluateIdHazard e).stalled = false) (hnone : takenTarget e.exStage = none)
    (hid : e.idStage.reg.valid = true) :
    (evaluateIdHazard (simulateCycle ⟨c, none, e, t⟩).engine).stalled = loadUseAt cpu k := by
  rw [h.stalled_issue horder hstall hnone hid, h.view_machineAt horder hview hstall hnone hid,
    hview]
  rfl

lemma FetchReady.taken_instructionAt (h : FetchReady e) (horder : FetchedInOrder c e)
    (hview : sequentialView ⟨c, none, e, t⟩ = machineAt cpu k)
    (hstall : (evaluateIdHazard e).stalled = false) (hnone : takenTarget e.exStage = none)
    (hid : e.idStage.reg.valid = true) :
    takenTarget (simulateCycle ⟨c, none, e, t⟩).engine.exStage =
      calculateBranchTarget (instructionAt cpu k) := by
  rw [h.taken_issue horder hstall hnone hid, hview]
  rfl

/-- What leaves ID is the next instruction of the sequential machine. -/
lemma FetchReady.latched_instructionAt (h : FetchReady e) (horder : FetchedInOrder c e)
    (hview : sequentialView ⟨c, none, e, t⟩ = machineAt cpu k)
    (hstall : (evaluateIdHazard e).stalled = false) (hnone : takenTarget e.exStage = none)
    (hid : e.idStage.reg.valid = true) (hvalid : (decodeRawInstruction e.idStage.reg).valid = true) :
    Latched (latchedId c e) (instructionAt cpu k) := by
  rw [instructionAt_of_id horder hview hnone hid]
  rcases latchOperands_congr hvalid
    (@forwarded_operand_current c e t h hstall 0 (Or.inl rfl))
    (fun r hr => forwarded_operand_current h hstall (Or.inr hr)) with hsame | ⟨hop, hsame⟩
  · exact Or.inl hsame
  · refine Or.inr ⟨?_, _, hsame⟩
    rwa [latchOperands_opcode]

/-- In an odd cycle either an instruction leaves ID, or nothing enters EX and the view stays. -/
lemma FetchReady.issue_cases (h : FetchReady e) (c : CPU) (t : Trace) :
    ((evaluateIdHazard e).stalled = false ∧ takenTarget e.exStage = none ∧
        e.idStage.reg.valid = true) ∨
      ¬ ((evaluateIdHazard e).stalled = false ∧ takenTarget e.exStage = none ∧
        e.idStage.reg.valid = true) ∧
      sequentialView (simulateCycle ⟨c, none, e, t⟩) = sequentialView ⟨c, none, e, t⟩ ∧
      (simulateCycle ⟨c, none, e, t⟩).engine.exStage.reg.valid = false := by
  rcases odd_cycle_cases e with ⟨hv, a, htaken⟩ | hstall | ⟨hstall, hnone⟩
  · refine Or.inr ⟨?_, h.view_taken hv htaken, ?_⟩
    · rintro ⟨-, hnone, -⟩
      rw [takenTarget, if_pos hv, htaken] at hnone
      exact absurd hnone (Option.some_ne_none a)
    · rw [odd_cycle_taken h hv htaken]
      rfl
  · refine Or.inr ⟨?_, h.view_stalled hstall, ?_⟩
    · exact fun hissue => absurd (hstall.symm.trans hissue.1) (by decide)
    · rw [odd_cycle_stalled h hstall]
      rfl
  · cases hid : e.idStage.reg.valid with
    | true => exact Or.inl ⟨hstall, hnone, rfl⟩
    | false =>
      refine Or.inr ⟨fun hissue => Bool.false_ne_true hissue.2.2,
        h.view_bubble hstall hnone hid, ?_⟩
      rw [odd_cycle_flow h hstall hnone]
      simp [hid]

end Issue

/-- A run from `cpu` in which `k` instructions have left ID: what has been printed and what is still
due are two stalls for each load that is used at once and a redirection for each taken branch. -/
structure Accounted (cpu : CPU) (k : ℕ) (messages : List Message) (s : Simulation) : Prop
    extends InStep s where
  view : sequentialView s = machineAt cpu k
  ran : ∀ i < k, running (machineAt cpu i).cpu = true
  stalls : linesOn .hazard messages + pendingStalls s.engine =
    2 * (List.range k).countP (loadUseAt cpu)
  redirects : linesOn .redirect messages + pendingRedirects s.engine =
    (List.range k).countP (takenAt cpu)

lemma accounted_start (cpu : CPU) : Accounted cpu 0 [] (.start cpu none) where
  toInStep := inStep_start cpu
  view := sequentialView_start cpu
  ran i hi := absurd hi (Nat.not_lt_zero i)
  stalls := rfl
  redirects := rfl

/-- A cycle in which nothing leaves ID. -/
lemma Accounted.hold {k : ℕ} {messages : List Message} {s : Simulation}
    (h : Accounted cpu k messages s)
    (hview : sequentialView (simulateCycle s) = sequentialView s)
    (hsettles : Settles s.engine (cycleOutput s) (simulateCycle s).engine) :
    Accounted cpu k (messages ++ cycleOutput s) (simulateCycle s) where
  toInStep := h.toInStep.next
  view := hview.trans h.view
  ran := h.ran
  stalls := by
    rw [linesOn_append, Nat.add_assoc, hsettles.stalls, h.stalls]
  redirects := by
    rw [linesOn_append, Nat.add_assoc, hsettles.redirects, h.redirects]

/-- A cycle in which an instruction leaves ID. -/
lemma Accounted.issue {k : ℕ} {messages : List Message} (h : Accounted cpu k messages
    ⟨c, none, e, t⟩) (hready : FetchReady e) (hstall : (evaluateIdHazard e).stalled = false)
    (hnone : takenTarget e.exStage = none) (hid : e.idStage.reg.valid = true) :
    Accounted cpu (k + 1) (messages ++ cycleOutput ⟨c, none, e, t⟩)
      (simulateCycle ⟨c, none, e, t⟩) := by
  have hview := hready.view_machineAt h.order h.view hstall hnone hid
  have hrun := running_machineAt_of_id h.order h.view hnone hid
  have hodd : (simulateCycle ⟨c, none, e, t⟩).engine.cycle % 2 = 1 := by
    rw [simulateCycle_cycle]
    exact hready.next_odd
  have hstalls := hready.stalled_loadUseAt h.order h.view hstall hnone hid
  have htaken := hready.taken_instructionAt h.order h.view hstall hnone hid
  have hnow : pendingStalls e = 0 ∧ pendingRedirects e = 0 := by
    simp [pendingStalls, pendingRedirects, hstall, hnone]
  constructor
  case toInStep => exact h.toInStep.next
  case view => exact hview
  case ran => exact fun i hi => running_of_running_later (Nat.le_of_lt_succ hi) hrun
  case stalls =>
    have hold := h.stalls
    dsimp only at hold
    rw [hnow.1, Nat.add_zero] at hold
    rw [linesOn_append, hready.linesOn.1, hstall, hold, pendingStalls, hstalls, hodd,
      countP_range_succ]
    cases loadUseAt cpu k
    · simp
    · simp
      omega
  case redirects =>
    have hold := h.redirects
    dsimp only at hold
    rw [hnow.2, Nat.add_zero] at hold
    rw [linesOn_append, hready.linesOn.2, hnone, hold, pendingRedirects, htaken,
      countP_range_succ, takenAt]
    rfl

lemma Accounted.next {k : ℕ} {messages : List Message} {s : Simulation}
    (h : Accounted cpu k messages s) :
    ∃ k', Accounted cpu k' (messages ++ cycleOutput s) (simulateCycle s) := by
  obtain ⟨c, e, t, rfl, hready | hidle⟩ := h.toScheduled.shape
  · rcases hready.issue_cases c t with ⟨hstall, hnone, hid⟩ | ⟨-, hview, hex⟩
    · exact ⟨k + 1, h.issue hready hstall hnone hid⟩
    · exact ⟨k, h.hold hview (hready.settles hex)⟩
  · exact ⟨k, h.hold hidle.view hidle.settles⟩

lemma accounted_simulate (n : ℕ) (cpu : CPU) :
    ∃ k, Accounted cpu k (simulateOutput n cpu none) (simulate n cpu none) := by
  have hrun : ∃ k, Accounted cpu k
      ([] ++ boundedLog Simulation.hasWork simulateCycle cycleOutput n (.start cpu none))
      (boundedWhile Simulation.hasWork simulateCycle n (.start cpu none)) :=
    boundedLog_invariant (P := fun messages s => ∃ k, Accounted cpu k messages s)
      (fun messages s ⟨_, h⟩ _ => h.next) n ⟨0, accounted_start cpu⟩
  exact hrun

/-- The recurrence, added up. -/
lemma completionCycle_eq {k : ℕ} (hrun : ∀ i ≤ k, running (machineAt cpu i).cpu = true) :
    completionCycle cpu k = 7 + 2 * k + 2 * (List.range k).countP (loadUseAt cpu) +
      4 * (List.range k).countP (takenAt cpu) := by
  induction k with
  | zero => rfl
  | succ k ih =>
    have huse : loadUseAt cpu k = loadUse (instructionAt cpu k) (instructionAt cpu (k + 1)) := by
      rw [loadUseAt, hrun (k + 1) (Nat.le_refl _), Bool.true_and]
    rw [completionCycle, ih fun i hi => hrun i (Nat.le_succ_of_le hi), countP_range_succ,
      countP_range_succ, extraCycles, huse, takenAt]
    split_ifs <;> omega

/-- A loop that ends has not ended before the last completion. -/
lemma haltCycle_le_of_no_work (hprogram : Formatted cpu) {k n : ℕ}
    (hran : ∀ i < k, running (machineAt cpu i).cpu = true)
    (hhalt : running (machineAt cpu k).cpu = false)
    (hdone : (simulate n cpu none).hasWork = false) : haltCycle cpu k ≤ n := by
  by_contra hlt
  have hsame : simulate (haltCycle cpu k) cpu none = simulate n cpu none :=
    boundedWhile_of_exit (Nat.le_of_not_le hlt) hdone
  have hcycle := simulate_cycle_of_halt hprogram hran hhalt (Nat.le_refl _)
  rw [hsame] at hcycle
  exact hlt (hcycle.symm.le.trans (simulate_cycle_le n cpu))

/-- Where the cycles of a run that ends by itself go. For any content of instruction memory, two
lines about a stall are printed for each load that the next instruction uses, and one about the
program counter for each taken branch. If every word has a format, a run of at least one instruction
takes two cycles for each instruction, five more to fill and drain the stages, one for each line
about a stall and four for each redirection, except that nothing waits for a branch that is the last
instruction. -/
theorem cycle_accounting (cpu : CPU) {k n : ℕ}
    (hran : ∀ i < k, running (machineAt cpu i).cpu = true)
    (hhalt : running (machineAt cpu k).cpu = false)
    (hdone : (simulate n cpu none).hasWork = false) :
    let output := simulateOutput n cpu none
    linesOn .hazard output = 2 * (List.range k).countP (loadUseAt cpu) ∧
    linesOn .redirect output = (List.range k).countP (takenAt cpu) ∧
    (Formatted cpu → 0 < k →
      (simulate n cpu none).engine.cycle + (if takenAt cpu (k - 1) then 4 else 0) =
        2 * k + 5 + linesOn .hazard output + 4 * linesOn .redirect output) := by
  intro output
  obtain ⟨j, h⟩ := accounted_simulate n cpu
  obtain ⟨hhistory, hhalted⟩ := h.toInStep.view_of_no_work hdone
  have hex : (simulate n cpu none).engine.exStage.reg.valid = false := by
    simp only [Simulation.hasWork, pipelineHasWork, slotIsEmpty, Bool.or_eq_false_iff,
      Bool.not_not] at hdone
    exact hdone.1.1.2
  have hj : j = k := by
    rw [h.view] at hhalted
    rcases Nat.lt_trichotomy j k with hlt | heq | hgt
    · exact absurd (hran j hlt) (by simp [hhalted])
    · exact heq
    · exact absurd (h.ran k hgt) (by simp [hhalt])
  subst hj
  have hstalls := h.stalls
  have hredirects := h.redirects
  rw [pendingStalls_of_empty_ex hex, Nat.add_zero] at hstalls
  rw [pendingRedirects_of_empty_ex hex, Nat.add_zero] at hredirects
  refine ⟨hstalls, hredirects, ?_⟩
  intro hprogram hpos
  obtain ⟨last, rfl⟩ := Nat.exists_eq_succ_of_ne_zero hpos.ne'
  have huse : loadUseAt cpu last = false := by
    rw [loadUseAt, hhalt, Bool.false_and]
  have hcycle : (simulate n cpu none).engine.cycle = completionCycle cpu last :=
    simulate_cycle_of_halt hprogram hran hhalt
      (haltCycle_le_of_no_work hprogram hran hhalt hdone)
  rw [countP_range_succ, huse, if_neg Bool.false_ne_true, Nat.add_zero] at hstalls
  rw [countP_range_succ] at hredirects
  rw [hcycle, completionCycle_eq fun i hi => hran i (Nat.lt_succ_of_le hi), hstalls, hredirects,
    Nat.succ_sub_one]
  split_ifs <;> omega

theorem cycle_accounting_loadUseProgram :
    linesOn .hazard (simulateOutput 100 loadUseProgram none) = 2 ∧
    linesOn .redirect (simulateOutput 100 loadUseProgram none) = 0 ∧
    (simulate 100 loadUseProgram none).engine.cycle = 2 * 2 + 5 + 2 := by
  obtain ⟨hstalls, hredirects, hcycle⟩ := cycle_accounting loadUseProgram (k := 2) (n := 100)
    (by decide) (by decide) (by decide)
  have huse : (List.range 2).countP (loadUseAt loadUseProgram) = 1 := by decide
  have htaken : (List.range 2).countP (takenAt loadUseProgram) = 0 := by decide
  have hlast : takenAt loadUseProgram (2 - 1) = false := by decide
  have hsum := hcycle formatted_loadUseProgram (by decide)
  rw [hlast, hstalls, hredirects, huse, htaken] at hsum
  exact ⟨hstalls.trans (by rw [huse]), hredirects.trans htaken, hsum⟩

end Fillet
