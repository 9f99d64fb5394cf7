import Fillet.Pipeline.Timing

/-!
# Runs that end

The loop ends exactly when the sequential machine halts, whatever words instruction memory holds,
and then the CPU is in the final state of the sequential machine. While the sequential machine runs,
the deadline of a state is the cycle in which the next instruction would complete, afterwards it is
the last completion that is left.
-/

namespace Fillet

open BoundedLoop

variable {cpu : CPU} {e : PipelineEngine} {t : Trace}

/-! ### The program counter -/

/-- A word without a format is no branch. -/
lemma calculateBranchTarget_of_invalid {reg : PipelineRegister} (hv : reg.valid = true)
    (hinvalid : (decodeRawInstruction reg).valid = false) (read : Int → Int32) :
    calculateBranchTarget (latchOperands read (decodeRawInstruction reg)) = none := by
  rw [decodeRawInstruction_valid, hv, Bool.true_and, decide_eq_false_iff_not] at hinvalid
  cases htarget : calculateBranchTarget (latchOperands read (decodeRawInstruction reg)) with
  | none => rfl
  | some a =>
    have hcode := calculateBranchTarget_opcode htarget
    rw [latchOperands_opcode, decodeRawInstruction_opcode] at hcode
    refine absurd ?_ hinvalid
    rcases hcode with hcode | hcode <;> rw [hcode] <;> decide

lemma sequentialInstruction_pc (cpu : CPU) : (sequentialInstruction cpu).pc = cpu.pc := by
  rw [sequentialInstruction, latchOperands_pc, decodeRawInstruction_pc]
  rfl

/-- The address of the instruction after the next. -/
lemma step_pc {m : Sequential} (hrun : running m.cpu = true) :
    m.step.cpu.pc =
      (calculateBranchTarget (sequentialInstruction m.cpu)).getD (m.cpu.pc + 1) := by
  have hpc := sequentialInstruction_pc m.cpu
  rw [Sequential.step, hrun]
  dsimp only
  cases hvalid : (sequentialInstruction m.cpu).valid with
  | true =>
    rw [← hpc, ← nextPc_exResult]
    rfl
  | false =>
    have hnone : calculateBranchTarget (sequentialInstruction m.cpu) = none := by
      rw [sequentialInstruction, latchOperands_valid] at hvalid
      exact calculateBranchTarget_of_invalid rfl hvalid _
    rw [hnone]
    rfl

/-! ### The deadline -/

/-- The last cycle of a timeline. -/
def lastCycle (cycles : List ℕ) : ℕ :=
  cycles.foldr max 0

lemma le_lastCycle {cycles : List ℕ} {c : ℕ} (h : c ∈ cycles) : c ≤ lastCycle cycles := by
  induction cycles with
  | nil => exact absurd h List.not_mem_nil
  | cons head rest ih =>
    rcases List.mem_cons.mp h with rfl | hrest
    · exact le_max_left _ _
    · exact (ih hrest).trans (le_max_right _ _)

lemma lastCycle_le {cycles : List ℕ} {bound : ℕ} (h : ∀ c ∈ cycles, c ≤ bound) :
    lastCycle cycles ≤ bound := by
  induction cycles with
  | nil => exact Nat.zero_le bound
  | cons head rest ih =>
    exact max_le (h head List.mem_cons_self) (ih fun c hc => h c (List.mem_cons_of_mem _ hc))

/-- The cycle before which something has to happen if the loop is to go on. -/
def deadline (s : Simulation) : ℕ :=
  if running (sequentialView s).cpu then dueCycle s.engine else lastCycle (timeline s)

/-- A run in step whose retirements lie in the past. -/
structure InTime (s : Simulation) : Prop extends InStep s where
  past : ∀ c ∈ s.trace.retired.map Prod.fst, c ≤ s.engine.cycle

lemma inTime_start (cpu : CPU) : InTime (.start cpu none) where
  toInStep := inStep_start cpu
  past _ hc := absurd hc List.not_mem_nil

lemma InTime.next {s : Simulation} (h : InTime s) : InTime (simulateCycle s) where
  toInStep := h.toInStep.next
  past := h.past_next h.past

/-- Nothing that has left ID completes later than four cycles from now. -/
lemma InTime.timeline_le {s : Simulation} (h : InTime s) :
    ∀ c ∈ timeline s, c ≤ s.engine.cycle + 4 := by
  intro c hc
  rcases List.mem_append.mp hc with hretired | hpending
  · exact (h.past c hretired).trans (Nat.le_add_right _ _)
  · rcases mem_pendingCycles hpending with rfl | rfl | ⟨rfl, -⟩ <;> omega

lemma issueDelay_le (e : PipelineEngine) : issueDelay e ≤ 5 + e.cycle % 2 := by
  simp only [issueDelay]
  split_ifs <;> omega

/-! ### Cycles and the deadline -/

/-- A cycle that leaves the view and the timeline alone does not move the deadline. -/
lemma deadline_of_hold {s s' : Simulation} (hview : sequentialView s' = sequentialView s)
    (htimeline : timeline s' = timeline s)
    (hdue : running (sequentialView s).cpu = true → dueCycle s'.engine = dueCycle s.engine) :
    sequentialView s' = sequentialView s ∧ deadline s' ≤ deadline s := by
  refine ⟨hview, ?_⟩
  simp only [deadline, hview, htimeline]
  split_ifs with hrun
  · exact (hdue hrun).le
  · exact Nat.le_refl _

/-- The timeline grows by the instruction that leaves ID, if it has a format. -/
lemma FetchReady.timeline_issue_subset (h : FetchReady e)
    (hstall : (evaluateIdHazard e).stalled = false) (hnone : takenTarget e.exStage = none)
    (hid : e.idStage.reg.valid = true) :
    ∀ c ∈ timeline (simulateCycle ⟨cpu, none, e, t⟩),
      c ∈ timeline ⟨cpu, none, e, t⟩ ∨ c = dueCycle e := by
  intro c hc
  have hodd : timeline (simulateCycle ⟨cpu, none, e, t⟩) = timeline ⟨cpu, none, e, t⟩ ++
      ifValid (simulateCycle ⟨cpu, none, e, t⟩).engine.exStage [e.cycle + 5] := by
    rw [odd_cycle_flow h hstall hnone]
    exact h.timeline_odd cpu t rfl rfl rfl rfl
  rw [hodd] at hc
  rcases List.mem_append.mp hc with hold | hnew
  · exact Or.inl hold
  · rw [h.dueCycle_of_id hstall hnone hid]
    exact Or.inr (mem_ifValid_singleton hnew)

/-- An instruction that leaves ID moves the deadline by at most six cycles. -/
lemma FetchReady.deadline_issue (h : FetchReady e) (hin : InTime ⟨cpu, none, e, t⟩)
    (hstall : (evaluateIdHazard e).stalled = false) (hnone : takenTarget e.exStage = none)
    (hid : e.idStage.reg.valid = true)
    (hrun : running (sequentialView ⟨cpu, none, e, t⟩).cpu = true) :
    deadline (simulateCycle ⟨cpu, none, e, t⟩) ≤ deadline ⟨cpu, none, e, t⟩ + 6 := by
  have hdue : dueCycle e = e.cycle + 5 := h.dueCycle_of_id hstall hnone hid
  have hnow : deadline ⟨cpu, none, e, t⟩ = e.cycle + 5 := by rw [deadline, if_pos hrun, hdue]
  have hcycle := simulateCycle_cycle ⟨cpu, none, e, t⟩
  rw [hnow, deadline]
  split_ifs
  · have hdelay := issueDelay_le (simulateCycle ⟨cpu, none, e, t⟩).engine
    rw [dueCycle]
    dsimp only at hcycle
    omega
  · apply lastCycle_le
    intro c hc
    rcases h.timeline_issue_subset hstall hnone hid c hc with hold | rfl
    · exact (hin.timeline_le c hold).trans (by dsimp only; omega)
    · omega

lemma FetchReady.deadline_next (h : FetchReady e) (hin : InTime ⟨cpu, none, e, t⟩) :
    sequentialView (simulateCycle ⟨cpu, none, e, t⟩) = sequentialView ⟨cpu, none, e, t⟩ ∧
        deadline (simulateCycle ⟨cpu, none, e, t⟩) ≤ deadline ⟨cpu, none, e, t⟩ ∨
      running (sequentialView ⟨cpu, none, e, t⟩).cpu = true ∧
        sequentialView (simulateCycle ⟨cpu, none, e, t⟩) =
          (sequentialView ⟨cpu, none, e, t⟩).step ∧
        deadline (simulateCycle ⟨cpu, none, e, t⟩) ≤ deadline ⟨cpu, none, e, t⟩ + 6 := by
  rcases odd_cycle_cases e with ⟨hv, a, htaken⟩ | hstall | ⟨hstall, hnone⟩
  · exact Or.inl (deadline_of_hold (h.view_taken hv htaken) (h.timeline_taken hv htaken).1
      fun _ => (h.timeline_taken hv htaken).2)
  · exact Or.inl (deadline_of_hold (h.view_stalled hstall) (h.timeline_stalled hstall).1
      fun _ => (h.timeline_stalled hstall).2)
  · cases hid : e.idStage.reg.valid with
    | false =>
      exact Or.inl (deadline_of_hold (h.view_bubble hstall hnone hid)
        (h.timeline_bubble hstall hnone hid).1 (h.timeline_bubble hstall hnone hid).2)
    | true =>
      have hrun : running (sequentialView ⟨cpu, none, e, t⟩).cpu = true := by
        rw [running_view, resumePc_of_id hnone hid]
        exact decide_eq_true (hin.order.id hid).1.inside
      exact Or.inr ⟨hrun, h.view_issue hin.order hstall hnone hid,
        h.deadline_issue hin hstall hnone hid hrun⟩

/-- The loop only goes on before the deadline. -/
lemma InTime.cycle_lt_deadline {s : Simulation} (h : InTime s) (hwork : s.hasWork = true) :
    s.engine.cycle < deadline s := by
  rw [deadline]
  split_ifs with hrun
  · exact cycle_lt_dueCycle _
  · rcases h.toInStep.hasWork_iff.mp hwork with hpending | hrun'
    · obtain ⟨c, hc⟩ := List.exists_mem_of_ne_nil _ hpending
      exact (cycle_lt_of_mem_pendingCycles hc).trans_le
        (le_lastCycle (List.mem_append_right _ hc))
    · exact absurd hrun' hrun

/-- The loop simulates the sequential machine and never waits longer than six cycles for the next
instruction. -/
theorem pipeline_timed_simulation :
    TimedSimulation InTime Simulation.hasWork simulateCycle (fun m => running m.cpu)
      Sequential.step sequentialView (fun s => s.engine.cycle) deadline 6 where
  preserves _ h _ := h.next
  matched s h _ := by
    obtain ⟨cpu, e, t, rfl, hready | hidle⟩ := h.toScheduled.shape
    · exact hready.deadline_next h
    · exact Or.inl (deadline_of_hold hidle.view hidle.timeline_even.1
        fun _ => hidle.timeline_even.2)
  early _ h hwork := h.cycle_lt_deadline hwork
  counts := simulateCycle_cycle

lemma deadline_start (cpu : CPU) : deadline (.start cpu none) ≤ 7 := by
  rw [deadline]
  split_ifs
  · rw [dueCycle, issueDelay_of_empty (takenTarget_of_empty rfl) rfl]
    rfl
  · exact Nat.zero_le 7

/-! ### What is left when the loop ends -/

/-- Without work nothing is left in the pipeline: the view is the state itself. -/
lemma InStep.view_of_no_work {s : Simulation} (h : InStep s) (hdone : s.hasWork = false) :
    sequentialView s = history s ∧ running (sequentialView s).cpu = false := by
  have hhalted : running (sequentialView s).cpu = false := by
    rw [← Bool.not_eq_true]
    intro hrun
    rw [h.hasWork_iff.mpr (Or.inr hrun)] at hdone
    exact absurd hdone Bool.noConfusion
  refine ⟨?_, hhalted⟩
  simp only [Simulation.hasWork, pipelineHasWork, slotIsEmpty, Bool.or_eq_false_iff,
    Bool.not_not] at hdone
  obtain ⟨⟨⟨⟨⟨-, hif⟩, hid⟩, hex⟩, hmem⟩, hwb⟩ := hdone
  rw [sequentialView, drained, drainWb_of_empty hwb, drainMem_of_empty hmem, drainEx_of_empty hex,
    resumePc_of_empty (takenTarget_of_empty hex) hid hif]
  rfl

/-- A run that has ended has done everything the sequential machine does, and nothing else. -/
lemma simulate_of_no_work {cpu : CPU} {n : ℕ} (hdone : (simulate n cpu none).hasWork = false) :
    ∃ k ≤ n, running (machineAt cpu k).cpu = false ∧
      history (simulate n cpu none) = machineAt cpu k := by
  obtain ⟨k, hk, hview, -, -⟩ := pipeline_timed_simulation.run n (inTime_start cpu)
  have hinv : InTime (simulate n cpu none) :=
    boundedWhile_invariant (fun _ h _ => h.next) n (inTime_start cpu)
  obtain ⟨hhistory, hhalted⟩ := hinv.toInStep.view_of_no_work hdone
  change sequentialView (simulate n cpu none) = _ at hview
  rw [sequentialView_start] at hview
  rw [hview] at hhalted hhistory
  exact ⟨k, hk, hhalted, hhistory.symm⟩

/-- A machine that has halted does not change any more. -/
lemma machineAt_of_halted {k j : ℕ} (hhalt : running (machineAt cpu k).cpu = false)
    (hkj : k ≤ j) : machineAt cpu j = machineAt cpu k := by
  induction hkj with
  | refl => rfl
  | step _ ih =>
    rw [machineAt_succ, ih, Sequential.step]
    simp [hhalt]

lemma machineAt_eq_of_halted {k j : ℕ} (hk : running (machineAt cpu k).cpu = false)
    (hj : running (machineAt cpu j).cpu = false) : machineAt cpu j = machineAt cpu k := by
  rcases Nat.le_total k j with hkj | hjk
  · exact machineAt_of_halted hk hkj
  · exact (machineAt_of_halted hj hjk).symm

/-- Six cycles for each instruction, and seven more, are enough. -/
lemma no_work_of_halted {cpu : CPU} {n k : ℕ} (hhalt : running (machineAt cpu k).cpu = false)
    (hn : 6 * k + 7 ≤ n) : (simulate n cpu none).hasWork = false := by
  have hstart := deadline_start cpu
  apply pipeline_timed_simulation.exits (k := k) (inTime_start cpu)
  · rw [sequentialView_start]
    exact hhalt
  · show deadline (.start cpu none) + 6 * k ≤ 0 + n
    omega

/-- The loop can end exactly when the sequential machine halts, and it has ended six cycles for
each instruction and seven more after the start. The CPU, the retired instructions and the stores
are then those of the sequential machine in its final state. -/
theorem pipeline_computes (cpu : CPU) :
    ((∃ n, (simulate n cpu none).hasWork = false) ↔
      ∃ k, running (machineAt cpu k).cpu = false) ∧
    (∀ k, running (machineAt cpu k).cpu = false → ∀ options : PipelineSimOptions,
      6 * k + 7 ≤ options.cycleBound → (pipelineSimRun cpu none options).hasWork = false) ∧
    ∀ k, running (machineAt cpu k).cpu = false → ∀ n, (simulate n cpu none).hasWork = false →
      (simulate n cpu none).cpu = (machineAt cpu k).cpu ∧
      (simulate n cpu none).trace.retired.map Prod.snd = (machineAt cpu k).retired ∧
      (simulate n cpu none).trace.stores = (machineAt cpu k).stores := by
  refine ⟨⟨?_, ?_⟩, ?_, ?_⟩
  · rintro ⟨n, hdone⟩
    obtain ⟨k, -, hhalt, -⟩ := simulate_of_no_work hdone
    exact ⟨k, hhalt⟩
  · rintro ⟨k, hhalt⟩
    exact ⟨6 * k + 7, no_work_of_halted hhalt (Nat.le_refl _)⟩
  · exact fun k hhalt options hbound => no_work_of_halted hhalt hbound
  · intro k hhalt n hdone
    obtain ⟨j, -, hj, hhistory⟩ := simulate_of_no_work hdone
    rw [machineAt_eq_of_halted hhalt hj] at hhistory
    rw [← hhistory]
    exact ⟨rfl, rfl, rfl⟩

/-! ### Logs -/

section Logs

variable {γ : Type*} {entry : ℕ → List γ} {emit pending : Simulation → List γ}

/-- A log of the sequential machine ends when the machine halts. -/
lemma log_of_halted (hsilent : ∀ i, running (machineAt cpu i).cpu = false → entry i = [])
    {k j : ℕ} (hhalt : running (machineAt cpu k).cpu = false) (hkj : k ≤ j) :
    (List.range j).flatMap entry = (List.range k).flatMap entry := by
  refine log_of_silent (fun i hi => hsilent i ?_) hkj
  rw [machineAt_of_halted hhalt hi, hhalt]

lemma log_eq_of_halted (hsilent : ∀ i, running (machineAt cpu i).cpu = false → entry i = [])
    {k j : ℕ} (hk : running (machineAt cpu k).cpu = false)
    (hj : running (machineAt cpu j).cpu = false) :
    (List.range j).flatMap entry = (List.range k).flatMap entry := by
  rcases Nat.le_total k j with hkj | hjk
  · exact log_of_halted hsilent hk hkj
  · exact (log_of_halted hsilent hj hjk).symm

/-- What is printed along with the steps of the sequential machine is the beginning of its log, and
the whole log when the run has ended by itself. -/
theorem printed_along
    (sim : PrintingSimulation InStep Simulation.hasWork simulateCycle emit sequentialView
      (machineAt cpu) pending entry)
    (hempty : ∀ s : Simulation, s.engine.exStage.reg.valid = false →
      s.engine.memStage.reg.valid = false → s.engine.wbStage.reg.valid = false → pending s = [])
    (hsilent : ∀ i, running (machineAt cpu i).cpu = false → entry i = []) (n : ℕ) :
    let printed := boundedLog Simulation.hasWork simulateCycle emit n (.start cpu none)
    (∃ k, printed <+: (List.range k).flatMap entry) ∧
    ((simulate n cpu none).hasWork = false → ∀ k, running (machineAt cpu k).cpu = false →
      printed = (List.range k).flatMap entry) := by
  obtain ⟨j, hinv, hview, hlog⟩ := sim.run n (inStep_start cpu) (sequentialView_start cpu)
  rw [hempty (.start cpu none) rfl rfl rfl, List.nil_append] at hlog
  refine ⟨⟨j, ⟨_, hlog⟩⟩, ?_⟩
  intro hdone k hk
  obtain ⟨-, hhalted⟩ := hinv.view_of_no_work hdone
  rw [hview] at hhalted
  simp only [simulate, Simulation.hasWork, pipelineHasWork, slotIsEmpty, Bool.or_eq_false_iff,
    Bool.not_not] at hdone
  obtain ⟨⟨⟨-, hex⟩, hmem⟩, hwb⟩ := hdone
  rw [hempty _ hex hmem hwb, List.append_nil] at hlog
  exact hlog.trans (log_eq_of_halted hsilent hk hhalted)

end Logs

end Fillet
