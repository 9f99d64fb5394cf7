import Fillet.Pipeline.Occupancy

/-!
# A run on another CPU object

`pipeline_sim_run` takes a pointer, but `fetch_into_if` reads the word from the global CPU and
`cpu_set_pc` writes its program counter. With another object than the global CPU this is harmless
only where nothing is fetched: the first fetch overwrites the program counter of the global CPU, and
nothing reads what it was.
-/

namespace Fillet

open BoundedLoop

variable {cpu : CPU} {object : CPU}

/-- A run works on the CPU it is given: it ends there as if the global CPU had been a copy of it and
had been passed, and the global CPU is left alone when it is another one. -/
structure RunsOnTarget (object : Option CPU) (options : PipelineSimOptions) : Prop where
  target : ∀ cpu, (pipelineSimRun cpu object options).target =
    (pipelineSimRun (object.getD cpu) none options).target
  global : object.isSome = true → ∀ cpu, (pipelineSimRun cpu object options).cpu = cpu

/-! ### Runs that do nothing -/

lemma hasWork_start (cpu : CPU) (object : Option CPU) :
    (Simulation.start cpu object).hasWork = running (object.getD cpu) := by
  simp only [Simulation.hasWork, Simulation.start, pipelineHasWork, PipelineEngine.zeroed,
    slotIsEmpty, clearSlot_valid, Bool.not_false, Bool.not_true, Bool.or_false]
  rfl

lemma simulate_of_not_running (cpu : CPU) (object : Option CPU)
    (h : running (object.getD cpu) = false) (n : ℕ) :
    simulate n cpu object = .start cpu object := by
  apply boundedWhile_of_not_guard
  rw [hasWork_start, h]

lemma runsOnTarget_of_not_running (h : running object = false) (options : PipelineSimOptions) :
    RunsOnTarget (some object) options where
  target cpu := by
    rw [pipelineSimRun, pipelineSimRun, simulate_of_not_running cpu (some object) h,
      simulate_of_not_running ((some object).getD cpu) none h]
    rfl
  global _ cpu := by
    rw [pipelineSimRun, simulate_of_not_running cpu (some object) h]
    rfl

/-! ### The first fetch -/

lemma canFetch_first (h : running object = true) :
    canFetchThisCycle object { PipelineEngine.zeroed with cycle := 1 } = true := by
  have hpc : ¬ object.instructionCount.toUInt32 ≤ object.pc := by simpa [running] using h
  simp [canFetchThisCycle, PipelineEngine.zeroed, slotIsEmpty, hpc]

/-- The first fetch overwrites the global program counter without reading it. -/
lemma fetchPhase_first (h : running object = true) (cpu : CPU) (v : UInt32) :
    fetchPhase (beginCycle (.start (cpu.setPc v) (some object))) =
      fetchPhase (beginCycle (.start cpu (some object))) := by
  have hcan : ∀ c, canFetchThisCycle (beginCycle (.start c (some object))).target
      (beginCycle (.start c (some object))).engine = true := fun _ => canFetch_first h
  rw [fetchPhase, fetchPhase, hcan, hcan]
  rfl

lemma simulateCycle_first (h : running object = true) (cpu : CPU) (v : UInt32) :
    simulateCycle (.start (cpu.setPc v) (some object)) =
      simulateCycle (.start cpu (some object)) := by
  simp only [simulateCycle, fetchPhase_first h]
  rfl

/-- So the run does not depend on it. -/
lemma simulate_setPc (h : running object = true) (cpu : CPU) (v : UInt32) (n : ℕ) :
    simulate (n + 1) (cpu.setPc v) (some object) = simulate (n + 1) cpu (some object) := by
  have hwork : ∀ c, (Simulation.start c (some object)).hasWork = true := by
    intro c
    rw [hasWork_start]
    exact h
  rw [simulate, simulate, boundedWhile_succ_of_guard _ (hwork _),
    boundedWhile_succ_of_guard _ (hwork _), simulateCycle_first h]

lemma cycleBound_pos (options : PipelineSimOptions) : 0 < options.cycleBound := by
  simp only [PipelineSimOptions.cycleBound]
  split_ifs
  · omega
  · omega

/-- Whatever the global program counter was, the run leaves the same behind. -/
lemma pipelineSimRun_setPc (h : running object = true) (cpu : CPU) (v : UInt32)
    (options : PipelineSimOptions) :
    pipelineSimRun (cpu.setPc v) (some object) options =
      pipelineSimRun cpu (some object) options := by
  obtain ⟨n, hn⟩ := Nat.exists_eq_succ_of_ne_zero (cycleBound_pos options).ne'
  rw [pipelineSimRun, pipelineSimRun, hn]
  exact simulate_setPc h cpu v n

/-- A run works on the CPU it is given exactly when that is the global CPU, or has nothing to
execute. -/
theorem runs_on_target_iff (object : Option CPU) (options : PipelineSimOptions) :
    RunsOnTarget object options ↔ ∀ other, object = some other → running other = false := by
  constructor
  · rintro h other rfl
    by_contra hrun
    simp only [Bool.not_eq_false] at hrun
    -- two global CPUs that differ in the program counter cannot both be left alone
    have hzero := h.global rfl (cpuReset.setPc 0)
    have hone := h.global rfl (cpuReset.setPc 1)
    rw [pipelineSimRun_setPc hrun] at hzero hone
    have hpc := congrArg CPU.pc (hzero.symm.trans hone)
    exact absurd hpc (by decide)
  · intro h
    cases object with
    | none => exact ⟨fun _ => rfl, fun hsome => absurd hsome (by decide)⟩
    | some other => exact runsOnTarget_of_not_running (h other rfl) options

/-- One cycle on an object with one instruction moves the global program counter. -/
theorem object_run_moves_global_pc :
    ¬ RunsOnTarget (some { cpuReset with instructionCount := 1 }) ⟨true, 1⟩ := by
  intro h
  have hpc := congrArg CPU.pc (h.global rfl cpuReset)
  exact absurd hpc (by decide)

/-! ### The program counter of the object -/

lemma Simulation.setTarget_object_pc (s : Simulation) {target : CPU}
    (h : target.pc = s.target.pc) :
    (s.setTarget target).object.map CPU.pc = s.object.map CPU.pc := by
  simp only [Simulation.setTarget]
  cases hobject : s.object with
  | none => rfl
  | some other =>
    rw [Simulation.target, hobject] at h
    exact congrArg some h

lemma tickSlot_object_pc (s : Simulation) (kind : StageKind) (allow : Bool) :
    (tickSlot s kind allow).object.map CPU.pc = s.object.map CPU.pc := by
  rw [tickSlot]
  dsimp only
  split_ifs
  · rfl
  · rfl
  · cases kind with
    | stageIf => rfl
    | stageId => rfl
    | stageEx =>
      dsimp only [completeExStage]
      split_ifs
      · split <;> rfl
      · rfl
    | stageMem =>
      dsimp only [completeMemStage]
      exact Simulation.setTarget_object_pc _ (memResult_pc _ _)
    | stageWb =>
      dsimp only [completeWbStage]
      exact Simulation.setTarget_object_pc _ (wbResult_pc _ _)

/-- No cycle moves the program counter of an object that is not the global CPU. -/
lemma simulateCycle_object_pc (s : Simulation) :
    (simulateCycle s).object.map CPU.pc = s.object.map CPU.pc := by
  have hfetch : (fetchPhase (beginCycle s)).object = s.object := by
    simp only [fetchPhase]
    split_ifs <;> rfl
  simp only [simulateCycle, frontPhase, backPhase, tickSlot_object_pc, hazardPhase, hfetch]

/-- So a run on such an object fetches the same address over and over. -/
theorem object_run_keeps_pc (cpu object : CPU) (options : PipelineSimOptions) :
    (pipelineSimRun cpu (some object) options).target.pc = object.pc := by
  have hpc : (pipelineSimRun cpu (some object) options).object.map CPU.pc = some object.pc :=
    boundedWhile_invariant (P := fun s : Simulation => s.object.map CPU.pc = some object.pc)
      (fun s h _ => (simulateCycle_object_pc s).trans h) _ rfl
  obtain ⟨other, hother, hsame⟩ := Option.map_eq_some_iff.mp hpc
  rw [Simulation.target, hother]
  exact hsame

end Fillet
