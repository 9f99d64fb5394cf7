import Fillet.Pipeline.Completion
import Fillet.Pipeline.Isolation

/-!
# The state between two cycles

Between two cycles instructions are on their way through EX, MEM and WB. The registers are
nevertheless those of the sequential machine after some number of instructions, the memory is that
after the same number or one more, and whatever is in flight stands for the steps that follow.
-/

namespace Fillet

open BoundedLoop

variable {cpu : CPU} {e : PipelineEngine} {t : Trace} {s : Simulation}

/-- The state once the instruction in WB has completed. -/
def pastWb (s : Simulation) : Sequential :=
  drainWb (history s) s.engine.wbStage

/-- The state once the instructions in WB and MEM have completed. -/
def pastMem (s : Simulation) : Sequential :=
  drainMem (pastWb s) s.engine.memStage

/-- Apart from its program counter a state of the sequential machine after `k` steps. -/
def AtStep (cpu : CPU) (k : ℕ) (m : Sequential) : Prop :=
  m.setPc 0 = (machineAt cpu k).setPc 0

section AtStep

variable {k : ℕ} {m : Sequential}

lemma AtStep.setPc (h : AtStep cpu k m) (w : UInt32) : AtStep cpu k (m.setPc w) := by
  rw [AtStep, Sequential.setPc_setPc]
  exact h

lemma AtStep.registers (h : AtStep cpu k m) :
    m.cpu.registers = (machineAt cpu k).cpu.registers := by
  change (m.setPc 0).cpu.registers = _
  rw [h]
  rfl

lemma AtStep.memory (h : AtStep cpu k m) : m.cpu.memory = (machineAt cpu k).cpu.memory := by
  change (m.setPc 0).cpu.memory = _
  rw [h]
  rfl

lemma AtStep.retired (h : AtStep cpu k m) : m.retired = (machineAt cpu k).retired := by
  rw [← m.setPc_retired 0, h, Sequential.setPc_retired]

lemma AtStep.stores (h : AtStep cpu k m) : m.stores = (machineAt cpu k).stores := by
  rw [← m.setPc_stores 0, h, Sequential.setPc_stores]

end AtStep

lemma atStep_drained {k : ℕ} (h : sequentialView s = machineAt cpu k) :
    AtStep cpu k (drained s) := by
  rw [AtStep, ← h, sequentialView, Sequential.setPc_setPc]

/-- How far a state of the run is at each place of the pipeline, in steps of the sequential
machine. -/
structure Progress (cpu : CPU) (s : Simulation) (a b c d : ℕ) : Prop where
  registers : s.cpu.registers = (machineAt cpu a).cpu.registers
  retired : (history s).retired = (machineAt cpu a).retired
  wb : AtStep cpu b (pastWb s)
  mem : AtStep cpu c (pastMem s)
  view : sequentialView s = machineAt cpu d

lemma AtStep.progress {a b c d : ℕ} (hhistory : AtStep cpu a (history s))
    (hwb : AtStep cpu b (pastWb s)) (hmem : AtStep cpu c (pastMem s))
    (hview : sequentialView s = machineAt cpu d) : Progress cpu s a b c d where
  registers := hhistory.registers
  retired := hhistory.retired
  wb := hwb
  mem := hmem
  view := hview

/-- Draining retires what is behind ID. -/
lemma length_drained (s : Simulation) :
    (drained s).retired.length =
      (history s).retired.length + (pendingCycles s.engine).length := by
  simp only [drained, drainWb, drainMem, drainEx, pendingCycles, ifValid, List.length_append]
  cases s.engine.wbStage.reg.valid <;> cases s.engine.memStage.reg.valid <;>
    cases s.engine.exStage.reg.valid <;> simp [Sequential.writeBack, Sequential.finish]

/-- As long as there is work, the instructions whose results are in the registers are not all of the
program. -/
lemma Progress.running {a b c d : ℕ} (h : Progress cpu s a b c d) (hin : InStep s) (had : a ≤ d)
    (hwork : s.hasWork = true) : running (machineAt cpu a).cpu = true := by
  by_contra hhalted
  rw [Bool.not_eq_true] at hhalted
  have hstays := machineAt_of_halted hhalted had
  rcases hin.hasWork_iff.mp hwork with hpending | hrun
  · have hsame : (drained s).retired = (history s).retired := by
      rw [(atStep_drained h.view).retired, hstays, h.retired]
    have hlength := length_drained s
    rw [hsame] at hlength
    exact hpending (List.length_eq_zero_iff.mp (by omega))
  · rw [h.view, hstays, hhalted] at hrun
    exact Bool.noConfusion hrun

/-! ### The two kinds of cycle -/

/-- What an odd cycle does behind EX: WB completes and EX moves to MEM. -/
lemma FetchReady.moved (h : FetchReady e) (cpu : CPU) (t : Trace) :
    ∃ w, history (simulateCycle ⟨cpu, none, e, t⟩) = (pastWb ⟨cpu, none, e, t⟩).setPc w ∧
      (simulateCycle ⟨cpu, none, e, t⟩).engine.wbStage = vacated e.wbStage ∧
      (simulateCycle ⟨cpu, none, e, t⟩).engine.memStage =
        if e.exStage.reg.valid then setSlot (exResult e.exStage.reg) memCycles
        else e.memStage := by
  rcases odd_cycle_cases e with ⟨hv, a, htaken⟩ | hstall | ⟨hstall, hnone⟩
  · rw [odd_cycle_taken h hv htaken]
    exact ⟨a, history_odd t a rfl rfl rfl, rfl, (if_pos hv).symm⟩
  · obtain ⟨-, ⟨hv, -⟩, -, -⟩ := (stalled_iff e).mp hstall
    rw [odd_cycle_stalled h hstall]
    exact ⟨_, history_odd t (idCpu cpu e).pc rfl rfl rfl, rfl, (if_pos hv).symm⟩
  · rw [odd_cycle_flow h hstall hnone]
    exact ⟨_, history_odd t (idCpu cpu e).pc rfl rfl rfl, rfl, rfl⟩

/-- After an odd cycle WB is empty, and past MEM is what was past EX. -/
lemma FetchReady.places (h : FetchReady e) (cpu : CPU) (t : Trace) :
    ∃ w, pastWb (simulateCycle ⟨cpu, none, e, t⟩) = (pastWb ⟨cpu, none, e, t⟩).setPc w ∧
      history (simulateCycle ⟨cpu, none, e, t⟩) = (pastWb ⟨cpu, none, e, t⟩).setPc w ∧
      pastMem (simulateCycle ⟨cpu, none, e, t⟩) =
        (Fillet.drained ⟨cpu, none, e, t⟩).setPc w := by
  obtain ⟨w, hhistory, hwb, hmem⟩ := h.moved cpu t
  have hwritten : pastWb (simulateCycle ⟨cpu, none, e, t⟩) =
      (pastWb ⟨cpu, none, e, t⟩).setPc w := by
    rw [pastWb, hwb, drainWb_of_empty (vacated_valid _), hhistory]
  have hbefore : Fillet.drained ⟨cpu, none, e, t⟩ =
      drainEx (pastWb ⟨cpu, none, e, t⟩) e.exStage := by
    rw [Fillet.drained, drainMem_of_empty h.mem]
    rfl
  refine ⟨w, hwritten, hhistory, ?_⟩
  rw [pastMem, hwritten, hmem, drainMem_setPc, hbefore]
  split_ifs with hv
  · rw [drainMem_setSlot_exResult]
  · rw [drainMem_of_empty h.mem, drainEx_of_empty (Bool.eq_false_iff.mpr hv)]

/-- After an even cycle MEM is empty, and past WB is what was past MEM. -/
lemma FetchIdle.places (h : FetchIdle e) (cpu : CPU) (t : Trace) :
    pastWb (simulateCycle ⟨cpu, none, e, t⟩) = pastMem ⟨cpu, none, e, t⟩ ∧
      pastMem (simulateCycle ⟨cpu, none, e, t⟩) = pastMem ⟨cpu, none, e, t⟩ := by
  have hwritten : pastWb (simulateCycle ⟨cpu, none, e, t⟩) = pastMem ⟨cpu, none, e, t⟩ := by
    rw [even_cycle h, pastMem, pastWb, pastWb, drainWb_of_empty h.wb]
    cases hmem : e.memStage.reg.valid with
    | true => simp [drainWb, drainMem, hmem, history, memAccessed, ifValid, Sequential.finish]
    | false => simp [drainWb, drainMem, hmem, history, memAccessed, ifValid, h.wb]
  have hmem : (simulateCycle ⟨cpu, none, e, t⟩).engine.memStage = vacated e.memStage := by
    rw [even_cycle h]
  refine ⟨hwritten, ?_⟩
  rw [pastMem, hmem, drainMem_of_empty (vacated_valid _), hwritten]

/-- After an odd cycle every place behind ID is one instruction further. -/
lemma FetchReady.progress (h : FetchReady e) {start : CPU} {a b d d' : ℕ}
    (hp : Progress start ⟨cpu, none, e, t⟩ a b b d)
    (hview : sequentialView (simulateCycle ⟨cpu, none, e, t⟩) = machineAt start d') :
    Progress start (simulateCycle ⟨cpu, none, e, t⟩) b b d d' := by
  obtain ⟨w, hwritten, hhistory, haccessed⟩ := h.places cpu t
  have hwb := hp.wb.setPc w
  have hmem := (atStep_drained hp.view).setPc w
  rw [← hwritten] at hwb
  rw [← haccessed] at hmem
  have hnow : AtStep start b (history (simulateCycle ⟨cpu, none, e, t⟩)) := by
    rwa [hhistory, ← hwritten]
  exact hnow.progress hwb hmem hview

/-- What an odd cycle adds to the steps it adds to the deadline at most six times. -/
lemma InTime.view_next (hin : InTime s) (hwork : s.hasWork = true) {start : CPU} {d : ℕ}
    (hview : sequentialView s = machineAt start d) :
    ∃ d', d ≤ d' ∧ d' ≤ d + 1 ∧ deadline (simulateCycle s) + 6 * d ≤ deadline s + 6 * d' ∧
      sequentialView (simulateCycle s) = machineAt start d' := by
  rcases pipeline_timed_simulation.matched _ hin hwork with ⟨hkept, hdue⟩ | ⟨-, hstep, hdue⟩
  · exact ⟨d, Nat.le_refl d, Nat.le_succ d, Nat.add_le_add_right hdue _, hkept.trans hview⟩
  · refine ⟨d + 1, Nat.le_succ d, Nat.le_refl _, by omega, ?_⟩
    rw [hstep, hview, machineAt_succ]

/-- After an even cycle the memory is one instruction further. -/
lemma FetchIdle.progress (h : FetchIdle e) {start : CPU} {a c d : ℕ}
    (hp : Progress start ⟨cpu, none, e, t⟩ a a c d) :
    Progress start (simulateCycle ⟨cpu, none, e, t⟩) a c c d := by
  obtain ⟨hwritten, haccessed⟩ := h.places cpu t
  have hmem := hp.mem
  refine ⟨?_, ?_, hwritten ▸ hmem, haccessed ▸ hmem, h.view.trans hp.view⟩
  · rw [even_cycle h]
    exact (memAccessed_registers cpu _).trans hp.registers
  · rw [even_cycle h]
    exact hp.retired

/-! ### The run -/

/-- A run in time with at most one instruction at each place behind ID. -/
structure Precise (start : CPU) (s : Simulation) : Prop extends InTime s where
  program : SameProgram start s.cpu
  progress : ∃ a b c d, Progress start s a b c d ∧ (a ≤ b ∧ b ≤ c ∧ c ≤ d) ∧
    (b ≤ a + 1 ∧ c ≤ b + 1 ∧ d ≤ c + 1) ∧ deadline s ≤ 6 * d + 7 ∧
    if s.engine.cycle % 2 = 0 then b = c else a = b

lemma precise_start (cpu : CPU) : Precise cpu (.start cpu none) where
  toInTime := inTime_start cpu
  program := .refl cpu
  progress := ⟨0, 0, 0, 0, ⟨rfl, rfl, rfl, rfl, sequentialView_start cpu⟩, by omega, by omega,
    deadline_start cpu, rfl⟩

lemma Precise.next {start : CPU} (h : Precise start s) (hwork : s.hasWork = true) :
    Precise start (simulateCycle s) where
  toInTime := h.toInTime.next
  program := h.program.trans h.toScheduled.sameProgram
  progress := by
    obtain ⟨a, b, c, d, hp, hle, hnear, hdue, hparity⟩ := h.progress
    obtain ⟨cpu, e, t, rfl, hready | hidle⟩ := h.toScheduled.shape
    · rw [if_pos hready.cycle] at hparity
      subst hparity
      obtain ⟨d', hle', hnear', hdue', hview⟩ := h.toInTime.view_next hwork hp.view
      have hodd := hready.next_odd
      refine ⟨b, b, d, d', hready.progress hp hview, by omega, by omega, by omega, ?_⟩
      rw [simulateCycle_cycle, if_neg (by dsimp only; omega)]
    · have hcycle := hidle.cycle
      rw [if_neg (by dsimp only; omega)] at hparity
      subst hparity
      have htimeline := @FetchIdle.timeline_even cpu e t hidle
      have hkept := (deadline_of_hold hidle.view htimeline.1 fun _ => htimeline.2).2
      refine ⟨a, c, c, d, hidle.progress hp, by omega, by omega, hkept.trans hdue, ?_⟩
      rw [simulateCycle_cycle, if_pos (by dsimp only; omega)]

lemma precise_simulate (n : ℕ) (cpu : CPU) : Precise cpu (simulate n cpu none) :=
  boundedWhile_invariant (fun _ h hwork => h.next hwork) n (precise_start cpu)

/-- The registers are those after `a` instructions, the memory is that after `b`. -/
structure Stopped (start : CPU) (s : Simulation) (a b : ℕ) : Prop where
  registers : s.cpu.registers = (machineAt start a).cpu.registers
  retired : s.trace.retired.map Prod.snd = (machineAt start a).retired
  memory : s.cpu.memory = (machineAt start b).cpu.memory
  stores : s.trace.stores = (machineAt start b).stores

lemma Progress.stopped {start : CPU} {a b c d : ℕ} (h : Progress start s a b c d) :
    Stopped start s a b where
  registers := h.registers
  retired := h.retired
  memory := by
    rw [← h.wb.memory, pastWb, drainWb]
    split_ifs
    · exact (wbResult_memory _ _).symm
    · rfl
  stores := by
    rw [← h.wb.stores, pastWb, drainWb]
    split_ifs <;> rfl

lemma Precise.stopped {start : CPU} (h : Precise start s) :
    ∃ a b, Stopped start s a b ∧ a ≤ b ∧ b ≤ a + 1 ∧ (s.engine.cycle % 2 = 1 → b = a) ∧
      (s.hasWork = true → s.engine.cycle < 6 * a + 19) := by
  obtain ⟨a, b, c, d, hp, hle, hnear, hdue, hparity⟩ := h.progress
  refine ⟨a, b, hp.stopped, hle.1, hnear.1, ?_, ?_⟩
  · intro hodd
    rw [if_neg (by omega)] at hparity
    exact hparity.symm
  · intro hwork
    have hearly := h.toInTime.cycle_lt_deadline hwork
    split_ifs at hparity <;> omega

/-- Wherever the cycle bound stops a run, the registers and what has retired are those of the
sequential machine after some number of instructions, the memory and the stores are those after the
same number or, only behind an even cycle, after one more, and the number grows with the bound. -/
theorem precise_state (cpu : CPU) (options : PipelineSimOptions) :
    let s := pipelineSimRun cpu none options
    ∃ a b, a ≤ b ∧ b ≤ a + 1 ∧ (s.engine.cycle % 2 = 1 → b = a) ∧
      (s.hasWork = true → options.cycleBound < 6 * a + 19) ∧
      s.cpu.registers = (machineAt cpu a).cpu.registers ∧
      s.trace.retired.map Prod.snd = (machineAt cpu a).retired ∧
      s.cpu.memory = (machineAt cpu b).cpu.memory ∧
      s.trace.stores = (machineAt cpu b).stores := by
  intro s
  have hprecise : Precise cpu s := precise_simulate options.cycleBound cpu
  obtain ⟨a, b, hstopped, hle, hnear, hodd, hmany⟩ := hprecise.stopped
  refine ⟨a, b, hle, hnear, hodd, fun hwork => ?_, hstopped.registers, hstopped.retired,
    hstopped.memory, hstopped.stores⟩
  rcases simulate_exit options.cycleBound cpu with hdone | hcycle
  · exact absurd (hwork.symm.trans hdone) (by decide)
  · exact hcycle ▸ hmany hwork

end Fillet
