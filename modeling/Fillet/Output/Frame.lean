import Fillet.Output.Accounting
import Fillet.Pipeline.Isolation

/-!
# The frame of a run

The headers of the cycles and the lines at the end. The headers number the cycles without a gap, and
the run reports how it ended: by itself, in the cycle of the last completion, or stopped because the
program had no chance to be through by then.
-/

namespace Fillet

open BoundedLoop

/-- The lines around the cycles. -/
inductive FrameLine where
  | started
  | cycle (number : ℕ)
  | stopped (maxCycles : ℕ)
  | finished (cycles : ℕ)

/-- The frame in what was printed. -/
def frame (messages : List Message) : List FrameLine :=
  messages.filterMap fun m =>
    match m with
    | .startingSimulation => some .started
    | .cycleHeader engine _ _ => some (.cycle engine.cycle)
    | .maxCyclesReached maxCycles => some (.stopped maxCycles)
    | .simulationFinished cycles => some (.finished cycles)
    | _ => none

/-- The frame of a run of so many cycles; `warning` stands before its last line. -/
def runFrame (cycles : ℕ) (warning : List FrameLine) : List FrameLine :=
  .started :: ((List.range' 1 cycles).map .cycle ++ warning ++ [.finished cycles])

@[simp] lemma frame_append (messages messages' : List Message) :
    frame (messages ++ messages') = frame messages ++ frame messages' :=
  List.filterMap_append ..

/-- Lines on other topics are not part of the frame. -/
lemma frame_of_topics {topics : List Topic} {messages : List Message}
    (h : OnTopics topics messages) (htopics : Topic.frame ∉ topics) : frame messages = [] := by
  rw [frame, List.filterMap_eq_nil_iff]
  intro m hm
  have htopic : m.topic ≠ .frame := fun hframe => htopics (hframe ▸ h m hm)
  cases m with
  | startingSimulation | cycleHeader | maxCyclesReached | simulationFinished =>
    exact absurd rfl htopic
  | _ => rfl

lemma frame_cycle (s : Simulation) : frame (cycleOutput s) = [.cycle (s.engine.cycle + 1)] := by
  obtain ⟨rest, houtput, hrest⟩ := topics_cycle s
  rw [houtput, frame_append, frame_of_topics hrest (by simp)]
  rfl

/-- The headers number the cycles. -/
lemma frame_simulate (n : ℕ) (cpu : CPU) (object : Option CPU) :
    frame (simulateOutput n cpu object) =
      (List.range' 1 (simulate n cpu object).engine.cycle).map .cycle := by
  have hrun : frame ([] ++ simulateOutput n cpu object) =
      (List.range' 1 (simulate n cpu object).engine.cycle).map .cycle := by
    refine boundedLog_invariant
      (P := fun log (s : Simulation) =>
        frame log = (List.range' 1 s.engine.cycle).map .cycle) ?_ n rfl
    intro log s hlog _
    rw [frame_append, hlog, frame_cycle, simulateCycle_cycle, List.range'_concat, List.map_append,
      Nat.one_mul, Nat.add_comm 1]
    rfl
  exact hrun

/-- The frame of a run in terms of its last state. -/
lemma frame_run (cpu : CPU) (object : Option CPU) (options : PipelineSimOptions) :
    let s := pipelineSimRun cpu object options
    frame (pipelineSimRunOutput cpu object options) =
      runFrame s.engine.cycle
        (if s.engine.cycle ≥ options.cycleBound && s.hasWork then
          [.stopped options.cycleBound] else []) := by
  have hdump : frame (pipelineDumpFinalState (pipelineSimRun cpu object options).target) = [] :=
    frame_of_topics (topics_dump _) (by simp)
  have hwarning : ∀ b : Bool, frame (if b then [.maxCyclesReached options.cycleBound] else []) =
      if b then [.stopped options.cycleBound] else [] := by
    intro b
    cases b <;> rfl
  simp only [pipelineSimRunOutput, frame_append, frame_simulate, hwarning, hdump, List.append_nil]
  rfl

/-- A run of a loaded program prints the headers of its cycles, numbered from 1. If the program
halts and its last instruction can complete within the bound, the run ends in that cycle without a
warning; in every other case it is stopped at the bound, with a warning. -/
theorem run_frame (filepath : List Char) (content : Option (List Char))
    (options : PipelineSimOptions) :
    let cpu := loadedCpu filepath content
    let Completes := fun k => (∀ i < k, running (machineAt cpu i).cpu = true) ∧
      running (machineAt cpu k).cpu = false ∧ haltCycle cpu k ≤ options.cycleBound
    (∀ k, Completes k →
      frame (pipelineSimRunOutput cpu none options) = runFrame (haltCycle cpu k) []) ∧
    ((¬ ∃ k, Completes k) → frame (pipelineSimRunOutput cpu none options) =
      runFrame options.cycleBound [.stopped options.cycleBound]) := by
  intro cpu Completes
  have hprogram : Formatted cpu := (loaded_parse filepath content).formatted
  rw [frame_run]
  constructor
  · rintro k ⟨hran, hhalt, hbound⟩
    have hdone : (pipelineSimRun cpu none options).hasWork = false :=
      no_work_after_halt hprogram hhalt hbound
    have hcycle : (pipelineSimRun cpu none options).engine.cycle = haltCycle cpu k :=
      simulate_cycle_of_halt hprogram hran hhalt hbound
    rw [hdone, hcycle, Bool.and_false, if_neg Bool.false_ne_true]
  · intro hnever
    have hwork : (pipelineSimRun cpu none options).hasWork = true := by
      by_contra hdone
      rw [Bool.not_eq_true] at hdone
      obtain ⟨k, -, hhalt, -⟩ := simulate_of_no_work hdone
      have hex : ∃ k, running (machineAt cpu k).cpu = false := ⟨k, hhalt⟩
      have hran : ∀ i < Nat.find hex, running (machineAt cpu i).cpu = true :=
        fun i hi => by simpa using Nat.find_min hex hi
      exact hnever ⟨Nat.find hex, hran, Nat.find_spec hex,
        haltCycle_le_of_no_work hprogram hran (Nat.find_spec hex) hdone⟩
    have hcycle : (pipelineSimRun cpu none options).engine.cycle = options.cycleBound := by
      rcases simulate_exit options.cycleBound cpu with hdone | hcycle
      · exact absurd (hdone.symm.trans hwork) Bool.false_ne_true
      · exact hcycle
    rw [hwork, hcycle, Bool.and_true, if_pos (decide_eq_true (Nat.le_refl _))]

end Fillet
