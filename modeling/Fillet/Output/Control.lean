import Fillet.Output.Cycle
import Fillet.Output.Topics
import Fillet.Pipeline.Refinement

/-!
# The control lines

The lines about the fetch, the stalls and the redirected fetches tell how instructions move. In a
cycle they are the line of its fetch, the line of its hazard and the line of a branch that is taken.
From them it follows which of the reasons for not fetching are ever printed.
-/

namespace Fillet

open BoundedLoop

variable {cpu : CPU} {e : PipelineEngine} {t : Trace}

/-- The lines about the fetch, the stalls and the redirected fetches. -/
def controlLines (messages : List Message) : List Message :=
  messages.filter fun m => m.topic = .fetch ∨ m.topic = .hazard ∨ m.topic = .redirect

@[simp] lemma controlLines_append (messages messages' : List Message) :
    controlLines (messages ++ messages') = controlLines messages ++ controlLines messages' :=
  List.filter_append ..

/-- A line is a control line if its topic is one of the three. -/
lemma mem_controlLines {messages : List Message} {m : Message}
    (h : m.topic = .fetch ∨ m.topic = .hazard ∨ m.topic = .redirect) :
    m ∈ controlLines messages ↔ m ∈ messages := by
  simp [controlLines, List.mem_filter, h]

lemma OnTopics.controlLines_eq_nil {topics : List Topic} {messages : List Message}
    (h : OnTopics topics messages)
    (htopics : ∀ topic ∈ topics, topic ≠ .fetch ∧ topic ≠ .hazard ∧ topic ≠ .redirect) :
    controlLines messages = [] := by
  rw [controlLines, List.filter_eq_nil_iff]
  intro m hm
  have hne := htopics _ (h m hm)
  simp [hne]

lemma controlLines_ifValid {slot : StageSlot} {messages : List Message}
    (h : controlLines messages = []) : controlLines (ifValid slot messages) = [] := by
  simp only [ifValid]
  split_ifs
  · exact h
  · rfl

/-! ### The parts of a cycle -/

lemma controlLines_wbLines (cpu : CPU) (e : PipelineEngine) :
    controlLines (wbLines cpu e) = [] :=
  controlLines_ifValid ((topics_wb _).controlLines_eq_nil (by simp))

lemma controlLines_memLines (cpu : CPU) (e : PipelineEngine) :
    controlLines (memLines cpu e) = [] :=
  controlLines_ifValid ((topics_mem _).controlLines_eq_nil (by simp))

lemma controlLines_idLines (cpu : CPU) (e : PipelineEngine) :
    controlLines (idLines cpu e) = [] :=
  controlLines_ifValid ((topics_id _).controlLines_eq_nil (by simp))

lemma controlLines_ifLines (cpu : CPU) (e : PipelineEngine) :
    controlLines (ifLines cpu e) = [] := by
  simp only [ifLines]
  split_ifs <;> rfl

lemma controlLines_headerLine (cpu : CPU) (e : PipelineEngine) :
    controlLines (headerLine cpu e) = [] :=
  rfl

/-- The line of the fetch of an odd cycle. -/
def fetchLine (cpu : CPU) (e : PipelineEngine) : Message :=
  if fetches cpu e then .fetched cpu.pc (memoryFetchInstruction cpu cpu.pc) (cpu.pc + 1)
  else .noFetch (if running cpu then none else some .programEnd)

lemma controlLines_fetchLines (cpu : CPU) (e : PipelineEngine) :
    controlLines (fetchLines cpu e) = [fetchLine cpu e] := by
  simp only [fetchLines, fetchLine]
  split_ifs
  · rw [controlLines_append, (topics_memoryFetch _).controlLines_eq_nil (by simp)]
    rfl
  · rfl
  · rfl

lemma controlLines_hazard (hazard : HazardDecision) :
    controlLines (hazardOutput hazard) = hazardOutput hazard := by
  simp only [hazardOutput]
  split_ifs <;> rfl

/-- The line of a branch that is taken. -/
def redirectLines (slot : StageSlot) : List Message :=
  (takenTarget slot).toList.map .pcUpdated

/-- EX redirects the fetch for the branches that `calculate_branch_target` takes. -/
lemma controlLines_completeEx {s : Simulation} (hdecoded : Decoded s.engine.exStage.reg) :
    controlLines (completeExOutput s) =
      (calculateBranchTarget s.engine.exStage.reg).toList.map .pcUpdated := by
  have hbranch : ∀ oldPc reg, controlLines (branchTargetOutput oldPc reg) = [] :=
    fun _ _ => (topics_branchTarget _ _).controlLines_eq_nil (by simp)
  have hflush : controlLines (flushOutput s.engine) = [] :=
    (topics_flush _).controlLines_eq_nil (by simp)
  have hshift : controlLines (shiftOutput s.engine.exStage.reg) = [] :=
    (topics_shift _).controlLines_eq_nil (by simp)
  simp only [completeExOutput, controlLines_append, hshift]
  rw [calculateBranchTarget_exResult]
  cases htarget : calculateBranchTarget s.engine.exStage.reg with
  | none =>
    split_ifs
    · rw [controlLines_append, hbranch]
      rfl
    · rfl
  | some a =>
    have hcontrol := hdecoded.exResult.branch_or_jump.mpr (by
      rw [exResult_opcode]
      exact calculateBranchTarget_opcode htarget)
    rw [if_pos hcontrol, controlLines_append, hbranch, controlLines_append, hflush]
    rfl

lemma FetchReady.controlLines_exLines (h : FetchReady e) (cpu : CPU) :
    controlLines (exLines cpu e) = redirectLines e.exStage := by
  simp only [exLines, ifValid, redirectLines, takenTarget]
  split_ifs with hv
  · exact controlLines_completeEx (h.decoded.ex hv)
  · rfl

/-! ### Whole cycles -/

/-- The control lines of an odd cycle. -/
theorem FetchReady.controlLines (h : FetchReady e) :
    Fillet.controlLines (Fillet.cycleOutput ⟨cpu, none, e, t⟩) =
      fetchLine cpu e :: (hazardOutput (evaluateIdHazard e) ++ redirectLines e.exStage) := by
  have hfront : Fillet.controlLines (frontOutput (evaluateIdHazard e)
      (backPhase (hazardPhase (Fillet.fetchPhase (beginCycle ⟨cpu, none, e, t⟩))))) = [] := by
    rcases odd_cycle_cases e with ⟨hv, a, htaken⟩ | hstall | ⟨hstall, hnone⟩
    · rw [h.frontOutput_taken hv htaken _ rfl]
      rfl
    · rw [h.frontOutput_stalled hstall rfl, controlLines_ifLines]
    · rw [h.frontOutput_flow hstall hnone rfl, controlLines_append, controlLines_idLines,
        controlLines_ifLines, List.append_nil]
  rw [h.cycleOutput]
  simp only [controlLines_append]
  rw [hfront, controlLines_headerLine, controlLines_fetchLines, controlLines_hazard,
    controlLines_wbLines, h.controlLines_exLines, List.nil_append, List.nil_append,
    List.append_nil, List.append_assoc]
  rfl

/-- The control lines of an even cycle. -/
theorem FetchIdle.controlLines (h : FetchIdle e) :
    Fillet.controlLines (cycleOutput ⟨cpu, none, e, t⟩) =
      .noFetch (some .fetchCadence) :: hazardOutput (evaluateIdHazard e) := by
  rw [even_output h]
  simp only [controlLines_append]
  rw [controlLines_headerLine, controlLines_hazard, controlLines_memLines, List.append_nil]
  rfl

/-! ### Why a cycle does not fetch -/

lemma not_mem_hazardOutput {m : Message} (h : m.topic ≠ .hazard) (hazard : HazardDecision) :
    m ∉ hazardOutput hazard := by
  intro hm
  exact h (List.mem_singleton.mp (topics_hazard hazard m hm))

lemma not_mem_redirectLines {m : Message} (h : m.topic ≠ .redirect) (slot : StageSlot) :
    m ∉ redirectLines slot := by
  intro hm
  obtain ⟨a, -, rfl⟩ := List.mem_map.mp hm
  exact h rfl

/-- An odd cycle without a fetch: the program is at its end, or IF is occupied. -/
lemma FetchReady.mem_noFetch (h : FetchReady e) (reason : Option NoFetchReason) :
    Message.noFetch reason ∈ Fillet.cycleOutput ⟨cpu, none, e, t⟩ ↔
      fetches cpu e = false ∧ reason = if running cpu then none else some .programEnd := by
  rw [← mem_controlLines (Or.inl rfl), h.controlLines, List.mem_cons, List.mem_append]
  have hhazard : Message.noFetch reason ∉ hazardOutput (evaluateIdHazard e) :=
    not_mem_hazardOutput (by simp [Message.topic]) _
  have hredirect : Message.noFetch reason ∉ redirectLines e.exStage :=
    not_mem_redirectLines (by simp [Message.topic]) _
  simp only [hhazard, hredirect, or_self, or_false, fetchLine]
  cases hf : fetches cpu e <;> simp

lemma FetchIdle.mem_noFetch (h : FetchIdle e) (reason : Option NoFetchReason) :
    Message.noFetch reason ∈ Fillet.cycleOutput ⟨cpu, none, e, t⟩ ↔
      reason = some .fetchCadence := by
  rw [← mem_controlLines (Or.inl rfl), h.controlLines, List.mem_cons]
  have hhazard : Message.noFetch reason ∉ hazardOutput (evaluateIdHazard e) :=
    not_mem_hazardOutput (by simp [Message.topic]) _
  simp [hhazard]

/-- The fetch line is about the fetch. -/
lemma fetchLine_topic (cpu : CPU) (e : PipelineEngine) : (fetchLine cpu e).topic = .fetch := by
  simp only [fetchLine]
  split_ifs <;> rfl

/-- A cycle prints a stall when its hazard unit holds ID. -/
lemma Scheduled.mem_stall {s : Simulation} (h : Scheduled s) :
    (∃ m ∈ cycleOutput s, m.topic = .hazard) ↔ (evaluateIdHazard s.engine).stalled = true := by
  have hhazard : ∀ hazard : HazardDecision,
      (∃ m ∈ hazardOutput hazard, m.topic = .hazard) ↔ hazard.stalled = true := by
    intro hazard
    simp only [hazardOutput]
    split_ifs with hstall <;> simp [hstall, Message.topic]
  rw [← hhazard]
  obtain ⟨cpu, e, t, rfl, hready | hidle⟩ := h.shape
  · constructor
    · rintro ⟨m, hm, htopic⟩
      rw [← mem_controlLines (Or.inr (Or.inl htopic)), hready.controlLines, List.mem_cons,
        List.mem_append] at hm
      rcases hm with rfl | hm | hm
      · rw [fetchLine_topic] at htopic
        exact absurd htopic (by decide)
      · exact ⟨m, hm, htopic⟩
      · exact absurd hm (not_mem_redirectLines (by simp [htopic]) _)
    · rintro ⟨m, hm, htopic⟩
      refine ⟨m, ?_, htopic⟩
      rw [← mem_controlLines (Or.inr (Or.inl htopic)), hready.controlLines]
      exact List.mem_cons_of_mem _ (List.mem_append_left _ hm)
  · constructor
    · rintro ⟨m, hm, htopic⟩
      rw [← mem_controlLines (Or.inr (Or.inl htopic)), hidle.controlLines, List.mem_cons] at hm
      rcases hm with rfl | hm
      · exact absurd htopic (by simp [Message.topic])
      · exact ⟨m, hm, htopic⟩
    · rintro ⟨m, hm, htopic⟩
      refine ⟨m, ?_, htopic⟩
      rw [← mem_controlLines (Or.inr (Or.inl htopic)), hidle.controlLines]
      exact List.mem_cons_of_mem _ hm

lemma running_memAccessed (cpu : CPU) (slot : StageSlot) :
    running (memAccessed cpu slot) = running cpu := by
  rw [running, memAccessed_pc, (sameProgram_memAccessed cpu slot).count]
  rfl

/-- An even cycle leaves IF and the fetch where they are. -/
lemma FetchIdle.if_next (h : FetchIdle e) :
    (simulateCycle ⟨cpu, none, e, t⟩).engine.ifStage = e.ifStage ∧
      running (simulateCycle ⟨cpu, none, e, t⟩).cpu = running cpu := by
  rw [even_cycle h]
  exact ⟨rfl, running_memAccessed cpu _⟩

/-- After an odd cycle IF holds an instruction exactly when ID was held, if there is one. -/
lemma FetchReady.if_next (h : FetchReady e)
    (hrun : running (simulateCycle ⟨cpu, none, e, t⟩).cpu = true) :
    (simulateCycle ⟨cpu, none, e, t⟩).engine.ifStage.reg.valid = true ↔
      (evaluateIdHazard e).stalled = true := by
  rcases odd_cycle_cases e with ⟨hv, a, htaken⟩ | hstall | ⟨hstall, hnone⟩
  · have hstall : ¬ (evaluateIdHazard e).stalled = true := by
      intro hstall
      have hnone := takenTarget_of_stalled hstall
      rw [takenTarget, if_pos hv, htaken] at hnone
      exact absurd hnone (by simp)
    rw [odd_cycle_taken h hv htaken]
    simp [hstall]
  · rw [odd_cycle_stalled h hstall] at hrun ⊢
    simp only [hstall, iff_true]
    have hcount : (idCpu cpu e).instructionCount = cpu.instructionCount :=
      (sameProgram_idCpu cpu e).count
    simp only [running, idCpu_pc, hcount, decide_eq_true_eq] at hrun
    by_cases hf : fetches cpu e = true
    · simp [arrivedSlot, hf, fetchedRegister]
    · simp only [arrivedSlot, if_neg hf]
      rw [fetchedCpu, if_neg hf] at hrun
      simpa [fetches, running, hrun] using hf
  · rw [odd_cycle_flow h hstall hnone]
    simp [hstall]

/-- A run that still has instructions to fetch has work. -/
lemma hasWork_of_running {s : Simulation} (h : Scheduled s) (hrun : running s.cpu = true) :
    s.hasWork = true := by
  have hpc : s.cpu.pc < s.cpu.instructionCount.toUInt32 := by simpa [running] using hrun
  simp [Simulation.hasWork, pipelineHasWork, h.target, hpc]

/-- As long as there is something to fetch, every round is a cycle. -/
lemma simulate_succ_of_running {n : ℕ} (hrun : running (simulate (n + 1) cpu none).cpu = true) :
    simulate (n + 1) cpu none = simulateCycle (simulate n cpu none) := by
  have hsucc : simulate (n + 1) cpu none =
      if (simulate n cpu none).hasWork then simulateCycle (simulate n cpu none)
      else simulate n cpu none := boundedWhile_succ' n _
  rw [hsucc] at hrun ⊢
  split_ifs at hrun ⊢ with hwork
  · rfl
  · exact absurd (hasWork_of_running (scheduled_simulate n cpu) hrun) hwork

/-- The shape of a state is told by its cycle. -/
lemma Scheduled.ready {s : Simulation} (h : Scheduled s) (hodd : (s.engine.cycle + 1) % 2 = 1) :
    FetchReady s.engine := by
  rcases h.engine with hready | hidle
  · exact hready
  · have := hidle.cycle
    omega

lemma Scheduled.idle {s : Simulation} (h : Scheduled s) (heven : (s.engine.cycle + 1) % 2 = 0) :
    FetchIdle s.engine := by
  rcases h.engine with hready | hidle
  · have := hready.cycle
    omega
  · exact hidle

/-- Over an odd and an even cycle IF gets occupied exactly when ID is held, if there is more to
fetch. -/
lemma Scheduled.if_two_later {s : Simulation} (h : Scheduled s)
    (hodd : (s.engine.cycle + 1) % 2 = 1)
    (hrun : running (simulateCycle (simulateCycle s)).cpu = true) :
    (simulateCycle (simulateCycle s)).engine.ifStage.reg.valid = true ↔
      (evaluateIdHazard s.engine).stalled = true := by
  have hready := h.ready hodd
  obtain ⟨cpu', e', t', hs', -⟩ := h.next.shape
  have hidle : FetchIdle e' := by
    have hshape := h.next.idle (by rw [simulateCycle_cycle]; omega)
    rwa [hs'] at hshape
  obtain ⟨cpu, e, t, rfl, -⟩ := h.shape
  have hnext : running (simulateCycle ⟨cpu, none, e, t⟩).cpu = true →
      ((simulateCycle ⟨cpu, none, e, t⟩).engine.ifStage.reg.valid = true ↔
        (evaluateIdHazard e).stalled = true) := hready.if_next
  rw [hs'] at hrun hnext ⊢
  rw [hidle.if_next.2] at hrun
  rw [hidle.if_next.1]
  exact hnext hrun

/-- IF is occupied before an odd cycle, with more to fetch, exactly when ID was held two cycles
earlier. -/
lemma if_occupied_iff {n : ℕ} (hodd : ((simulate n cpu none).engine.cycle + 1) % 2 = 1)
    (hrun : running (simulate n cpu none).cpu = true) :
    (simulate n cpu none).engine.ifStage.reg.valid = true ↔
      2 ≤ n ∧ (evaluateIdHazard (simulate (n - 2) cpu none).engine).stalled = true := by
  match n with
  | 0 =>
    simp [simulate, Simulation.start, PipelineEngine.zeroed, clearSlot, PipelineRegister.zeroed]
  | 1 =>
    rw [simulate_succ_of_running hrun, simulateCycle_cycle] at hodd
    have hzero : (simulate 0 cpu none).engine.cycle = 0 := rfl
    omega
  | n + 2 =>
    have hsecond := simulate_succ_of_running hrun
    have hfirst : simulate (n + 1) cpu none = simulateCycle (simulate n cpu none) := by
      apply simulate_succ_of_running
      obtain ⟨cpu', e', t', hs', -⟩ := (scheduled_simulate (n + 1) cpu).shape
      have hidle := (scheduled_simulate (n + 1) cpu).idle (by
        rw [hsecond, simulateCycle_cycle] at hodd
        omega)
      rw [hsecond] at hrun
      rw [hs'] at hrun hidle ⊢
      rwa [hidle.if_next.2] at hrun
    rw [hsecond, hfirst] at hodd hrun ⊢
    rw [(scheduled_simulate n cpu).if_two_later (by
      rw [simulateCycle_cycle, simulateCycle_cycle] at hodd
      omega) hrun]
    simp

/-- Why a cycle does not fetch: the line says so for the cadence and for the end of the program, and
says nothing, with the program counter inside the program, in the second cycle after one in which ID
waited for a load; the other two reasons are never printed. -/
theorem fetch_diagnosis (cpu : CPU) (n : ℕ) (reason : Option NoFetchReason) :
    let s := simulate n cpu none
    let startsOddCycle := (s.engine.cycle + 1) % 2 = 1
    .noFetch reason ∈ cycleOutput s ↔
      match reason with
      | some .fetchCadence => ¬ startsOddCycle
      | some .memoryConflict => False
      | some .takenBranch => False
      | some .programEnd => startsOddCycle ∧ running s.cpu = false
      | none =>
        startsOddCycle ∧ running s.cpu = true ∧ 2 ≤ n ∧
          ∃ m ∈ cycleOutput (simulate (n - 2) cpu none), m.topic = .hazard := by
  intro s startsOddCycle
  have hscheduled : Scheduled s := scheduled_simulate n cpu
  rw [(scheduled_simulate (n - 2) cpu).mem_stall]
  by_cases hodd : startsOddCycle
  · have hready := hscheduled.ready hodd
    have hfetch : ∀ reason, Message.noFetch reason ∈ cycleOutput s ↔
        fetches s.cpu s.engine = false ∧
          reason = if running s.cpu then none else some .programEnd := by
      obtain ⟨c, e, t, hs, -⟩ := hscheduled.shape
      rw [hs] at hready ⊢
      exact fun reason => hready.mem_noFetch reason
    rw [hfetch]
    cases reason with
    | none =>
      cases hrun : running s.cpu with
      | false => simp
      | true =>
        rw [← if_occupied_iff hodd hrun]
        simp [fetches, hrun, hodd, s]
    | some r => cases r <;> cases hrun : running s.cpu <;> simp [fetches, hrun, hodd]
  · have hidle := hscheduled.idle (by
      change ¬ (s.engine.cycle + 1) % 2 = 1 at hodd
      omega)
    have hfetch : ∀ reason, Message.noFetch reason ∈ cycleOutput s ↔
        reason = some .fetchCadence := by
      obtain ⟨c, e, t, hs, -⟩ := hscheduled.shape
      rw [hs] at hidle ⊢
      exact fun reason => hidle.mem_noFetch reason
    rw [hfetch]
    cases reason with
    | none => simp [hodd]
    | some r => cases r <;> simp [hodd]

end Fillet
