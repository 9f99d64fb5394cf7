import Fillet.Pipeline.Cycle

/-!
# Occupancy of the stages

The two shapes of the engine alternate: an odd cycle takes `FetchReady` to `FetchIdle`, an even
cycle takes it back. A run that starts from empty stages therefore has one of the two shapes before
each of its cycles, and everything known about the parity of cycles follows from that.
-/

namespace Fillet

open BoundedLoop

variable {cpu : CPU} {e : PipelineEngine} {t : Trace}

/-! ### From one shape to the other -/

lemma fetchReady_zeroed : FetchReady .zeroed where
  cycle := rfl
  wait := rfl
  mem := rfl
  wb h := absurd h (by decide)
  ex h := absurd h (by decide)
  id h := absurd h (by decide)
  ifs h := absurd h (by decide)
  decoded := ⟨fun h => absurd h (by decide), fun h => absurd h (by decide),
    fun h => absurd h (by decide)⟩

/-- The three kinds of odd cycle. -/
lemma odd_cycle_cases (e : PipelineEngine) :
    (e.exStage.reg.valid = true ∧ ∃ a, calculateBranchTarget e.exStage.reg = some a) ∨
    (evaluateIdHazard e).stalled = true ∨
    ((evaluateIdHazard e).stalled = false ∧ takenTarget e.exStage = none) := by
  cases htaken : takenTarget e.exStage with
  | some a =>
    left
    simp only [takenTarget] at htaken
    split_ifs at htaken with hv
    exact ⟨hv, a, htaken⟩
  | none =>
    right
    cases hstall : (evaluateIdHazard e).stalled
    · exact Or.inr ⟨rfl, rfl⟩
    · exact Or.inl rfl

lemma pending_setSlot {reg : PipelineRegister} (n : Int) : Pending (setSlot reg n) n :=
  fun _ => ⟨rfl, rfl⟩

lemma pending_of_empty {slot : StageSlot} (h : slot.reg.valid = false) (n : Int) :
    Pending slot n :=
  fun hv => absurd hv (by simp [h])

lemma takenTarget_setSlot_exResult (reg : PipelineRegister) (n : Int) :
    takenTarget (setSlot (exResult reg) n) =
      if reg.valid then calculateBranchTarget reg else none := by
  simp [takenTarget, calculateBranchTarget_exResult]

lemma FetchReady.idle_taken (h : FetchReady e) (hv : e.exStage.reg.valid = true) {a : UInt32}
    (htaken : calculateBranchTarget e.exStage.reg = some a) :
    FetchIdle (simulateCycle ⟨cpu, none, e, t⟩).engine := by
  rw [odd_cycle_taken h hv htaken]
  constructor
  case cycle => exact h.next_odd
  case wait => simp [takenTarget_setSlot_exResult, hv, htaken]
  case held => exact fun _ => ⟨rfl, rfl, rfl⟩
  case wb => exact vacated_valid _
  case mem => exact pending_setSlot _
  case ex => exact pending_of_empty rfl _
  case id => exact pending_of_empty rfl _
  case ifs => exact fun hif => absurd hif (by simp)
  case decoded =>
    exact ⟨fun hex => absurd hex (by simp), fun _ => (h.decoded.ex hv).exResult,
      fun hwb => absurd hwb (by simp)⟩

lemma FetchReady.idle_stalled (h : FetchReady e) (hstall : (evaluateIdHazard e).stalled = true) :
    FetchIdle (simulateCycle ⟨cpu, none, e, t⟩).engine := by
  rw [odd_cycle_stalled h hstall]
  obtain ⟨⟨hid, -⟩, ⟨hex, hop⟩, -, -⟩ := (stalled_iff e).mp hstall
  constructor
  case cycle => exact h.next_odd
  case wait => simp [takenTarget_setSlot_exResult, hex, calculateBranchTarget, hop, h.wait]
  case held => exact fun hwait => absurd hwait (by simp [h.wait])
  case wb => exact vacated_valid _
  case mem => exact pending_setSlot _
  case ex => exact pending_of_empty rfl _
  case id =>
    have hpending := h.id
    rwa [if_pos hstall] at hpending
  case ifs => exact fun hif => ⟨arrivedSlot_completed cpu h hif, hid, rfl⟩
  case decoded =>
    exact ⟨fun hclear => absurd hclear (by simp), fun _ => (h.decoded.ex hex).exResult,
      fun hwb => absurd hwb (by simp)⟩

/-- The instruction ID hands on is a decoded one. -/
lemma decoded_latchedId (cpu : CPU) (e : PipelineEngine) : Decoded (latchedId cpu e) :=
  (decoded_decodeRawInstruction e.idStage.reg).latchOperands _

lemma FetchReady.idle_flow (h : FetchReady e) (hstall : (evaluateIdHazard e).stalled = false)
    (hnone : takenTarget e.exStage = none) :
    FetchIdle (simulateCycle ⟨cpu, none, e, t⟩).engine := by
  rw [odd_cycle_flow h hstall hnone]
  constructor
  case cycle => exact h.next_odd
  case wait =>
    dsimp only
    split_ifs with hex
    · rw [takenTarget, if_pos hex] at hnone
      simp [takenTarget_setSlot_exResult, hnone]
    · simp [takenTarget, h.mem]
  case held => exact fun hwait => absurd hwait (by simp)
  case wb => exact vacated_valid _
  case mem =>
    dsimp only
    split_ifs
    · exact pending_setSlot _
    · exact pending_of_empty h.mem _
  case ex =>
    dsimp only
    split_ifs
    · exact pending_setSlot _
    · exact pending_of_empty (vacated_valid _) _
  case id =>
    dsimp only
    split_ifs
    · exact pending_setSlot _
    · exact pending_of_empty (departed_valid _ _) _
  case ifs => exact fun hif => absurd hif (by simp)
  case decoded =>
    constructor
    · dsimp only
      split_ifs
      · exact fun _ => decoded_latchedId cpu e
      · exact fun hex => absurd hex (by simp)
    · dsimp only
      split_ifs with hex
      · exact fun _ => (h.decoded.ex hex).exResult
      · exact fun hmem => absurd hmem (by simp [h.mem])
    · exact fun hwb => absurd hwb (by simp)

/-- An odd cycle ends in the shape that an even cycle starts from. -/
theorem FetchReady.idle_next (h : FetchReady e) :
    FetchIdle (simulateCycle ⟨cpu, none, e, t⟩).engine := by
  rcases odd_cycle_cases e with ⟨hv, a, htaken⟩ | hstall | ⟨hstall, hnone⟩
  · exact h.idle_taken hv htaken
  · exact h.idle_stalled hstall
  · exact h.idle_flow hstall hnone

/-- Counting down decides nothing for the hazard unit. -/
lemma stalled_counted (e : PipelineEngine) (b wait : Bool) (ifs mem wb : StageSlot) (c : ℕ) :
    (evaluateIdHazard
        ⟨ifs, countedUnless b e.idStage, counted e.exStage, mem, wb, c, wait⟩).stalled =
      (evaluateIdHazard e).stalled := by
  rw [Bool.eq_iff_iff, stalled_iff, stalled_iff]
  simp

/-- An even cycle ends in the shape that an odd cycle starts from. -/
theorem FetchIdle.ready_next (h : FetchIdle e) :
    FetchReady (simulateCycle ⟨cpu, none, e, t⟩).engine := by
  rw [even_cycle h]
  constructor
  case cycle => exact h.next_even
  case wait => rfl
  case mem => exact vacated_valid _
  case wb =>
    dsimp only
    split_ifs
    · exact pending_setSlot _
    · exact pending_of_empty h.wb _
  case ex => exact h.ex.counted
  case id =>
    simp only [stalled_counted]
    exact h.id.countedUnless _
  case ifs => simpa using h.ifs
  case decoded =>
    constructor
    · simpa using h.decoded.ex
    · exact fun hmem => absurd hmem (by simp)
    · dsimp only
      split_ifs with hmem
      · exact fun _ => (h.decoded.mem hmem).memResult cpu
      · exact fun hwb => absurd hwb (by simp [h.wb])

/-! ### Every run on the global CPU -/

/-- The run works on the global CPU and its engine has one of the two shapes. -/
structure Scheduled (s : Simulation) : Prop where
  object : s.object = none
  engine : FetchReady s.engine ∨ FetchIdle s.engine

lemma scheduled_start (cpu : CPU) : Scheduled (.start cpu none) where
  object := rfl
  engine := Or.inl fetchReady_zeroed

/-- The two shapes, with the parts of the simulation named. -/
lemma Scheduled.shape {s : Simulation} (h : Scheduled s) :
    ∃ cpu e t, s = ⟨cpu, none, e, t⟩ ∧ (FetchReady e ∨ FetchIdle e) := by
  obtain ⟨cpu, object, e, t⟩ := s
  obtain ⟨rfl, hshape⟩ := h
  exact ⟨cpu, e, t, rfl, hshape⟩

lemma Scheduled.target {s : Simulation} (h : Scheduled s) : s.target = s.cpu := by
  simp [Simulation.target, h.object]

lemma FetchReady.object (h : FetchReady e) :
    (simulateCycle ⟨cpu, none, e, t⟩).object = none := by
  rcases odd_cycle_cases e with ⟨hv, a, htaken⟩ | hstall | ⟨hstall, hnone⟩
  · rw [odd_cycle_taken h hv htaken]
  · rw [odd_cycle_stalled h hstall]
  · rw [odd_cycle_flow h hstall hnone]

theorem Scheduled.next {s : Simulation} (h : Scheduled s) :
    Scheduled (simulateCycle s) := by
  obtain ⟨cpu, e, t, rfl, hready | hidle⟩ := h.shape
  · exact ⟨hready.object, Or.inr hready.idle_next⟩
  · refine ⟨?_, Or.inl hidle.ready_next⟩
    rw [even_cycle hidle]

theorem scheduled_simulate (n : ℕ) (cpu : CPU) : Scheduled (simulate n cpu none) :=
  boundedWhile_invariant (fun _ h _ => h.next) n (scheduled_start cpu)

/-! ### The events of a run -/

/-- MEM completes in even cycles, the other stages in odd ones, and every cycle is validated. -/
structure Punctual (s : Simulation) : Prop where
  completed : ∀ event ∈ s.trace.completed, event.2 = .stageMem ↔ event.1 % 2 = 0
  validated : ∀ verdict ∈ s.trace.validated, verdict = true
  every_cycle : s.trace.validated.length = s.engine.cycle

lemma punctual_start (cpu : CPU) : Punctual (.start cpu none) where
  completed event h := absurd h (by simp [Simulation.start, Trace.empty])
  validated verdict h := absurd h (by simp [Simulation.start, Trace.empty])
  every_cycle := rfl

/-- One more cycle, with its completions and its verdict. -/
lemma Punctual.append {s s' : Simulation} (h : Punctual s) {events : List (ℕ × StageKind)}
    (hcompleted : s'.trace.completed = s.trace.completed ++ events)
    (hevents : ∀ event ∈ events, event.2 = .stageMem ↔ event.1 % 2 = 0)
    (hvalidated : s'.trace.validated = s.trace.validated ++ [true])
    (hcycle : s'.engine.cycle = s.engine.cycle + 1) : Punctual s' where
  completed event hmem := by
    rw [hcompleted, List.mem_append] at hmem
    rcases hmem with hold | hnew
    · exact h.completed event hold
    · exact hevents event hnew
  validated verdict hmem := by
    rw [hvalidated, List.mem_append, List.mem_singleton] at hmem
    rcases hmem with hold | rfl
    · exact h.validated verdict hold
    · rfl
  every_cycle := by
    rw [hvalidated, hcycle, List.length_append, h.every_cycle, List.length_singleton]

lemma mem_ifValid {α : Type*} {slot : StageSlot} {x : α} {events : List α}
    (h : x ∈ ifValid slot events) : slot.reg.valid = true ∧ x ∈ events := by
  simp only [ifValid] at h
  split_ifs at h with hv
  · exact ⟨hv, h⟩
  · exact absurd h List.not_mem_nil

lemma mem_ifValid_singleton {α : Type*} {slot : StageSlot} {x y : α}
    (h : x ∈ ifValid slot [y]) : x = y :=
  List.mem_singleton.mp (mem_ifValid h).2

/-- The completion of a stage other than MEM in an odd cycle. -/
lemma odd_event {c : ℕ} (hodd : c % 2 = 1) {kind : StageKind} (hkind : kind ≠ .stageMem) :
    ∀ event ∈ [(c, kind)], event.2 = .stageMem ↔ event.1 % 2 = 0 := by
  intro event hmem
  obtain rfl := List.mem_singleton.mp hmem
  constructor
  · intro heq
    exact absurd heq hkind
  · intro heven
    exact absurd (heven.symm.trans hodd) (by decide)

lemma FetchReady.punctual (h : FetchReady e) (hp : Punctual ⟨cpu, none, e, t⟩) :
    Punctual (simulateCycle ⟨cpu, none, e, t⟩) := by
  have hodd := h.next_odd
  have hslot : ∀ (slot : StageSlot) (kind : StageKind), kind ≠ .stageMem →
      ∀ event ∈ ifValid slot [(e.cycle + 1, kind)], event.2 = .stageMem ↔ event.1 % 2 = 0 := by
    intro slot kind hkind event hmem
    exact odd_event hodd hkind event (mem_ifValid hmem).2
  have hfetch : ∀ event ∈ (if fetches cpu e then [(e.cycle + 1, StageKind.stageIf)] else []),
      event.2 = .stageMem ↔ event.1 % 2 = 0 := by
    intro event hmem
    split_ifs at hmem
    · exact odd_event hodd (by decide) event hmem
    · exact absurd hmem List.not_mem_nil
  have hwb := hslot e.wbStage .stageWb (by decide)
  have hex := hslot e.exStage .stageEx (by decide)
  have hid := hslot e.idStage .stageId (by decide)
  have hload := odd_event hodd (show StageKind.stageEx ≠ .stageMem by decide)
  rcases odd_cycle_cases e with ⟨hv, a, htaken⟩ | hstall | ⟨hstall, hnone⟩
  · rw [odd_cycle_taken h hv htaken]
    exact hp.append rfl (List.forall_mem_append.mpr ⟨hwb, hload⟩) rfl rfl
  · rw [odd_cycle_stalled h hstall]
    refine hp.append rfl ?_ rfl rfl
    exact List.forall_mem_append.mpr ⟨hwb, List.forall_mem_append.mpr ⟨hload, hfetch⟩⟩
  · rw [odd_cycle_flow h hstall hnone]
    refine hp.append rfl ?_ rfl rfl
    exact List.forall_mem_append.mpr ⟨hwb, List.forall_mem_append.mpr
      ⟨hex, List.forall_mem_append.mpr ⟨hid, hfetch⟩⟩⟩

lemma FetchIdle.punctual (h : FetchIdle e) (hp : Punctual ⟨cpu, none, e, t⟩) :
    Punctual (simulateCycle ⟨cpu, none, e, t⟩) := by
  rw [even_cycle h]
  refine hp.append rfl ?_ rfl rfl
  intro event hmem
  obtain rfl := mem_ifValid_singleton hmem
  exact ⟨fun _ => h.next_even, fun _ => rfl⟩

lemma Punctual.next {s : Simulation} (h : Punctual s) (hs : Scheduled s) :
    Punctual (simulateCycle s) := by
  obtain ⟨cpu, e, t, rfl, hready | hidle⟩ := hs.shape
  · exact hready.punctual h
  · exact hidle.punctual h

lemma punctual_simulate (n : ℕ) (cpu : CPU) : Punctual (simulate n cpu none) := by
  have hboth : Scheduled (simulate n cpu none) ∧ Punctual (simulate n cpu none) :=
    boundedWhile_invariant (P := fun s => Scheduled s ∧ Punctual s)
      (fun _ h _ => ⟨h.1.next, h.2.next h.1⟩) n
      ⟨scheduled_start cpu, punctual_start cpu⟩
  exact hboth.2

/-! ### The invariant -/

/-- What the two shapes say about the slots at the start of the next cycle. -/
structure Occupancy (s : Simulation) : Prop where
  mem_empty : (s.engine.cycle + 1) % 2 = 1 → slotIsEmpty s.engine.memStage = true
  wb_empty : (s.engine.cycle + 1) % 2 = 0 → slotIsEmpty s.engine.wbStage = true
  wait_iff : s.engine.waitForTakenBranchMem = true ↔
    slotIsEmpty s.engine.memStage = false ∧
      (s.engine.memStage.reg.opcode = .jeq ∨ s.engine.memStage.reg.opcode = .jmp) ∧
      (calculateBranchTarget s.engine.memStage.reg).isSome = true
  wait_empty : s.engine.waitForTakenBranchMem = true →
    slotIsEmpty s.engine.ifStage = true ∧ slotIsEmpty s.engine.idStage = true ∧
      slotIsEmpty s.engine.exStage = true ∧ slotIsEmpty s.engine.wbStage = true

lemma isSome_takenTarget (slot : StageSlot) :
    (takenTarget slot).isSome = true ↔
      slotIsEmpty slot = false ∧ (slot.reg.opcode = .jeq ∨ slot.reg.opcode = .jmp) ∧
        (calculateBranchTarget slot.reg).isSome = true := by
  simp only [takenTarget, slotIsEmpty]
  split_ifs with hv
  · rw [hv]
    constructor
    · intro hsome
      obtain ⟨a, ha⟩ := Option.isSome_iff_exists.mp hsome
      exact ⟨rfl, calculateBranchTarget_opcode ha, hsome⟩
    · rintro ⟨-, -, hsome⟩
      exact hsome
  · simp [hv]

lemma FetchReady.occupancy (h : FetchReady e) : Occupancy ⟨cpu, none, e, t⟩ where
  mem_empty _ := by simp [slotIsEmpty, h.mem]
  wb_empty heven := absurd (h.next_odd.symm.trans heven) (by decide)
  wait_iff := by
    simp [h.wait, slotIsEmpty, h.mem]
  wait_empty hwait := absurd hwait (by simp [h.wait])

lemma FetchIdle.occupancy (h : FetchIdle e) : Occupancy ⟨cpu, none, e, t⟩ where
  mem_empty hodd := absurd (h.next_even.symm.trans hodd) (by decide)
  wb_empty _ := by simp [slotIsEmpty, h.wb]
  wait_iff := by
    show e.waitForTakenBranchMem = true ↔ _
    rw [h.wait]
    exact isSome_takenTarget _
  wait_empty hwait := by
    obtain ⟨hif, hid, hex⟩ := h.held hwait
    simp [slotIsEmpty, hif, hid, hex, h.wb]

lemma Scheduled.occupancy {s : Simulation} (h : Scheduled s) : Occupancy s := by
  obtain ⟨cpu, e, t, rfl, hready | hidle⟩ := h.shape
  · exact hready.occupancy
  · exact hidle.occupancy

/-- In every cycle of every run on the global CPU the stages are occupied in step with the parity
of the cycle, the test for a conflict with MEM never blocks a fetch, the fetch is held exactly while
a taken branch is in MEM, and `validatePipeline` reports no conflict. -/
theorem pipeline_occupancy (cpu : CPU) (n : ℕ) :
    let s := simulate n cpu none
    let e := s.engine
    let startsOddCycle := (e.cycle + 1) % 2 = 1
    (startsOddCycle → slotIsEmpty e.memStage = true) ∧
    (¬ startsOddCycle → slotIsEmpty e.wbStage = true) ∧
    (slotIsEmpty e.memStage = true ∨ slotIsEmpty e.wbStage = true) ∧
    (∀ cycle kind, (cycle, kind) ∈ s.trace.completed → (kind = .stageMem ↔ cycle % 2 = 0)) ∧
    (startsOddCycle →
      canFetchThisCycle s.target { e with cycle := e.cycle + 1 } =
        canFetchThisCycle s.target { e with cycle := e.cycle + 1, memStage := clearSlot }) ∧
    (e.waitForTakenBranchMem = true ↔
      slotIsEmpty e.memStage = false ∧
        (e.memStage.reg.opcode = .jeq ∨ e.memStage.reg.opcode = .jmp) ∧
        (calculateBranchTarget e.memStage.reg).isSome = true) ∧
    (e.waitForTakenBranchMem = true →
      slotIsEmpty e.ifStage = true ∧ slotIsEmpty e.idStage = true ∧
        slotIsEmpty e.exStage = true ∧ slotIsEmpty e.wbStage = true) ∧
    s.trace.validated = List.replicate e.cycle true := by
  intro s e startsOddCycle
  have hocc : Occupancy s := (scheduled_simulate n cpu).occupancy
  have hpunctual : Punctual s := punctual_simulate n cpu
  have hwb : ¬ startsOddCycle → slotIsEmpty e.wbStage = true := by
    intro heven
    apply hocc.wb_empty
    change ¬ (e.cycle + 1) % 2 = 1 at heven
    show (e.cycle + 1) % 2 = 0
    omega
  refine ⟨hocc.mem_empty, hwb, ?_, ?_, ?_, hocc.wait_iff, hocc.wait_empty, ?_⟩
  · by_cases hodd : startsOddCycle
    · exact Or.inl (hocc.mem_empty hodd)
    · exact Or.inr (hwb hodd)
  · exact fun cycle kind hmem => hpunctual.completed (cycle, kind) hmem
  · intro hodd
    have hmem : slotIsEmpty e.memStage = true := hocc.mem_empty hodd
    have hclear : slotIsEmpty clearSlot = true := rfl
    simp only [canFetchThisCycle, hmem, hclear]
  · rw [List.eq_replicate_iff]
    exact ⟨hpunctual.every_cycle, hpunctual.validated⟩

end Fillet
