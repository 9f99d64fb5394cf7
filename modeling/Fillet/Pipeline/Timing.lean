import Fillet.Pipeline.Refinement

/-!
# The cycle in which an instruction retires

When an instruction leaves ID its completion is fixed: WB four cycles later. `timeline` lists the
completion cycles of everything that has left ID, `issueDelay` says how far away the next such event
is, and together they follow the recurrence of `completionCycle`.
-/

namespace Fillet

open BoundedLoop

variable {cpu : CPU} {e : PipelineEngine} {t : Trace}

/-! ### The sequential run -/

/-- The sequential machine after `i` steps. -/
def machineAt (cpu : CPU) (i : ℕ) : Sequential :=
  Sequential.step^[i] (.start cpu)

/-- The instruction it executes next. -/
def instructionAt (cpu : CPU) (i : ℕ) : PipelineRegister :=
  sequentialInstruction (machineAt cpu i).cpu

/-- The instruction as it retires. -/
def retirementAt (cpu : CPU) (i : ℕ) : Retirement :=
  retirement (memResult (machineAt cpu i).cpu (exResult (instructionAt cpu i))).1

/-- A load and the consumer behind it. -/
def loadUse (producer consumer : PipelineRegister) : Bool :=
  producer.opcode = .movr && producer.r1 ≠ 0 && instructionReadsRegister consumer producer.r1

/-- What a load-use hazard and a taken branch cost. -/
def extraCycles (reg next : PipelineRegister) : ℕ :=
  (if loadUse reg next then 2 else 0) + (if (calculateBranchTarget reg).isSome then 4 else 0)

/-- The cycle in which the `i`-th instruction completes WB. -/
def completionCycle (cpu : CPU) : ℕ → ℕ
  | 0 => 7
  | i + 1 =>
    completionCycle cpu i + 2 + extraCycles (instructionAt cpu i) (instructionAt cpu (i + 1))

lemma machineAt_succ (cpu : CPU) (i : ℕ) : machineAt cpu (i + 1) = (machineAt cpu i).step :=
  Function.iterate_succ_apply' ..

lemma sameProgram_machineAt (cpu : CPU) (i : ℕ) : SameProgram cpu (machineAt cpu i).cpu := by
  induction i with
  | zero => exact .refl cpu
  | succ i ih =>
    rw [machineAt_succ]
    exact ih.trans (extends_step _).program

/-- A machine that has halted stays halted. -/
lemma running_of_running_later {i j : ℕ} (hij : i ≤ j) (h : running (machineAt cpu j).cpu = true) :
    running (machineAt cpu i).cpu = true := by
  induction hij with
  | refl => exact h
  | step _ ih =>
    apply ih
    by_contra hhalted
    rw [machineAt_succ, Sequential.step] at h
    simp [hhalted] at h

lemma sequentialInstruction_valid (hprogram : Formatted cpu) (hrun : running cpu = true) :
    (sequentialInstruction cpu).valid = true := by
  have hcode := hprogram cpu.pc (by simpa [running] using hrun)
  simp [sequentialInstruction, decodeRawInstruction_valid, fetchedRegister, hcode]

/-- A step retires one instruction. -/
lemma retired_step (hprogram : Formatted cpu) {i : ℕ}
    (hrun : running (machineAt cpu i).cpu = true) :
    (machineAt cpu (i + 1)).retired = (machineAt cpu i).retired ++ [retirementAt cpu i] := by
  have hvalid := sequentialInstruction_valid
    (hprogram.sameProgram (sameProgram_machineAt cpu i)) hrun
  rw [machineAt_succ, Sequential.step]
  simp [hrun, hvalid, Sequential.finish, Sequential.writeBack, retirementAt, instructionAt]

/-- As long as it runs, the machine retires one instruction in every step. -/
lemma retired_machineAt (hprogram : Formatted cpu) (k : ℕ)
    (hrun : ∀ i < k, running (machineAt cpu i).cpu = true) :
    (machineAt cpu k).retired = (List.range k).map (retirementAt cpu) := by
  induction k with
  | zero => rfl
  | succ k ih =>
    rw [retired_step hprogram (hrun k (Nat.lt_succ_self k)),
      ih fun i hi => hrun i (Nat.lt_succ_of_lt hi), List.range_succ, List.map_append]
    rfl

/-- What has retired tells how far a running machine is. -/
lemma index_of_retired (hprogram : Formatted cpu) {i j : ℕ}
    (hi : running (machineAt cpu i).cpu = true) (hj : running (machineAt cpu j).cpu = true)
    (h : (machineAt cpu i).retired = (machineAt cpu j).retired) : i = j := by
  have hlength : ∀ k, running (machineAt cpu k).cpu = true →
      (machineAt cpu k).retired.length = k := by
    intro k hk
    rw [retired_machineAt hprogram k fun l hl => running_of_running_later hl.le hk,
      List.length_map, List.length_range]
  rw [← hlength i hi, ← hlength j hj, h]

/-! ### The recurrence -/

lemma completionCycle_lt_succ (cpu : CPU) (i : ℕ) :
    completionCycle cpu i < completionCycle cpu (i + 1) := by
  rw [completionCycle]
  omega

lemma completionCycle_strictMono (cpu : CPU) : StrictMono (completionCycle cpu) :=
  strictMono_nat_of_lt_succ (completionCycle_lt_succ cpu)

/-! ### The timeline of a state -/

/-- How many cycles from now the next instruction leaves ID, if there is one. -/
def issueDelay (e : PipelineEngine) : ℕ :=
  (if (takenTarget e.exStage).isSome then 5
    else if (evaluateIdHazard e).stalled then 3
    else if e.idStage.reg.valid then 1
    else 3) + e.cycle % 2

/-- The completion cycles of the instructions behind ID, oldest first. -/
def pendingCycles (e : PipelineEngine) : List ℕ :=
  ifValid e.wbStage [e.cycle + 1] ++ ifValid e.memStage [e.cycle + 2] ++
    ifValid e.exStage [e.cycle + 3 + e.cycle % 2]

/-- The completion cycles of everything that has left ID. -/
def timeline (s : Simulation) : List ℕ :=
  s.trace.retired.map Prod.fst ++ pendingCycles s.engine

/-- The completion cycle of the next instruction to leave ID. -/
def dueCycle (e : PipelineEngine) : ℕ :=
  e.cycle + issueDelay e + 4

lemma ifValid_of_empty {α : Type*} {slot : StageSlot} (h : slot.reg.valid = false)
    (events : List α) : ifValid slot events = [] := by
  simp [ifValid, h]

lemma map_ifValid {α β : Type*} (f : α → β) (slot : StageSlot) (events : List α) :
    (ifValid slot events).map f = ifValid slot (events.map f) := by
  simp only [ifValid]
  split_ifs <;> rfl

/-- The load in EX and its consumer in ID. -/
lemma stalled_iff_loadUse (hid : Pending e.idStage 1 ∨ Pending e.idStage 2)
    (hr1 : 0 ≤ e.exStage.reg.r1) (hex : e.exStage.reg.valid = true)
    (hidv : e.idStage.reg.valid = true) :
    (evaluateIdHazard e).stalled = loadUse e.exStage.reg (decodeRawInstruction e.idStage.reg) := by
  have hcompleted : e.idStage.completed = false := by
    rcases hid with hid | hid
    · exact (hid hidv).2
    · exact (hid hidv).2
  have hpos : 0 < e.exStage.reg.r1 ↔ e.exStage.reg.r1 ≠ 0 := by omega
  rw [Bool.eq_iff_iff, stalled_iff, loadUse]
  simp [hcompleted, hex, hidv, hpos, and_assoc]

lemma not_stalled_of_empty_ex (h : e.exStage.reg.valid = false) :
    (evaluateIdHazard e).stalled = false := by
  rw [← Bool.not_eq_true, stalled_iff]
  simp [h]

lemma not_stalled_of_empty_id (h : e.idStage.reg.valid = false) :
    (evaluateIdHazard e).stalled = false := by
  rw [← Bool.not_eq_true, stalled_iff]
  simp [h]

/-! The four kinds of wait before the next instruction leaves ID. -/

lemma issueDelay_of_taken (h : (takenTarget e.exStage).isSome = true) :
    issueDelay e = 5 + e.cycle % 2 := by
  simp [issueDelay, h]

lemma issueDelay_of_stalled (h : (evaluateIdHazard e).stalled = true) :
    issueDelay e = 3 + e.cycle % 2 := by
  simp [issueDelay, h, takenTarget_of_stalled h]

lemma issueDelay_of_id (htaken : takenTarget e.exStage = none)
    (hstall : (evaluateIdHazard e).stalled = false) (hid : e.idStage.reg.valid = true) :
    issueDelay e = 1 + e.cycle % 2 := by
  simp [issueDelay, htaken, hstall, hid]

lemma issueDelay_of_empty (htaken : takenTarget e.exStage = none)
    (hid : e.idStage.reg.valid = false) : issueDelay e = 3 + e.cycle % 2 := by
  simp [issueDelay, htaken, not_stalled_of_empty_id hid, hid]

/-- What leaves ID in the next cycle completes four cycles after it. -/
lemma FetchReady.dueCycle_of_id (h : FetchReady e) (hstall : (evaluateIdHazard e).stalled = false)
    (hnone : takenTarget e.exStage = none) (hid : e.idStage.reg.valid = true) :
    dueCycle e = e.cycle + 5 := by
  rw [dueCycle, issueDelay_of_id hnone hstall hid, h.cycle]

/-! ### What each kind of cycle does to the timeline -/

/-- The retirements of an odd cycle were pending, and so is what EX hands to MEM. -/
lemma FetchReady.timeline_odd (h : FetchReady e) (cpu : CPU) (t : Trace) {s : Simulation}
    (hretired : s.trace.retired =
      t.retired ++ ifValid e.wbStage [(e.cycle + 1, retirement e.wbStage.reg)])
    (hwb : s.engine.wbStage = vacated e.wbStage)
    (hmem : s.engine.memStage =
      if e.exStage.reg.valid then setSlot (exResult e.exStage.reg) memCycles else e.memStage)
    (hcycle : s.engine.cycle = e.cycle + 1) :
    timeline s = timeline ⟨cpu, none, e, t⟩ ++ ifValid s.engine.exStage [e.cycle + 5] := by
  have heven := h.cycle
  have hodd := h.next_odd
  have hmoved : ifValid s.engine.memStage [e.cycle + 3] = ifValid e.exStage [e.cycle + 3] := by
    rw [hmem]
    simp only [ifValid]
    cases hex : e.exStage.reg.valid <;> simp [hex, h.mem]
  simp only [timeline, pendingCycles]
  rw [hretired, hcycle, hwb, ifValid_of_empty (vacated_valid _), ifValid_of_empty h.mem,
    List.map_append, map_ifValid, heven, hodd, hmoved]
  simp [Nat.add_assoc]

lemma FetchReady.timeline_taken (h : FetchReady e) (hv : e.exStage.reg.valid = true) {a : UInt32}
    (htaken : calculateBranchTarget e.exStage.reg = some a) :
    timeline (simulateCycle ⟨cpu, none, e, t⟩) = timeline ⟨cpu, none, e, t⟩ ∧
      dueCycle (simulateCycle ⟨cpu, none, e, t⟩).engine = dueCycle e := by
  have htarget : takenTarget e.exStage = some a := by rw [takenTarget, if_pos hv, htaken]
  have heven := h.cycle
  have hodd := h.next_odd
  rw [odd_cycle_taken h hv htaken]
  constructor
  · rw [h.timeline_odd cpu t rfl rfl (by rw [if_pos hv]) rfl,
      ifValid_of_empty clearSlot_valid, List.append_nil]
  · simp only [dueCycle]
    rw [issueDelay_of_taken (e := e) (by rw [htarget]; rfl), issueDelay_of_empty]
    · dsimp only
      omega
    · exact takenTarget_of_empty rfl
    · rfl

lemma FetchReady.timeline_stalled (h : FetchReady e)
    (hstall : (evaluateIdHazard e).stalled = true) :
    timeline (simulateCycle ⟨cpu, none, e, t⟩) = timeline ⟨cpu, none, e, t⟩ ∧
      dueCycle (simulateCycle ⟨cpu, none, e, t⟩).engine = dueCycle e := by
  obtain ⟨⟨hid, -⟩, ⟨hex, -⟩, -, -⟩ := (stalled_iff e).mp hstall
  have heven := h.cycle
  have hodd := h.next_odd
  rw [odd_cycle_stalled h hstall]
  constructor
  · rw [h.timeline_odd cpu t rfl rfl (by rw [if_pos hex]) rfl,
      ifValid_of_empty clearSlot_valid, List.append_nil]
  · simp only [dueCycle]
    rw [issueDelay_of_stalled hstall, issueDelay_of_id]
    · dsimp only
      omega
    · exact takenTarget_of_empty rfl
    · exact not_stalled_of_empty_ex rfl
    · exact hid

lemma FetchReady.timeline_bubble (h : FetchReady e) (hstall : (evaluateIdHazard e).stalled = false)
    (hnone : takenTarget e.exStage = none) (hid : e.idStage.reg.valid = false) :
    timeline (simulateCycle ⟨cpu, none, e, t⟩) = timeline ⟨cpu, none, e, t⟩ ∧
      (running (sequentialView ⟨cpu, none, e, t⟩).cpu = true →
        dueCycle (simulateCycle ⟨cpu, none, e, t⟩).engine = dueCycle e) := by
  have heven := h.cycle
  have hodd := h.next_odd
  have hif := h.if_empty hid
  rw [odd_cycle_flow h hstall hnone]
  constructor
  · rw [h.timeline_odd cpu t rfl rfl rfl rfl]
    simp [hid, ifValid_of_empty]
  · intro hrun
    have hfetch : fetches cpu e = true := by
      rw [running_view, resumePc_of_empty hnone hid hif] at hrun
      rw [fetches, hif]
      simpa [running] using hrun
    simp only [dueCycle]
    rw [issueDelay_of_empty (e := e) hnone hid, issueDelay_of_id]
    · dsimp only
      omega
    · apply takenTarget_of_empty
      simp [hid]
    · apply not_stalled_of_empty_ex
      simp [hid]
    · simp [arrivedSlot, hfetch, fetchedRegister]

@[simp] lemma instructionReadsRegister_latchOperands (read : Int → Int32) (reg : PipelineRegister)
    (r : Int) :
    instructionReadsRegister (latchOperands read reg) r = instructionReadsRegister reg r := by
  simp only [latchOperands]
  split <;> rfl

lemma loadUse_latchOperands (read : Int → Int32) (reg reg' : PipelineRegister) :
    loadUse (latchOperands read reg) reg' = loadUse reg reg' := by
  simp [loadUse]

lemma loadUse_latchOperands_right (read : Int → Int32) (reg reg' : PipelineRegister) :
    loadUse reg (latchOperands read reg') = loadUse reg reg' := by
  simp [loadUse]

lemma loadUse_of_branch {reg reg' : PipelineRegister} {a : UInt32}
    (h : calculateBranchTarget reg = some a) : loadUse reg reg' = false := by
  rcases calculateBranchTarget_opcode h with hop | hop <;> simp [loadUse, hop]

/-- If nothing arrives behind the last instruction, the sequential machine has halted. -/
lemma arrived_of_running (horder : FetchedInOrder cpu e) (hid : e.idStage.reg.valid = true)
    (hrun : e.idStage.reg.pc + 1 < cpu.instructionCount.toUInt32) :
    (arrivedSlot cpu e).reg.valid = true := by
  have hnext := (horder.id hid).2
  by_cases hif : e.ifStage.reg.valid = true
  · simp [arrivedSlot, fetches, hif]
  · rw [if_neg hif] at hnext
    have hfetch : fetches cpu e = true := by
      simp only [Bool.not_eq_true] at hif
      simp [fetches, running, hif, ← hnext, hrun]
    simp [arrivedSlot, hfetch, fetchedRegister]

lemma FetchReady.timeline_issue (h : FetchReady e) (hstall : (evaluateIdHazard e).stalled = false)
    (hnone : takenTarget e.exStage = none) (hid : e.idStage.reg.valid = true)
    (hvalid : (decodeRawInstruction e.idStage.reg).valid = true) :
    timeline (simulateCycle ⟨cpu, none, e, t⟩) = timeline ⟨cpu, none, e, t⟩ ++ [dueCycle e] := by
  have heven := h.cycle
  have hdue := h.dueCycle_of_id hstall hnone hid
  have hex := h.exStage_issue cpu t hstall hnone hid
  rw [hvalid, if_pos rfl] at hex
  have htimeline : timeline (simulateCycle ⟨cpu, none, e, t⟩) = timeline ⟨cpu, none, e, t⟩ ++
      ifValid (simulateCycle ⟨cpu, none, e, t⟩).engine.exStage [e.cycle + 5] := by
    rw [odd_cycle_flow h hstall hnone]
    exact h.timeline_odd cpu t rfl rfl rfl rfl
  rw [htimeline, hex, hdue, ifValid, setSlot_reg, latchedId_valid, hvalid, if_pos rfl]

/-- The next instruction leaves ID two cycles after this one, plus the extra cycles. -/
lemma FetchReady.due_issue (h : FetchReady e) (horder : FetchedInOrder cpu e)
    (hstall : (evaluateIdHazard e).stalled = false) (hnone : takenTarget e.exStage = none)
    (hid : e.idStage.reg.valid = true)
    (hvalid : (decodeRawInstruction e.idStage.reg).valid = true)
    (hrun : running (sequentialView (simulateCycle ⟨cpu, none, e, t⟩)).cpu = true) :
    dueCycle (simulateCycle ⟨cpu, none, e, t⟩).engine = dueCycle e + 2 +
      extraCycles (sequentialInstruction (sequentialView ⟨cpu, none, e, t⟩).cpu)
        (sequentialInstruction (sequentialView (simulateCycle ⟨cpu, none, e, t⟩)).cpu) := by
  have heven := h.cycle
  have hodd := h.next_odd
  have hdue := h.dueCycle_of_id hstall hnone hid
  have hex := h.exStage_issue cpu t hstall hnone hid
  rw [hvalid, if_pos rfl] at hex
  have hcycle : (simulateCycle ⟨cpu, none, e, t⟩).engine.cycle = e.cycle + 1 := by
    rw [odd_cycle_flow h hstall hnone]
  have hbranch := (h.latched_agrees cpu t hstall hvalid (.start cpu)).2
  rw [← sequentialInstruction_view ⟨cpu, none, e, t⟩ horder hnone hid] at hbranch
  have htaken : takenTarget (simulateCycle ⟨cpu, none, e, t⟩).engine.exStage =
      calculateBranchTarget (sequentialInstruction (sequentialView ⟨cpu, none, e, t⟩).cpu) := by
    rw [hex, takenTarget, setSlot_reg, latchedId_valid, hvalid, if_pos rfl, hbranch]
  cases htarget : calculateBranchTarget
      (sequentialInstruction (sequentialView ⟨cpu, none, e, t⟩).cpu) with
  | some a =>
    rw [htarget] at htaken
    rw [dueCycle, issueDelay_of_taken (by rw [htaken]; rfl), hcycle, hdue, extraCycles, htarget,
      loadUse_of_branch htarget, Option.isSome_some, if_pos rfl, if_neg (by decide)]
    omega
  | none =>
    rw [htarget] at htaken
    rw [running_view, h.resumePc_issue t horder hstall hnone hid, htaken,
      Option.getD_none] at hrun
    have hinside : e.idStage.reg.pc + 1 < cpu.instructionCount.toUInt32 := by
      have hcount : (simulateCycle ⟨cpu, none, e, t⟩).cpu.instructionCount =
          cpu.instructionCount := by
        rw [odd_cycle_flow h hstall hnone]
        exact (sameProgram_idCpu cpu e).count
      rw [hcount] at hrun
      simpa using hrun
    have harrived := arrived_of_running horder hid hinside
    have hnext : (simulateCycle ⟨cpu, none, e, t⟩).engine.idStage.reg.valid = true := by
      rw [odd_cycle_flow h hstall hnone]
      simp [harrived]
    have hidle : FetchIdle (simulateCycle ⟨cpu, none, e, t⟩).engine := h.idle_next
    have huse : loadUse (sequentialInstruction (sequentialView ⟨cpu, none, e, t⟩).cpu)
        (sequentialInstruction (sequentialView (simulateCycle ⟨cpu, none, e, t⟩)).cpu) =
          (evaluateIdHazard (simulateCycle ⟨cpu, none, e, t⟩).engine).stalled := by
      have hissued : (simulateCycle ⟨cpu, none, e, t⟩).engine.exStage.reg = latchedId cpu e := by
        rw [hex, setSlot_reg]
      have hr1 := (decoded_latchedId cpu e).r1_range.1
      rw [stalled_iff_loadUse (Or.inr hidle.id) (by rwa [hissued]), hissued,
        sequentialInstruction_view _ horder hnone hid,
        sequentialInstruction_view _ (h.fetchedInOrder horder) htaken hnext,
        loadUse_latchOperands, loadUse_latchOperands_right]
      · exact (loadUse_latchOperands _ _ _).symm
      · rw [hissued, latchedId_valid, hvalid]
      · exact hnext
    rw [extraCycles, htarget, huse, hdue, dueCycle, hcycle, issueDelay, htaken, hnext, hcycle, hodd]
    cases (evaluateIdHazard (simulateCycle ⟨cpu, none, e, t⟩).engine).stalled <;> simp

/-- An even cycle moves the timeline on without a change. -/
lemma FetchIdle.timeline_even (h : FetchIdle e) :
    timeline (simulateCycle ⟨cpu, none, e, t⟩) = timeline ⟨cpu, none, e, t⟩ ∧
      dueCycle (simulateCycle ⟨cpu, none, e, t⟩).engine = dueCycle e := by
  have hodd := h.cycle
  have heven := h.next_even
  have hcounted : ∀ {α : Type} (events : List α),
      ifValid (counted e.exStage) events = ifValid e.exStage events := by
    intro α events
    simp only [ifValid]
    rw [counted_reg]
  have htarget : takenTarget (counted e.exStage) = takenTarget e.exStage := by
    simp [takenTarget]
  rw [even_cycle h]
  constructor
  · unfold timeline pendingCycles
    dsimp only
    rw [heven, hodd, hcounted, ifValid_of_empty (vacated_valid _), ifValid_of_empty h.wb]
    congr 2
    simp only [ifValid]
    cases hmem : e.memStage.reg.valid <;> simp [hmem, h.wb]
  · unfold dueCycle issueDelay
    dsimp only
    rw [htarget, stalled_counted, countedUnless_reg, heven, hodd]
    omega

/-! ### The run follows the recurrence -/

/-- A run from `cpu` in which `k` instructions have left ID: they complete when the recurrence says,
and so will the next one. -/
structure OnTime (cpu : CPU) (k : ℕ) (s : Simulation) : Prop extends InStep s where
  view : sequentialView s = machineAt cpu k
  due_cycles : timeline s = (List.range k).map (completionCycle cpu)
  next_due : running (machineAt cpu k).cpu = true → completionCycle cpu k = dueCycle s.engine
  ran : ∀ i < k, running (machineAt cpu i).cpu = true
  past : ∀ c ∈ s.trace.retired.map Prod.fst, c ≤ s.engine.cycle
  program : Formatted s.cpu

lemma onTime_start (hprogram : Formatted cpu) : OnTime cpu 0 (.start cpu none) where
  toInStep := inStep_start cpu
  view := sequentialView_start cpu
  due_cycles := rfl
  next_due _ := by
    rw [dueCycle, issueDelay_of_empty (takenTarget_of_empty rfl) rfl]
    rfl
  ran i hi := absurd hi (Nat.not_lt_zero i)
  past c hc := absurd hc (by simp [Simulation.start, Trace.empty])
  program := hprogram

/-- An instruction retires in the cycle in which it does. -/
lemma Scheduled.past_next {s : Simulation} (h : Scheduled s)
    (hpast : ∀ c ∈ s.trace.retired.map Prod.fst, c ≤ s.engine.cycle) :
    ∀ c ∈ (simulateCycle s).trace.retired.map Prod.fst, c ≤ (simulateCycle s).engine.cycle := by
  have hodd : ∀ e : PipelineEngine, ∀ t : Trace, ∀ r : Retirement,
      (∀ c ∈ t.retired.map Prod.fst, c ≤ e.cycle) →
      ∀ c ∈ (t.retired ++ ifValid e.wbStage [(e.cycle + 1, r)]).map Prod.fst,
        c ≤ e.cycle + 1 := by
    intro e t r hpast c hc
    rw [List.map_append, map_ifValid, List.mem_append] at hc
    rcases hc with hold | hnew
    · exact Nat.le_succ_of_le (hpast c hold)
    · exact (mem_ifValid_singleton hnew).le
  obtain ⟨cpu, e, t, rfl, hready | hidle⟩ := h.shape
  · rcases odd_cycle_cases e with ⟨hv, a, htaken⟩ | hstall | ⟨hstall, hnone⟩
    · rw [odd_cycle_taken hready hv htaken]
      exact hodd e t _ hpast
    · rw [odd_cycle_stalled hready hstall]
      exact hodd e t _ hpast
    · rw [odd_cycle_flow hready hstall hnone]
      exact hodd e t _ hpast
  · rw [even_cycle hidle]
    exact fun c hc => Nat.le_succ_of_le (hpast c hc)

/-- A cycle in which nothing leaves ID. -/
lemma OnTime.hold {k : ℕ} {s : Simulation} (h : OnTime cpu k s)
    (hview : sequentialView (simulateCycle s) = sequentialView s)
    (htimeline : timeline (simulateCycle s) = timeline s)
    (hdue : running (sequentialView s).cpu = true →
      dueCycle (simulateCycle s).engine = dueCycle s.engine) :
    OnTime cpu k (simulateCycle s) where
  toInStep := h.toInStep.next
  view := hview.trans h.view
  due_cycles := htimeline.trans h.due_cycles
  next_due hrun := by
    rw [hdue (by rwa [h.view])]
    exact h.next_due hrun
  ran := h.ran
  past := h.past_next h.past
  program := h.program.sameProgram h.sameProgram

/-- A cycle in which an instruction leaves ID. -/
lemma OnTime.issue {k : ℕ} {s : Simulation} (h : OnTime cpu k s)
    (hrun : running (sequentialView s).cpu = true)
    (hview : sequentialView (simulateCycle s) = (sequentialView s).step)
    (htimeline : timeline (simulateCycle s) = timeline s ++ [dueCycle s.engine])
    (hdue : running (sequentialView (simulateCycle s)).cpu = true →
      dueCycle (simulateCycle s).engine = dueCycle s.engine + 2 +
        extraCycles (sequentialInstruction (sequentialView s).cpu)
          (sequentialInstruction (sequentialView (simulateCycle s)).cpu)) :
    OnTime cpu (k + 1) (simulateCycle s) := by
  rw [h.view] at hrun
  have hview' : sequentialView (simulateCycle s) = machineAt cpu (k + 1) := by
    rw [hview, h.view, machineAt_succ]
  constructor
  case toInStep => exact h.toInStep.next
  case view => exact hview'
  case due_cycles =>
    rw [htimeline, h.due_cycles, List.range_succ, List.map_append, ← h.next_due hrun]
    rfl
  case next_due =>
    intro hrun'
    rw [hdue (by rwa [hview']), h.view, hview', completionCycle, h.next_due hrun]
    rfl
  case ran =>
    intro i hi
    exact running_of_running_later (Nat.le_of_lt_succ hi) hrun
  case past => exact h.past_next h.past
  case program => exact h.program.sameProgram h.sameProgram

/-- The instruction in ID has a format. -/
lemma FetchedInOrder.id_valid (horder : FetchedInOrder cpu e) (hprogram : Formatted cpu)
    (hid : e.idStage.reg.valid = true) : (decodeRawInstruction e.idStage.reg).valid = true := by
  have hfrom := (horder.id hid).1
  rw [decodeRawInstruction_valid, hid, hfrom.raw]
  simpa using hprogram _ hfrom.inside

/-- In a cycle nothing leaves ID, and EX holds nothing new, or the next instruction moves on from
ID to EX. -/
lemma OnTime.next_cases {k : ℕ} {s : Simulation} (h : OnTime cpu k s) :
    OnTime cpu k (simulateCycle s) ∧
        ((simulateCycle s).engine.exStage.reg.valid = true →
          (simulateCycle s).engine.exStage.reg = s.engine.exStage.reg) ∨
      OnTime cpu (k + 1) (simulateCycle s) ∧ FetchReady s.engine ∧
        (evaluateIdHazard s.engine).stalled = false ∧ takenTarget s.engine.exStage = none ∧
        s.engine.idStage.reg.valid = true ∧
        (simulateCycle s).engine.exStage.reg = latchedId s.cpu s.engine := by
  obtain ⟨c, e, t, rfl, hready | hidle⟩ := h.toScheduled.shape
  · rcases odd_cycle_cases e with ⟨hv, a, htaken⟩ | hstall | ⟨hstall, hnone⟩
    · obtain ⟨htimeline, hdue⟩ := hready.timeline_taken hv htaken
      refine Or.inl ⟨h.hold (hready.view_taken hv htaken) htimeline fun _ => hdue, ?_⟩
      rw [odd_cycle_taken hready hv htaken]
      exact fun hex => absurd hex (by simp)
    · obtain ⟨htimeline, hdue⟩ := hready.timeline_stalled hstall
      refine Or.inl ⟨h.hold (hready.view_stalled hstall) htimeline fun _ => hdue, ?_⟩
      rw [odd_cycle_stalled hready hstall]
      exact fun hex => absurd hex (by simp)
    · cases hid : e.idStage.reg.valid with
      | false =>
        obtain ⟨htimeline, hdue⟩ := hready.timeline_bubble hstall hnone hid
        refine Or.inl ⟨h.hold (hready.view_bubble hstall hnone hid) htimeline hdue, ?_⟩
        rw [odd_cycle_flow hready hstall hnone]
        exact fun hex => absurd hex (by simp [hid])
      | true =>
        have hvalid := h.order.id_valid h.program hid
        have hrun : running (sequentialView ⟨c, none, e, t⟩).cpu = true := by
          rw [running_view, resumePc_of_id hnone hid]
          exact decide_eq_true (h.order.id hid).1.inside
        have hex := hready.exStage_issue c t hstall hnone hid
        rw [hvalid, if_pos rfl] at hex
        refine Or.inr ⟨?_, hready, hstall, hnone, rfl, by rw [hex, setSlot_reg]⟩
        exact h.issue hrun (hready.view_issue h.order hstall hnone hid)
          (hready.timeline_issue hstall hnone hid hvalid)
          (hready.due_issue h.order hstall hnone hid hvalid)
  · obtain ⟨htimeline, hdue⟩ := hidle.timeline_even
    refine Or.inl ⟨h.hold hidle.view htimeline fun _ => hdue, fun _ => ?_⟩
    rw [even_cycle hidle]
    exact counted_reg _

theorem OnTime.next {k : ℕ} {s : Simulation} (h : OnTime cpu k s) :
    ∃ k', OnTime cpu k' (simulateCycle s) := by
  rcases h.next_cases with ⟨hnext, -⟩ | ⟨hnext, -⟩
  · exact ⟨k, hnext⟩
  · exact ⟨k + 1, hnext⟩

lemma onTime_simulate (hprogram : Formatted cpu) (n : ℕ) :
    ∃ k, OnTime cpu k (simulate n cpu none) :=
  boundedWhile_invariant (P := fun s => ∃ k, OnTime cpu k s) (fun _ ⟨_, h⟩ _ => h.next) n
    ⟨0, onTime_start hprogram⟩

/-! ### What has retired, and when the loop ends -/

/-- What has retired so far are the first instructions of the sequential run, on time. -/
lemma OnTime.retired_eq {k : ℕ} {s : Simulation} (h : OnTime cpu k s) (hprogram : Formatted cpu) :
    s.trace.retired.length ≤ k ∧
      ∀ i (hi : i < s.trace.retired.length),
        s.trace.retired[i] = (completionCycle cpu i, retirementAt cpu i) := by
  have hcycles : s.trace.retired.map Prod.fst <+: (List.range k).map (completionCycle cpu) := by
    rw [← h.due_cycles]
    exact List.prefix_append _ _
  have hrecords : s.trace.retired.map Prod.snd <+: (List.range k).map (retirementAt cpu) := by
    rw [← retired_machineAt hprogram k h.ran, ← h.view]
    exact ((extends_drained s).trans (extends_setPc _ _)).retired
  have hlength : s.trace.retired.length ≤ k := by
    simpa using hcycles.length_le
  refine ⟨hlength, ?_⟩
  intro i hi
  have hik : i < k := hi.trans_le hlength
  have hcycle := hcycles.getElem (by simpa using hi)
  have hrecord := hrecords.getElem (by simpa using hi)
  simp only [List.getElem_map, List.getElem_range] at hcycle hrecord
  exact Prod.ext hcycle hrecord

/-- What is behind ID completes by its slot. -/
lemma mem_pendingCycles {c : ℕ} (h : c ∈ pendingCycles e) :
    c = e.cycle + 1 ∨ c = e.cycle + 2 ∨
      c = e.cycle + 3 + e.cycle % 2 ∧ e.exStage.reg.valid = true := by
  simp only [pendingCycles] at h
  rcases List.mem_append.mp h with h | hex
  · rcases List.mem_append.mp h with hwb | hmem
    · exact Or.inl (mem_ifValid_singleton hwb)
    · exact Or.inr (Or.inl (mem_ifValid_singleton hmem))
  · exact Or.inr (Or.inr ⟨mem_ifValid_singleton hex, (mem_ifValid hex).1⟩)

/-- What is still behind ID retires in a later cycle. -/
lemma cycle_lt_of_mem_pendingCycles {c : ℕ} (h : c ∈ pendingCycles e) : e.cycle < c := by
  rcases mem_pendingCycles h with rfl | rfl | ⟨rfl, -⟩ <;> omega

lemma OnTime.cycle_lt_of_pending {k : ℕ} {s : Simulation} (h : OnTime cpu k s) {i : ℕ}
    (hi : s.trace.retired.length ≤ i) (hik : i < k) : s.engine.cycle < completionCycle cpu i := by
  have hget : (timeline s)[i]? = some (completionCycle cpu i) := by
    rw [h.due_cycles, List.getElem?_map, List.getElem?_range hik]
    rfl
  rw [timeline, List.getElem?_append_right (by simpa using hi)] at hget
  exact cycle_lt_of_mem_pendingCycles (List.mem_of_getElem? hget)

lemma cycle_lt_dueCycle (e : PipelineEngine) : e.cycle < dueCycle e := by
  simp only [dueCycle]
  omega

/-- There is work exactly while something is left behind ID or the sequential machine runs on. -/
lemma InStep.hasWork_iff {s : Simulation} (h : InStep s) :
    s.hasWork = true ↔ pendingCycles s.engine ≠ [] ∨ running (sequentialView s).cpu = true := by
  have hwork : s.hasWork = true ↔ s.cpu.pc < s.cpu.instructionCount.toUInt32 ∨
      s.engine.ifStage.reg.valid = true ∨ s.engine.idStage.reg.valid = true ∨
      s.engine.exStage.reg.valid = true ∨ s.engine.memStage.reg.valid = true ∨
      s.engine.wbStage.reg.valid = true := by
    simp [Simulation.hasWork, h.target, pipelineHasWork, slotIsEmpty, or_assoc]
  have hpending : pendingCycles s.engine ≠ [] ↔ s.engine.exStage.reg.valid = true ∨
      s.engine.memStage.reg.valid = true ∨ s.engine.wbStage.reg.valid = true := by
    simp only [pendingCycles, ifValid]
    cases s.engine.exStage.reg.valid <;> cases s.engine.memStage.reg.valid <;>
      cases s.engine.wbStage.reg.valid <;> simp
  rw [hwork, hpending, running_view, decide_eq_true_iff]
  cases hex : s.engine.exStage.reg.valid with
  | true => simp
  | false =>
    have hnone := takenTarget_of_empty hex
    cases hid : s.engine.idStage.reg.valid with
    | true => simpa [resumePc_of_id hnone hid] using Or.inr (h.order.id hid).1.inside
    | false =>
      cases hif : s.engine.ifStage.reg.valid with
      | true => simpa [resumePc, hnone, hid, hif] using Or.inr (h.order.ifs hif).1.inside
      | false =>
        rw [resumePc_of_empty hnone hid hif]
        simp only [Bool.false_eq_true, false_or]
        exact or_comm

/-- The loop ends because there is no work left, or because its rounds are used up. -/
lemma simulate_exit (n : ℕ) (cpu : CPU) :
    (simulate n cpu none).hasWork = false ∨ (simulate n cpu none).engine.cycle = n := by
  rcases boundedWhile_exit (fun s : Simulation => s.engine.cycle) simulateCycle_cycle n
    (Simulation.start cpu none) with hdone | hcycle
  · exact Or.inl hdone
  · exact Or.inr (hcycle.trans (Nat.zero_add n))

lemma simulate_cycle_le (n : ℕ) (cpu : CPU) : (simulate n cpu none).engine.cycle ≤ n :=
  (boundedWhile_count_le (fun s : Simulation => s.engine.cycle) simulateCycle_cycle n
    (Simulation.start cpu none)).trans (Nat.zero_add n).le

/-- After `n` cycles exactly the instructions that are due by then have retired. -/
lemma retired_simulate (hprogram : Formatted cpu) (n i : ℕ) :
    (simulate n cpu none).trace.retired[i]? =
      if running (machineAt cpu i).cpu = true ∧ completionCycle cpu i ≤ n then
        some (completionCycle cpu i, retirementAt cpu i)
      else none := by
  obtain ⟨k, h⟩ := onTime_simulate hprogram n
  obtain ⟨hlength, hretired⟩ := h.retired_eq hprogram
  by_cases hi : i < (simulate n cpu none).trace.retired.length
  · have hin : completionCycle cpu i ≤ n := by
      have hmem : completionCycle cpu i ∈ (simulate n cpu none).trace.retired.map Prod.fst :=
        List.mem_map.mpr ⟨_, List.getElem_mem hi, by rw [hretired i hi]⟩
      exact (h.past _ hmem).trans (simulate_cycle_le n cpu)
    rw [if_pos ⟨h.ran i (hi.trans_le hlength), hin⟩, List.getElem?_eq_getElem hi, hretired i hi]
  · rw [List.getElem?_eq_none (not_lt.mp hi), if_neg]
    rintro ⟨hrun, hdue⟩
    have hlate : (simulate n cpu none).engine.cycle < completionCycle cpu i := by
      by_cases hik : i < k
      · exact h.cycle_lt_of_pending (not_lt.mp hi) hik
      · have hki : k ≤ i := not_lt.mp hik
        have hnext := h.next_due (running_of_running_later hki hrun)
        calc (simulate n cpu none).engine.cycle
            < dueCycle (simulate n cpu none).engine := cycle_lt_dueCycle _
          _ = completionCycle cpu k := hnext.symm
          _ ≤ completionCycle cpu i := (completionCycle_strictMono cpu).monotone hki
    rcases simulate_exit n cpu with hdone | hcycle
    · have hwork := h.toInStep.hasWork_iff
      rw [hdone, h.view] at hwork
      simp only [Bool.false_eq_true, false_iff, not_or, not_not] at hwork
      by_cases hik : i < k
      · have hcount : (timeline (simulate n cpu none)).length = k := by
          rw [h.due_cycles, List.length_map, List.length_range]
        rw [timeline, hwork.1, List.append_nil, List.length_map] at hcount
        omega
      · exact hwork.2 (running_of_running_later (not_lt.mp hik) hrun)
    · omega

/-- The cycle in which a machine that halts after `k` instructions is done. -/
def haltCycle (cpu : CPU) (k : ℕ) : ℕ :=
  if k = 0 then 0 else completionCycle cpu (k - 1)

/-- The loop does not run past the last completion. -/
lemma no_work_after_halt (hprogram : Formatted cpu) {k n : ℕ}
    (hhalt : running (machineAt cpu k).cpu = false) (hn : haltCycle cpu k ≤ n) :
    (simulate n cpu none).hasWork = false := by
  obtain ⟨j, h⟩ := onTime_simulate hprogram n
  have hjk : j ≤ k := by
    by_contra hlt
    exact absurd (h.ran k (not_le.mp hlt)) (by simp [hhalt])
  rcases simulate_exit n cpu with hdone | hcycle
  · exact hdone
  · by_contra hwork
    have hbefore : ∀ i, i < k → completionCycle cpu i ≤ n := by
      intro i hi
      rw [haltCycle, if_neg (by omega)] at hn
      exact ((completionCycle_strictMono cpu).monotone (by omega)).trans hn
    rcases h.toInStep.hasWork_iff.mp (by simpa using hwork) with hpending | hrun
    · have hlonger : (simulate n cpu none).trace.retired.length < j := by
        have hcount : (timeline (simulate n cpu none)).length = j := by
          rw [h.due_cycles, List.length_map, List.length_range]
        rw [timeline, List.length_append, List.length_map] at hcount
        have := List.length_pos_iff.mpr hpending
        omega
      have hlate := h.cycle_lt_of_pending (Nat.le_refl _) hlonger
      have := hbefore _ (hlonger.trans_le hjk)
      omega
    · rw [h.view] at hrun
      have hlt : j < k := by
        refine lt_of_le_of_ne hjk ?_
        rintro rfl
        exact absurd hrun (by simp [hhalt])
      have hnext := h.next_due hrun
      have := cycle_lt_dueCycle (simulate n cpu none).engine
      have := hbefore j hlt
      omega

lemma simulate_cycle_of_halt (hprogram : Formatted cpu) {k n : ℕ}
    (hran : ∀ i < k, running (machineAt cpu i).cpu = true)
    (hhalt : running (machineAt cpu k).cpu = false) (hn : haltCycle cpu k ≤ n) :
    (simulate n cpu none).engine.cycle = haltCycle cpu k := by
  have hearly : simulate n cpu none = simulate (haltCycle cpu k) cpu none :=
    boundedWhile_of_exit hn (no_work_after_halt hprogram hhalt (Nat.le_refl _))
  rw [hearly]
  refine Nat.le_antisymm (simulate_cycle_le _ cpu) ?_
  cases k with
  | zero => exact Nat.zero_le _
  | succ k =>
    have hlast := retired_simulate hprogram (haltCycle cpu (k + 1)) k
    rw [if_pos ⟨hran k (Nat.lt_succ_self k), Nat.le_refl _⟩] at hlast
    obtain ⟨j, h⟩ := onTime_simulate hprogram (haltCycle cpu (k + 1))
    exact h.past _ (List.mem_map.mpr ⟨_, List.mem_of_getElem? hlast, rfl⟩)

/-- Every instruction of the sequential run completes WB exactly when the recurrence says, as far as
the bound on the cycles allows, and the loop of a program that halts ends with its last completion:
no instruction is left in a slot and no hold on the fetch is left behind. -/
theorem pipeline_timing (cpu : CPU) (options : PipelineSimOptions) (hprogram : Formatted cpu) :
    (∀ i, (pipelineSimRun cpu none options).trace.retired[i]? =
      if running (machineAt cpu i).cpu = true ∧ completionCycle cpu i ≤ options.cycleBound then
        some (completionCycle cpu i, retirementAt cpu i)
      else none) ∧
    (∀ k, (∀ i < k, running (machineAt cpu i).cpu = true) →
      running (machineAt cpu k).cpu = false → haltCycle cpu k ≤ options.cycleBound →
      let e := (pipelineSimRun cpu none options).engine
      e.cycle = haltCycle cpu k ∧ e.waitForTakenBranchMem = false ∧
        ∀ kind, slotIsEmpty (e.stage kind) = true) := by
  refine ⟨fun i => retired_simulate hprogram _ i, ?_⟩
  intro k hran hhalt hbound
  have hdone := no_work_after_halt hprogram hhalt hbound
  have hempty : ∀ kind, slotIsEmpty ((pipelineSimRun cpu none options).engine.stage kind) =
      true := by
    intro kind
    simp only [Simulation.hasWork, pipelineHasWork, Bool.or_eq_false_iff, Bool.not_eq_false']
      at hdone
    obtain ⟨⟨⟨⟨⟨-, hif⟩, hid⟩, hex⟩, hmem⟩, hwb⟩ := hdone
    cases kind <;> assumption
  refine ⟨simulate_cycle_of_halt hprogram hran hhalt hbound, ?_, hempty⟩
  have hwait := (scheduled_simulate options.cycleBound cpu).occupancy.wait_iff
  rw [← Bool.not_eq_true]
  refine mt hwait.mp ?_
  rintro ⟨hmem, -⟩
  exact absurd ((hempty .stageMem).symm.trans hmem) (by decide)

/-- A load into R1 and an instruction that adds R1 to itself. -/
def loadUseProgram : CPU :=
  { cpuReset with
    memory := fun i =>
      if i.val = 0 then UInt32.toInt32 0xA0800400
      else if i.val = 1 then UInt32.toInt32 0x01042000
      else 0
    instructionCount := 2 }

lemma formatted_loadUseProgram : Formatted loadUseProgram := by
  intro a ha
  have hlt : a.toNat < 2 := UInt32.lt_iff_toNat_lt.mp ha
  have hcases : a = 0 ∨ a = 1 := by
    rw [← UInt32.toNat_inj, ← UInt32.toNat_inj]
    show a.toNat = 0 ∨ a.toNat = 1
    omega
  rcases hcases with rfl | rfl <;> decide

theorem pipeline_timing_loadUseProgram :
    (pipelineSimRun loadUseProgram none ⟨true, 100⟩).trace.retired[1]? =
      some (11, retirementAt loadUseProgram 1) ∧
    (pipelineSimRun loadUseProgram none ⟨true, 100⟩).engine.cycle = 11 := by
  obtain ⟨hretired, hhalt⟩ := pipeline_timing loadUseProgram ⟨true, 100⟩ formatted_loadUseProgram
  have hcycle : completionCycle loadUseProgram 1 = 11 := by decide
  constructor
  · rw [hretired 1, if_pos (by decide), hcycle]
  · exact (hhalt 2 (by decide) (by decide) (by decide)).1.trans hcycle

end Fillet
