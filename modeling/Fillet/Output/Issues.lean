import Fillet.Output.Accounting

/-!
# The issue log

The lines about decoding, stalls and redirected fetches follow the sequential machine, too: one line
for each instruction in order, behind it the two stalls of a load that the next instruction uses, or
the new program counter of a branch that is taken.
-/

namespace Fillet

open BoundedLoop CString

variable {cpu c : CPU} {e : PipelineEngine} {t : Trace}

/-- The texts of the lines about decoding, stalls and redirected fetches. -/
def issueLines (messages : List Message) : List (List Char) :=
  (messages.filter fun m => m.topic = .decode ∨ m.topic = .hazard ∨ m.topic = .redirect).map
    (Message.text 0)

/-- The line for an instruction. -/
def decodeLine (reg : PipelineRegister) : List Char :=
  Message.text 0 (.idDecoded reg)

/-- The line for an instruction that waits for the load in a register. -/
def waitLine (load : PipelineRegister) : List Char :=
  Message.text 0 (.stall load.r1 "waiting for MOVR load result from EX")

/-- The line for a branch that is taken. -/
def redirectLine (target : UInt32) : List Char :=
  Message.text 0 (.pcUpdated target)

/-- The lines for the `i`-th instruction of the sequential machine. -/
def issueAt (cpu : CPU) (i : ℕ) : List (List Char) :=
  if running (machineAt cpu i).cpu then
    decodeLine (instructionAt cpu i) ::
      ((if loadUseAt cpu i then List.replicate 2 (waitLine (instructionAt cpu i)) else []) ++
        (calculateBranchTarget (instructionAt cpu i)).toList.map redirectLine)
  else []

/-- The lines for the first `k` instructions. -/
def issueLog (cpu : CPU) (k : ℕ) : List (List Char) :=
  (List.range k).flatMap (issueAt cpu)

/-! ### Lines on other topics -/

@[simp] lemma issueLines_append (messages messages' : List Message) :
    issueLines (messages ++ messages') = issueLines messages ++ issueLines messages' := by
  rw [issueLines, List.filter_append, List.map_append]
  rfl

lemma OnTopics.issueLines_eq_nil {topics : List Topic} {messages : List Message}
    (h : OnTopics topics messages)
    (htopics : ∀ topic ∈ topics, topic ≠ .decode ∧ topic ≠ .hazard ∧ topic ≠ .redirect) :
    issueLines messages = [] := by
  rw [issueLines, List.map_eq_nil_iff, List.filter_eq_nil_iff]
  intro m hm
  have hne := htopics _ (h m hm)
  simp [hne]

/-- Without fetches and decoded instructions the issue lines are the control lines. -/
lemma OnTopics.issueLines_eq_control {topics : List Topic} {messages : List Message}
    (h : OnTopics topics messages) (htopics : ∀ topic ∈ topics, topic ≠ .decode ∧ topic ≠ .fetch) :
    issueLines messages = (controlLines messages).map (Message.text 0) := by
  rw [issueLines, controlLines]
  congr 1
  refine List.filter_congr fun m hm => ?_
  obtain ⟨hdecode, hfetch⟩ := htopics _ (h m hm)
  simp [hdecode, hfetch]

lemma issueLines_ifValid (slot : StageSlot) (messages : List Message) :
    issueLines (ifValid slot messages) = if slot.reg.valid then issueLines messages else [] := by
  simp only [ifValid]
  split_ifs <;> rfl

/-! ### The parts of a cycle -/

lemma issueLines_hazard (e : PipelineEngine) :
    issueLines (hazardOutput (evaluateIdHazard e)) =
      if (evaluateIdHazard e).stalled then [waitLine e.exStage.reg] else [] := by
  cases hstall : (evaluateIdHazard e).stalled with
  | false => rw [hazardOutput_of_not_stalled hstall]; rfl
  | true => rw [hazardOutput_of_stalled hstall]; rfl

lemma issueLines_fetchLines (cpu : CPU) (e : PipelineEngine) :
    issueLines (fetchLines cpu e) = [] := by
  simp only [fetchLines]
  split_ifs
  · rw [issueLines_append, (topics_memoryFetch _).issueLines_eq_nil (by simp)]
    rfl
  · rfl
  · rfl

lemma issueLines_wbLines (cpu : CPU) (e : PipelineEngine) : issueLines (wbLines cpu e) = [] := by
  rw [wbLines, issueLines_ifValid, (topics_wb _).issueLines_eq_nil (by simp), ite_self]

lemma issueLines_memLines (cpu : CPU) (e : PipelineEngine) : issueLines (memLines cpu e) = [] := by
  rw [memLines, issueLines_ifValid, (topics_mem _).issueLines_eq_nil (by simp), ite_self]

lemma issueLines_ifLines (cpu : CPU) (e : PipelineEngine) : issueLines (ifLines cpu e) = [] := by
  simp only [ifLines]
  split_ifs <;> rfl

lemma issueLines_idLines (cpu : CPU) (e : PipelineEngine) :
    issueLines (idLines cpu e) =
      if e.idStage.reg.valid then [decodeLine (latchedId cpu e)] else [] := by
  have hread : ∀ (engine : PipelineEngine) (registers : List Int),
      issueLines (registers.flatMap (readOperandOutput engine)) = [] := by
    intro engine registers
    have hquiet : OnTopics [.alarm] (registers.flatMap (readOperandOutput engine)) := by
      refine onTopics_flatMap _ fun r _ => ?_
      simp only [readOperandOutput]
      split_ifs <;> first
        | exact onTopics_nil _
        | exact topics_readRegister r
    exact hquiet.issueLines_eq_nil (by simp)
  rw [idLines, issueLines_ifValid, completeIdOutput, issueLines_append, hread]
  rfl

lemma FetchReady.issueLines_exLines (h : FetchReady e) (cpu : CPU) :
    issueLines (exLines cpu e) = (takenTarget e.exStage).toList.map redirectLine := by
  have htopics : OnTopics [.stage, .redirect, .alarm] (exLines cpu e) := by
    simp only [exLines, ifValid]
    split_ifs
    · exact topics_ex _
    · exact onTopics_nil _
  rw [htopics.issueLines_eq_control (by simp), h.controlLines_exLines, redirectLines, List.map_map]
  rfl

/-! ### Cycles -/

/-- The lines that EX will still cause. -/
def pendingIssue (e : PipelineEngine) : List (List Char) :=
  (if (evaluateIdHazard e).stalled then
    List.replicate (1 + e.cycle % 2) (waitLine e.exStage.reg)
  else []) ++ (takenTarget e.exStage).toList.map redirectLine

lemma pendingIssue_of_empty_ex (h : e.exStage.reg.valid = false) : pendingIssue e = [] := by
  rw [pendingIssue, not_stalled_of_empty_ex h, takenTarget_of_empty h]
  rfl

/-- An odd cycle prints what is pending, and then the instruction that leaves ID. -/
lemma FetchReady.issueLines (h : FetchReady e) :
    Fillet.issueLines (Fillet.cycleOutput ⟨cpu, none, e, t⟩) = pendingIssue e ++
      if (evaluateIdHazard e).stalled = false ∧ takenTarget e.exStage = none ∧
          e.idStage.reg.valid = true then [decodeLine (latchedId cpu e)] else [] := by
  have heven := h.cycle
  have hheader : Fillet.issueLines (headerLine cpu e) = [] := rfl
  rcases odd_cycle_cases e with ⟨hv, a, htaken⟩ | hstall | ⟨hstall, hnone⟩
  · have htarget : takenTarget e.exStage = some a := by rw [takenTarget, if_pos hv, htaken]
    have hstall : (evaluateIdHazard e).stalled = false := by
      rw [← Bool.not_eq_true]
      intro hstall
      rw [takenTarget_of_stalled hstall] at htarget
      exact absurd htarget (by simp)
    rw [odd_output_taken h hv htaken]
    simp [hheader, issueLines_fetchLines, issueLines_wbLines, h.issueLines_exLines, pendingIssue,
      hstall, htarget]
  · have hnone := takenTarget_of_stalled hstall
    have hline : Fillet.issueLines (stallLine e) = [waitLine e.exStage.reg] := rfl
    rw [odd_output_stalled h hstall]
    simp [hheader, issueLines_fetchLines, issueLines_wbLines, h.issueLines_exLines,
      issueLines_ifLines, pendingIssue, hline, hstall, hnone, heven]
  · rw [odd_output_flow h hstall hnone]
    simp [hheader, issueLines_fetchLines, issueLines_wbLines, h.issueLines_exLines,
      issueLines_idLines, issueLines_ifLines, pendingIssue, hstall, hnone]

/-- An even cycle prints one of the pending stalls. -/
lemma FetchIdle.issueLines (h : FetchIdle e) :
    Fillet.issueLines (Fillet.cycleOutput ⟨cpu, none, e, t⟩) ++
      pendingIssue (simulateCycle ⟨cpu, none, e, t⟩).engine = pendingIssue e := by
  have hodd := h.cycle
  have heven := h.next_even
  have hheader : Fillet.issueLines (headerLine cpu e) = [] := rfl
  have hfetch : Fillet.issueLines [.noFetch (some .fetchCadence)] = [] := rfl
  have htarget : takenTarget (counted e.exStage) = takenTarget e.exStage := by
    simp [takenTarget]
  rw [even_output h, even_cycle h]
  simp only [issueLines_append, hheader, hfetch, issueLines_hazard, issueLines_memLines,
    pendingIssue, stalled_counted, counted_reg, htarget, hodd, heven]
  split_ifs <;> rfl

/-! ### The run -/

/-- Operands are not part of the line. -/
lemma decodeLine_latchOperands (read : Int → Int32) (reg : PipelineRegister) :
    decodeLine (latchOperands read reg) = decodeLine reg := by
  have htext : ∀ reg : PipelineRegister, decodeLine reg =
      "  [ID] decoded ".toList ++ opcodeName reg.opcode ++ " r1=".toList ++ decimal reg.r1 ++
        " r2=".toList ++ decimal reg.r2 ++ " r3=".toList ++ decimal reg.r3 ++
        " imm=".toList ++ signed reg.immediate ++ " address=".toList ++ signed reg.address ++
        ['\n'] :=
    fun _ => rfl
  obtain ⟨hop, h1, h2, h3, himmediate, haddress⟩ : (latchOperands read reg).opcode = reg.opcode ∧
      (latchOperands read reg).r1 = reg.r1 ∧ (latchOperands read reg).r2 = reg.r2 ∧
      (latchOperands read reg).r3 = reg.r3 ∧
      (latchOperands read reg).immediate = reg.immediate ∧
      (latchOperands read reg).address = reg.address := by
    simp only [latchOperands]
    split <;> exact ⟨rfl, rfl, rfl, rfl, rfl, rfl⟩
  rw [htext, htext, hop, h1, h2, h3, himmediate, haddress]

/-- What an instruction that leaves ID leaves to be printed. -/
lemma FetchReady.pendingIssue_issue {k : ℕ} (h : FetchReady e) (horder : FetchedInOrder c e)
    (hview : sequentialView ⟨c, none, e, t⟩ = machineAt cpu k)
    (hstall : (evaluateIdHazard e).stalled = false) (hnone : takenTarget e.exStage = none)
    (hid : e.idStage.reg.valid = true) :
    decodeLine (latchedId c e) :: pendingIssue (simulateCycle ⟨c, none, e, t⟩).engine =
      issueAt cpu k := by
  have hrun := running_machineAt_of_id horder hview hnone hid
  have hstalls := h.stalled_loadUseAt horder hview hstall hnone hid
  have htaken := h.taken_instructionAt horder hview hstall hnone hid
  have hodd : (simulateCycle ⟨c, none, e, t⟩).engine.cycle % 2 = 1 := by
    rw [simulateCycle_cycle]
    exact h.next_odd
  have hinstruction := instructionAt_of_id horder hview hnone hid
  have hdecode : decodeLine (latchedId c e) = decodeLine (instructionAt cpu k) := by
    rw [hinstruction, decodeLine_latchOperands]
    exact decodeLine_latchOperands _ _
  have hwait : loadUseAt cpu k = true →
      waitLine (simulateCycle ⟨c, none, e, t⟩).engine.exStage.reg =
        waitLine (instructionAt cpu k) := by
    intro huse
    have hex := h.exStage_issue c t hstall hnone hid
    split_ifs at hex with hvalid
    · rw [hex, setSlot_reg, hinstruction, waitLine, waitLine, latchOperands_r1]
      exact congrArg _ (by rw [latchedId, latchDecodeOperands, latchOperands_r1])
    · rw [not_stalled_of_empty_ex (by rw [hex]; exact vacated_valid _)] at hstalls
      exact absurd (hstalls.trans huse) (by decide)
  rw [issueAt, if_pos hrun, hdecode, pendingIssue, hstalls, htaken, hodd]
  cases huse : loadUseAt cpu k with
  | false => rfl
  | true => rw [hwait huse]

/-- An odd cycle in which nothing leaves ID leaves nothing pending. -/
lemma FetchReady.issueLines_hold (h : FetchReady e)
    (hleft : ¬ ((evaluateIdHazard e).stalled = false ∧ takenTarget e.exStage = none ∧
      e.idStage.reg.valid = true))
    (hex : (simulateCycle ⟨cpu, none, e, t⟩).engine.exStage.reg.valid = false) :
    Fillet.issueLines (Fillet.cycleOutput ⟨cpu, none, e, t⟩) ++
      pendingIssue (simulateCycle ⟨cpu, none, e, t⟩).engine = pendingIssue e := by
  rw [h.issueLines, if_neg hleft, pendingIssue_of_empty_ex hex, List.append_nil, List.append_nil]

/-- The issue lines are printed along with the steps of the sequential machine. -/
lemma issue_simulation (cpu : CPU) :
    PrintingSimulation InStep Simulation.hasWork simulateCycle (fun s => issueLines (cycleOutput s))
      sequentialView (machineAt cpu) (fun s => pendingIssue s.engine) (issueAt cpu) where
  preserves _ h _ := h.next
  matched s k hin _ hview := by
    obtain ⟨c, e, t, rfl, hready | hidle⟩ := hin.toScheduled.shape
    · rcases hready.issue_cases c t with ⟨hstall, hnone, hid⟩ | ⟨hleft, hkept, hex⟩
      · refine Or.inr ⟨hready.view_machineAt hin.order hview hstall hnone hid, ?_⟩
        dsimp only
        rw [hready.issueLines, if_pos ⟨hstall, hnone, hid⟩, List.append_assoc,
          List.singleton_append, hready.pendingIssue_issue hin.order hview hstall hnone hid]
      · exact Or.inl ⟨hkept.trans hview, hready.issueLines_hold hleft hex⟩
    · exact Or.inl ⟨hidle.view.trans hview, hidle.issueLines⟩

/-- A machine that has halted issues nothing. -/
lemma issueAt_of_halted {i : ℕ} (hhalt : running (machineAt cpu i).cpu = false) :
    issueAt cpu i = [] := by
  rw [issueAt, hhalt, if_neg Bool.false_ne_true]

/-- The lines about decoding, stalls and redirected fetches are the beginning of the issue log of
the sequential machine, and the whole log if the run has ended by itself. -/
theorem printed_issues (cpu : CPU) (n : ℕ) :
    (∃ k, issueLines (simulateOutput n cpu none) <+: issueLog cpu k) ∧
    ((simulate n cpu none).hasWork = false → ∀ k, running (machineAt cpu k).cpu = false →
      issueLines (simulateOutput n cpu none) = issueLog cpu k) := by
  rw [simulateOutput, image_boundedLog rfl issueLines_append]
  exact printed_along (issue_simulation cpu) (fun _ hex _ _ => pendingIssue_of_empty_ex hex)
    (fun _ hhalt => issueAt_of_halted hhalt) n

end Fillet
