import Fillet.Output.Accounting
import Fillet.Pipeline.Precise

/-!
# The execution log

EX, MEM and WB work on different instructions in a cycle. Nevertheless their lines come instruction
by instruction, first those of EX, then those of MEM and then those of WB, with the values that the
sequential machine computes.
-/

namespace Fillet

open BoundedLoop

variable {cpu c : CPU} {e : PipelineEngine} {t : Trace}

/-- The lines about the execution of an instruction. The fetch is none of its concerns; of the
inputs of EX the second may be out of date where the instruction does not use it. -/
def Message.executes : Message → Bool
  | .ifOutput _ _ | .exInputs _ _ _ _ | .updatingPc _ _ | .flushed _ _ => false
  | m => m.topic = .stage ∨ m.topic = .update

def executionLines (messages : List Message) : List Message :=
  messages.filter Message.executes

/-- A run with one occupied slot. -/
def alone (cpu : CPU) (kind : StageKind) (reg : PipelineRegister) : Simulation :=
  ⟨cpu, none, PipelineEngine.zeroed.setStage kind (setSlot reg 1), .empty⟩

@[simp] lemma alone_target (cpu : CPU) (kind : StageKind) (reg : PipelineRegister) :
    (alone cpu kind reg).target = cpu := rfl

@[simp] lemma alone_exStage (cpu : CPU) (reg : PipelineRegister) :
    (alone cpu .stageEx reg).engine.exStage.reg = reg := rfl

@[simp] lemma alone_memStage (cpu : CPU) (reg : PipelineRegister) :
    (alone cpu .stageMem reg).engine.memStage.reg = reg := rfl

@[simp] lemma alone_wbStage (cpu : CPU) (reg : PipelineRegister) :
    (alone cpu .stageWb reg).engine.wbStage.reg = reg := rfl

/-- What EX, MEM and WB print about an instruction. -/
def exPrints (cpu : CPU) (reg : PipelineRegister) : List Message :=
  executionLines (completeExOutput (alone cpu .stageEx reg))

def memPrints (cpu : CPU) (reg : PipelineRegister) : List Message :=
  executionLines (completeMemOutput (alone cpu .stageMem reg))

def wbPrints (cpu : CPU) (reg : PipelineRegister) : List Message :=
  executionLines (completeWbOutput (alone cpu .stageWb reg))

/-- MEM and WB of an instruction, one after the other. -/
def finishPrints (cpu : CPU) (reg : PipelineRegister) : List Message :=
  memPrints cpu reg ++ wbPrints (memResult cpu reg).2 (memResult cpu reg).1

/-- EX, MEM and WB of an instruction. -/
def executionPrints (cpu : CPU) (reg : PipelineRegister) : List Message :=
  exPrints cpu reg ++ finishPrints cpu (exResult reg)

/-- The lines for the `i`-th instruction of the sequential machine; a word without a format is not
executed. -/
def executionAt (cpu : CPU) (i : ℕ) : List Message :=
  if running (machineAt cpu i).cpu && (instructionAt cpu i).valid then
    executionPrints (machineAt cpu i).cpu (instructionAt cpu i)
  else []

/-- The lines for the first `k` instructions. -/
def executionLog (cpu : CPU) (k : ℕ) : List Message :=
  (List.range k).flatMap (executionAt cpu)

/-! ### Lines -/

@[simp] lemma executionLines_append (messages messages' : List Message) :
    executionLines (messages ++ messages') = executionLines messages ++ executionLines messages' :=
  List.filter_append ..

lemma OnTopics.executionLines_eq_nil {topics : List Topic} {messages : List Message}
    (h : OnTopics topics messages)
    (htopics : ∀ topic ∈ topics, topic ≠ .stage ∧ topic ≠ .update) :
    executionLines messages = [] := by
  rw [executionLines, List.filter_eq_nil_iff]
  intro m hm
  have hne := htopics _ (h m hm)
  simp only [Message.executes]
  split
  all_goals simp [hne]

lemma executionLines_ifValid (slot : StageSlot) (messages : List Message) :
    executionLines (ifValid slot messages) = ifValid slot (executionLines messages) := by
  simp only [ifValid]
  split_ifs <;> rfl

lemma executionLines_fetchLines (cpu : CPU) (e : PipelineEngine) :
    executionLines (fetchLines cpu e) = [] := by
  simp only [fetchLines]
  split_ifs
  · rw [executionLines_append, (topics_memoryFetch _).executionLines_eq_nil (by simp)]
    rfl
  · rfl
  · rfl

lemma executionLines_ifLines (cpu : CPU) (e : PipelineEngine) :
    executionLines (ifLines cpu e) = [] := by
  simp only [ifLines]
  split_ifs <;> rfl

lemma executionLines_idLines (cpu : CPU) (e : PipelineEngine) :
    executionLines (idLines cpu e) = [] := by
  rw [idLines, executionLines_ifValid, (topics_id _).executionLines_eq_nil (by simp)]
  simp only [ifValid, ite_self]

lemma executionLines_memLines (cpu : CPU) (e : PipelineEngine) :
    executionLines (memLines cpu e) = ifValid e.memStage (memPrints cpu e.memStage.reg) :=
  executionLines_ifValid _ _

lemma executionLines_wbLines (cpu : CPU) (e : PipelineEngine) :
    executionLines (wbLines cpu e) = ifValid e.wbStage (wbPrints cpu e.wbStage.reg) :=
  executionLines_ifValid _ _

/-- The line that names the old program counter is none about the execution. -/
lemma executionLines_branchTarget (pc pc' : UInt32) (reg : PipelineRegister) :
    executionLines (branchTargetOutput pc reg) = executionLines (branchTargetOutput pc' reg) := by
  simp only [branchTargetOutput]
  split
  · split_ifs <;> rfl
  · split_ifs <;> rfl
  · rfl

lemma executionLines_flush (engine : PipelineEngine) :
    executionLines (flushOutput engine) = [] := by
  simp only [flushOutput]
  split_ifs <;> rfl

/-- What EX prints about an instruction depends on the instruction alone. -/
lemma executionLines_completeEx {s s' : Simulation}
    (h : s.engine.exStage.reg = s'.engine.exStage.reg) :
    executionLines (completeExOutput s) = executionLines (completeExOutput s') := by
  simp only [completeExOutput, executionLines_append]
  rw [h]
  congr 2
  split_ifs
  · rw [executionLines_append, executionLines_append, executionLines_branchTarget s.target.pc]
    congr 1
    split
    · rfl
    · rw [executionLines_append, executionLines_append, executionLines_flush, executionLines_flush]
  · rfl

lemma executionLines_exLines (cpu c : CPU) (e : PipelineEngine) :
    executionLines (exLines c e) = ifValid e.exStage (exPrints cpu e.exStage.reg) := by
  rw [exLines, executionLines_ifValid, exPrints]
  exact congrArg (ifValid e.exStage) (executionLines_completeEx rfl)

/-! ### The program counter does not matter -/

lemma memPrints_setPc (cpu : CPU) (reg : PipelineRegister) (w : UInt32) :
    memPrints (cpu.setPc w) reg = memPrints cpu reg := by
  have hread : readMemoryOutput (cpu.setPc w) reg.address = readMemoryOutput cpu reg.address := rfl
  have hwrite : commitMemoryWriteOutput (cpu.setPc w) reg.address reg.memoryData =
      commitMemoryWriteOutput cpu reg.address reg.memoryData := by
    simp only [commitMemoryWriteOutput, writeMemory_setPc]
    rfl
  simp only [memPrints, completeMemOutput, alone_memStage, alone_target, readMemory_setPc, hread,
    hwrite]
  rfl

lemma wbPrints_setPc (cpu : CPU) (reg : PipelineRegister) (w : UInt32) :
    wbPrints (cpu.setPc w) reg = wbPrints cpu reg := by
  have hcommit : ∀ value, commitRegisterWriteOutput (cpu.setPc w) reg.r1 value "WB" =
      commitRegisterWriteOutput cpu reg.r1 value "WB" := by
    intro value
    simp only [commitRegisterWriteOutput, writeRegister_setPc]
    rfl
  simp only [wbPrints, completeWbOutput, alone_wbStage, alone_target, hcommit]
  rfl

lemma finishPrints_setPc (cpu : CPU) (reg : PipelineRegister) (w : UInt32) :
    finishPrints (cpu.setPc w) reg = finishPrints cpu reg := by
  rw [finishPrints, memPrints_setPc, memResult_setPc, wbPrints_setPc, finishPrints]

lemma executionPrints_setPc (cpu : CPU) (reg : PipelineRegister) (w : UInt32) :
    executionPrints (cpu.setPc w) reg = executionPrints cpu reg := by
  rw [executionPrints, finishPrints_setPc]
  congr 1
  exact executionLines_completeEx rfl

/-! ### An ignored operand does not matter -/

section Operand2

variable {reg : PipelineRegister}

/-- The instructions that ignore their second operand neither branch nor store, and write back what
they load. -/
lemma Decoded.control_of_ignores (h : Decoded reg) (hop : ignoresOperand2 reg.opcode = true) :
    reg.control.branch = false ∧ reg.control.jump = false ∧ reg.control.memWrite = false ∧
      reg.control.memToReg = reg.control.memRead := by
  rw [h.control]
  rcases (ignoresOperand2_iff reg.opcode).mp hop with hcode | hcode | hcode | hcode <;>
    rw [hcode] <;> exact ⟨rfl, rfl, rfl, rfl⟩

lemma exAluResult_operand2 (h : Decoded reg) (hop : ignoresOperand2 reg.opcode = true)
    (v : Int32) : exAluResult { reg with operand2 := v } = exAluResult reg := by
  have hcontrol := h.control
  rcases (ignoresOperand2_iff reg.opcode).mp hop with hcode | hcode | hcode | hcode <;>
    simp [exAluResult, hcontrol, hcode, opcodeAluOperation]

/-- Another second operand is at most handed on as the datum that a load replaces. -/
lemma exResult_operand2 (h : Decoded reg) (hop : ignoresOperand2 reg.opcode = true) (v : Int32) :
    ∃ d, exResult { reg with operand2 := v } =
      { exResult reg with operand2 := v, memoryData := d } := by
  simp only [exResult, exAluResult_operand2 h hop]
  split_ifs
  · exact ⟨v, rfl⟩
  · exact ⟨reg.memoryData, rfl⟩

/-- Without a branch EX prints its output and nothing else. -/
lemma exPrints_of_no_branch (hbranch : reg.control.branch = false)
    (hjump : reg.control.jump = false) (cpu : CPU) :
    exPrints cpu reg = [.exOutput (exResult reg).aluResult (exResult reg).address] := by
  have hshift : executionLines (shiftOutput reg) = [] :=
    (topics_shift reg).executionLines_eq_nil (by simp)
  simp only [exPrints, completeExOutput, alone_exStage, exResult_control, hbranch, hjump,
    executionLines_append, hshift, Bool.or_false, Bool.false_eq_true, if_false]
  rfl

/-- What a load replaces is not printed either. -/
lemma finishPrints_operand2 (cpu : CPU) (v d : Int32) (hwrite : reg.control.memWrite = false)
    (hload : reg.control.memToReg = reg.control.memRead) :
    finishPrints cpu { reg with operand2 := v, memoryData := d } = finishPrints cpu reg := by
  have hmem : memPrints cpu { reg with operand2 := v, memoryData := d } = memPrints cpu reg := by
    simp only [memPrints, completeMemOutput, alone_memStage, alone_target, hwrite]
    rfl
  rw [finishPrints, finishPrints, hmem]
  congr 1
  cases hread : reg.control.memRead with
  | true =>
    simp only [memResult, hread, if_true]
    rfl
  | false =>
    rw [hread] at hload
    simp only [memResult, hread, hwrite, Bool.false_eq_true, if_false, wbPrints, completeWbOutput,
      alone_wbStage, alone_target, hload]
    rfl

/-- A second operand that the instruction does not use is not printed. -/
lemma executionPrints_operand2 (h : Decoded reg) (hop : ignoresOperand2 reg.opcode = true)
    (cpu : CPU) (v : Int32) :
    executionPrints cpu { reg with operand2 := v } = executionPrints cpu reg := by
  obtain ⟨hbranch, hjump, hwrite, hload⟩ := h.control_of_ignores hop
  obtain ⟨d, hresult⟩ := exResult_operand2 h hop v
  have hex : exPrints cpu { reg with operand2 := v } = exPrints cpu reg := by
    have hother : exPrints cpu { reg with operand2 := v } =
        [.exOutput (exResult { reg with operand2 := v }).aluResult
          (exResult { reg with operand2 := v }).address] :=
      @exPrints_of_no_branch { reg with operand2 := v } hbranch hjump cpu
    rw [hother, exPrints_of_no_branch hbranch hjump, hresult]
  rw [executionPrints, hex, hresult, finishPrints_operand2, executionPrints]
  · rwa [exResult_control]
  · rwa [exResult_control]

end Operand2

/-! ### Cycles -/

/-- What the instructions behind ID will still print. -/
def pendingExecution (s : Simulation) : List Message :=
  ifValid s.engine.wbStage (wbPrints s.cpu s.engine.wbStage.reg) ++
    ifValid s.engine.memStage (finishPrints (pastWb s).cpu s.engine.memStage.reg) ++
    ifValid s.engine.exStage (executionPrints (pastMem s).cpu s.engine.exStage.reg)

lemma executionLines_fetchedCpu (cpu : CPU) (e : PipelineEngine) :
    executionLines (wbLines (fetchedCpu cpu e) e) =
      ifValid e.wbStage (wbPrints cpu e.wbStage.reg) := by
  rw [executionLines_wbLines, fetchedCpu]
  split_ifs
  · rw [wbPrints_setPc]
  · rfl

/-- An odd cycle prints WB of one instruction and then EX of the next. -/
lemma FetchReady.executionLines (h : FetchReady e) (cpu c : CPU) :
    Fillet.executionLines (Fillet.cycleOutput ⟨cpu, none, e, t⟩) =
      ifValid e.wbStage (wbPrints cpu e.wbStage.reg) ++
        ifValid e.exStage (exPrints c e.exStage.reg) := by
  have hheader : Fillet.executionLines (headerLine cpu e) = [] := rfl
  have hline : Fillet.executionLines (stallLine e) = [] := rfl
  rcases odd_cycle_cases e with ⟨hv, a, htaken⟩ | hstall | ⟨hstall, hnone⟩
  · rw [odd_output_taken h hv htaken]
    simp [hheader, executionLines_fetchLines, executionLines_fetchedCpu, executionLines_exLines c]
  · rw [odd_output_stalled h hstall]
    simp [hheader, hline, executionLines_fetchLines, executionLines_fetchedCpu,
      executionLines_exLines c, executionLines_ifLines]
  · rw [odd_output_flow h hstall hnone]
    simp [hheader, executionLines_fetchLines, executionLines_fetchedCpu,
      executionLines_exLines c, executionLines_idLines, executionLines_ifLines]

/-- An even cycle prints MEM. -/
lemma FetchIdle.executionLines (h : FetchIdle e) :
    Fillet.executionLines (Fillet.cycleOutput ⟨cpu, none, e, t⟩) =
      ifValid e.memStage (memPrints cpu e.memStage.reg) := by
  have hheader : Fillet.executionLines (headerLine cpu e) = [] := rfl
  have hfetch : Fillet.executionLines [.noFetch (some .fetchCadence)] = [] := rfl
  have hhazard : Fillet.executionLines (hazardOutput (evaluateIdHazard e)) = [] :=
    (topics_hazard _).executionLines_eq_nil (by simp)
  rw [even_output h, executionLines_append, executionLines_append, executionLines_append, hheader,
    hfetch, hhazard, executionLines_memLines]
  rfl

/-- What an odd cycle prints is no longer pending, and what enters EX is. -/
lemma FetchReady.pendingExecution (h : FetchReady e) :
    Fillet.executionLines (Fillet.cycleOutput ⟨cpu, none, e, t⟩) ++
        Fillet.pendingExecution (simulateCycle ⟨cpu, none, e, t⟩) =
      Fillet.pendingExecution ⟨cpu, none, e, t⟩ ++
        ifValid (simulateCycle ⟨cpu, none, e, t⟩).engine.exStage
          (executionPrints (Fillet.drained ⟨cpu, none, e, t⟩).cpu
            (simulateCycle ⟨cpu, none, e, t⟩).engine.exStage.reg) := by
  obtain ⟨w, hwritten, -, haccessed⟩ := h.places cpu t
  obtain ⟨-, -, hwb, hmem⟩ := h.moved cpu t
  have hbefore : pastMem ⟨cpu, none, e, t⟩ = pastWb ⟨cpu, none, e, t⟩ :=
    drainMem_of_empty h.mem _
  have hmoved : ifValid (simulateCycle ⟨cpu, none, e, t⟩).engine.memStage
      (finishPrints (pastWb ⟨cpu, none, e, t⟩).cpu
        (simulateCycle ⟨cpu, none, e, t⟩).engine.memStage.reg) =
      ifValid e.exStage (finishPrints (pastWb ⟨cpu, none, e, t⟩).cpu (exResult e.exStage.reg)) := by
    rw [hmem]
    split_ifs with hv
    · simp [ifValid, hv]
    · rw [ifValid_of_empty h.mem, ifValid_of_empty (Bool.eq_false_iff.mpr hv)]
  have hexecuted : ifValid e.exStage
      (executionPrints (pastWb ⟨cpu, none, e, t⟩).cpu e.exStage.reg) =
      ifValid e.exStage (exPrints (pastWb ⟨cpu, none, e, t⟩).cpu e.exStage.reg) ++
        ifValid e.exStage
          (finishPrints (pastWb ⟨cpu, none, e, t⟩).cpu (exResult e.exStage.reg)) := by
    simp only [ifValid, executionPrints]
    split_ifs <;> rfl
  rw [h.executionLines cpu (pastWb ⟨cpu, none, e, t⟩).cpu, Fillet.pendingExecution,
    Fillet.pendingExecution, hwb, ifValid_of_empty (vacated_valid _), hwritten, haccessed,
    Sequential.setPc_cpu, Sequential.setPc_cpu, finishPrints_setPc, executionPrints_setPc, hmoved]
  dsimp only
  rw [ifValid_of_empty h.mem, hbefore, hexecuted]
  simp only [List.append_assoc, List.nil_append]

/-- What an even cycle prints is no longer pending. -/
lemma FetchIdle.pendingExecution (h : FetchIdle e) :
    Fillet.executionLines (Fillet.cycleOutput ⟨cpu, none, e, t⟩) ++
        Fillet.pendingExecution (simulateCycle ⟨cpu, none, e, t⟩) =
      Fillet.pendingExecution ⟨cpu, none, e, t⟩ := by
  obtain ⟨hwritten, haccessed⟩ := h.places cpu t
  have hpast : pastWb ⟨cpu, none, e, t⟩ = history ⟨cpu, none, e, t⟩ := drainWb_of_empty h.wb _
  rw [h.executionLines, Fillet.pendingExecution, Fillet.pendingExecution, haccessed, hpast,
    even_cycle h]
  dsimp only
  have hex : ifValid (counted e.exStage) = (ifValid e.exStage : List Message → List Message) := by
    funext messages
    simp only [ifValid, counted_reg]
  rw [ifValid_of_empty (vacated_valid _), ifValid_of_empty h.wb, counted_reg, hex]
  cases hmem : e.memStage.reg.valid with
  | true => simp [ifValid, hmem, memAccessed, finishPrints, history]
  | false => simp [ifValid, hmem, h.wb]

/-! ### The run -/

/-- What enters EX prints what the sequential machine prints for the instruction. -/
lemma FetchReady.executionAt_issue {k : ℕ} (h : FetchReady e) (horder : FetchedInOrder c e)
    (hview : sequentialView ⟨c, none, e, t⟩ = machineAt cpu k)
    (hstall : (evaluateIdHazard e).stalled = false) (hnone : takenTarget e.exStage = none)
    (hid : e.idStage.reg.valid = true) :
    ifValid (simulateCycle ⟨c, none, e, t⟩).engine.exStage
        (executionPrints (Fillet.drained ⟨c, none, e, t⟩).cpu
          (simulateCycle ⟨c, none, e, t⟩).engine.exStage.reg) = executionAt cpu k := by
  have hrun := running_machineAt_of_id horder hview hnone hid
  have hex := h.exStage_issue c t hstall hnone hid
  have hinstruction := instructionAt_of_id horder hview hnone hid
  have hcpu : (machineAt cpu k).cpu =
      (Fillet.drained ⟨c, none, e, t⟩).cpu.setPc (resumePc c e) := by
    rw [← hview]
    rfl
  rw [executionAt, hrun, Bool.true_and, hcpu, executionPrints_setPc, hex, hinstruction,
    latchOperands_valid, ← hinstruction]
  split_ifs with hvalid
  · rw [ifValid, setSlot_reg, if_pos (by rw [latchedId_valid, hvalid])]
    rcases h.latched_instructionAt horder hview hstall hnone hid hvalid with
      hsame | ⟨hop, v, hsame⟩
    · rw [hsame]
    · rw [hsame, executionPrints_operand2 ?_ hop]
      rw [hinstruction]
      exact (decoded_decodeRawInstruction _).latchOperands _
  · exact ifValid_of_empty (vacated_valid _) _

/-- The execution lines are printed along with the steps of the sequential machine. -/
lemma execution_simulation (cpu : CPU) :
    PrintingSimulation InStep Simulation.hasWork simulateCycle
      (fun s => executionLines (cycleOutput s)) sequentialView (machineAt cpu) pendingExecution
      (executionAt cpu) where
  preserves _ h _ := h.next
  matched s k hin _ hview := by
    obtain ⟨c, e, t, rfl, hready | hidle⟩ := hin.toScheduled.shape
    · have hprinted := @FetchReady.pendingExecution c e t hready
      rcases hready.issue_cases c t with ⟨hstall, hnone, hid⟩ | ⟨-, hkept, hex⟩
      · refine Or.inr ⟨hready.view_machineAt hin.order hview hstall hnone hid, ?_⟩
        rw [← hready.executionAt_issue hin.order hview hstall hnone hid]
        exact hprinted
      · rw [ifValid_of_empty hex, List.append_nil] at hprinted
        exact Or.inl ⟨hkept.trans hview, hprinted⟩
    · exact Or.inl ⟨hidle.view.trans hview, hidle.pendingExecution⟩

/-- The lines of EX, MEM and WB are the beginning of the execution log of the sequential machine:
one instruction after the other, although three of them are under way at a time. If the run has
ended by itself, they are the whole log. -/
theorem printed_execution (cpu : CPU) (n : ℕ) :
    (∃ k, executionLines (simulateOutput n cpu none) <+: executionLog cpu k) ∧
    ((simulate n cpu none).hasWork = false → ∀ k, running (machineAt cpu k).cpu = false →
      executionLines (simulateOutput n cpu none) = executionLog cpu k) := by
  have hempty : ∀ s : Simulation, s.engine.exStage.reg.valid = false →
      s.engine.memStage.reg.valid = false → s.engine.wbStage.reg.valid = false →
      pendingExecution s = [] := by
    intro s hex hmem hwb
    rw [pendingExecution, ifValid_of_empty hex, ifValid_of_empty hmem, ifValid_of_empty hwb]
    rfl
  rw [simulateOutput, image_boundedLog rfl executionLines_append]
  refine printed_along (execution_simulation cpu) hempty (fun i hhalt => ?_) n
  rw [executionAt, hhalt, Bool.false_and, if_neg Bool.false_ne_true]

end Fillet
