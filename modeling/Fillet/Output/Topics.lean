import Fillet.Model.Output

/-!
# What the lines are about

Every message has a topic, and every part of a cycle prints lines on few topics only.
-/

namespace Fillet

/-- The topics: the frame of the output, the fetch of a cycle, a stall, an instruction that is
decoded, a redirected fetch, a register or a memory cell that changes, what else the stages do, what
should not happen, and the final dump. -/
inductive Topic where
  | frame | fetch | hazard | decode | redirect | update | stage | alarm | dump
  deriving DecidableEq

/-- The topic of a message. A data address outside the segment is a fault of the program and no
alarm. -/
def Message.topic : Message → Topic
  | .startingSimulator | .loadingProgram _ | .parserMessage _ | .startingSimulation
  | .cycleHeader _ _ _ | .maxCyclesReached _ | .simulationFinished _ => .frame
  | .fetched _ _ _ | .noFetch _ => .fetch
  | .stall _ _ => .hazard
  | .idDecoded _ => .decode
  | .pcUpdated _ => .redirect
  | .registerUpdate _ _ _ _ | .memoryUpdate _ _ _ => .update
  | .ifOutput _ _ | .exInputs _ _ _ _ | .jeqCompares _ _ _ | .invalidJeqTarget _
  | .invalidJmpTarget _ | .jmpTarget _ | .updatingPc _ _ | .flushed _ _ | .exOutput _ _
  | .loaded _ _ | .stored _ _ | .noDataAccess | .branchReachedMem | .noRegisterWrite
  | .wroteLoad _ _ | .wroteAlu _ _ | .registerWritten _ _ | .zeroRegisterIgnored _
  | .dataReadOutside _ | .dataWriteOutside _ | .memoryRead _ _ | .memoryWritten _ _ => .stage
  | .invalidShift _ _ | .validation _ | .registerOutOfRange _ | .busyBeforeRead _
  | .busyBeforeWrite _ | .fetchOutside _ => .alarm
  | .finalState | .registerFile _ _ _ | .registerLine _ _ | .fullMemory | .memoryLine _ _ => .dump

/-- The messages are on the topics. -/
def OnTopics (topics : List Topic) (messages : List Message) : Prop :=
  ∀ m ∈ messages, m.topic ∈ topics

section Topics

variable {topics topics' : List Topic} {messages messages' : List Message} {s : Simulation}

lemma onTopics_nil (topics : List Topic) : OnTopics topics [] :=
  fun _ hm => absurd hm List.not_mem_nil

lemma onTopics_singleton {m : Message} (h : m.topic ∈ topics) : OnTopics topics [m] :=
  List.forall_mem_singleton.mpr h

lemma onTopics_cons {m : Message} (hm : m.topic ∈ topics) (h : OnTopics topics messages) :
    OnTopics topics (m :: messages) :=
  List.forall_mem_cons.mpr ⟨hm, h⟩

lemma OnTopics.append (h : OnTopics topics messages) (h' : OnTopics topics messages') :
    OnTopics topics (messages ++ messages') :=
  List.forall_mem_append.mpr ⟨h, h'⟩

lemma OnTopics.mono (h : OnTopics topics messages) (hsub : topics ⊆ topics') :
    OnTopics topics' messages :=
  fun m hm => hsub (h m hm)

lemma onTopics_flatMap {α : Type*} {f : α → List Message} (l : List α)
    (h : ∀ x ∈ l, OnTopics topics (f x)) : OnTopics topics (l.flatMap f) := by
  intro m hm
  obtain ⟨x, hx, hm⟩ := List.mem_flatMap.mp hm
  exact h x hx m hm

/-! ### Accessors -/

lemma topics_readRegister (reg : Int) : OnTopics [.alarm] (readRegisterOutput reg) := by
  simp only [readRegisterOutput]
  split_ifs
  · exact onTopics_singleton (by simp [Message.topic])
  · exact onTopics_nil _

lemma topics_writeRegister (reg : Int) (value : Int32) :
    OnTopics [.stage, .alarm] (writeRegisterOutput reg value) := by
  simp only [writeRegisterOutput]
  split_ifs <;> exact onTopics_singleton (by simp [Message.topic])

lemma topics_readMemory (target : CPU) (address : Int32) :
    OnTopics [.stage, .alarm] (readMemoryOutput target address) := by
  simp only [readMemoryOutput]
  split_ifs <;> simp [OnTopics, Message.topic]

lemma topics_writeMemory (target : CPU) (address value : Int32) :
    OnTopics [.stage, .alarm] (writeMemoryOutput target address value) := by
  simp only [writeMemoryOutput]
  split_ifs <;> simp [OnTopics, Message.topic]

lemma topics_memoryFetch (address : UInt32) : OnTopics [.alarm] (memoryFetchOutput address) := by
  simp only [memoryFetchOutput]
  split_ifs
  · exact onTopics_singleton (by simp [Message.topic])
  · exact onTopics_nil _

/-! ### Stages -/

lemma topics_id (s : Simulation) : OnTopics [.decode, .alarm] (completeIdOutput s) := by
  refine OnTopics.append (onTopics_flatMap _ fun r _ => ?_) (onTopics_singleton (by
    simp [Message.topic]))
  simp only [readOperandOutput]
  split_ifs <;> first
    | exact onTopics_nil _
    | exact (topics_readRegister r).mono (by simp)

lemma topics_flush (engine : PipelineEngine) : OnTopics [.stage] (flushOutput engine) := by
  simp only [flushOutput]
  split_ifs <;> simp [OnTopics, Message.topic]

lemma topics_branchTarget (oldPc : UInt32) (reg : PipelineRegister) :
    OnTopics [.stage] (branchTargetOutput oldPc reg) := by
  simp only [branchTargetOutput]
  split
  · split_ifs <;> simp [OnTopics, Message.topic]
  · split_ifs <;> simp [OnTopics, Message.topic]
  · exact onTopics_nil _

lemma topics_shift (reg : PipelineRegister) : OnTopics [.alarm] (shiftOutput reg) := by
  simp only [shiftOutput]
  split
  · split_ifs <;> simp [OnTopics, Message.topic]
  · split_ifs <;> simp [OnTopics, Message.topic]
  · exact onTopics_nil _

lemma topics_ex_of_shift (hstage : .stage ∈ topics) (hredirect : .redirect ∈ topics)
    (hshift : OnTopics topics (shiftOutput s.engine.exStage.reg)) :
    OnTopics topics (completeExOutput s) := by
  have hflush : OnTopics topics (flushOutput s.engine) :=
    (topics_flush s.engine).mono (by simpa using hstage)
  have hbranch : ∀ reg : PipelineRegister,
      OnTopics topics (branchTargetOutput s.target.pc reg) :=
    fun reg => (topics_branchTarget _ reg).mono (by simpa using hstage)
  simp only [completeExOutput]
  refine ((OnTopics.append ?_ hshift).append ?_).append ?_
  · exact onTopics_singleton hstage
  · split_ifs
    · refine (hbranch _).append ?_
      split
      · exact onTopics_nil _
      · exact hflush.append (onTopics_singleton hredirect)
    · exact onTopics_nil _
  · exact onTopics_singleton hstage

lemma topics_ex (s : Simulation) : OnTopics [.stage, .redirect, .alarm] (completeExOutput s) :=
  topics_ex_of_shift (by simp) (by simp) ((topics_shift _).mono (by simp))

lemma topics_commitMemoryWrite (target : CPU) (address value : Int32) :
    OnTopics [.stage, .update, .alarm] (commitMemoryWriteOutput target address value) := by
  refine ((topics_writeMemory _ _ _).mono (by simp)).append ?_
  split_ifs <;> simp [OnTopics, Message.topic]

lemma topics_mem (s : Simulation) : OnTopics [.stage, .update, .alarm] (completeMemOutput s) := by
  refine OnTopics.append ?_ ?_
  · split_ifs
    · exact ((topics_readMemory _ _).mono (by simp)).append (onTopics_singleton (by
        simp [Message.topic]))
    · exact (topics_commitMemoryWrite _ _ _).append (onTopics_singleton (by
        simp [Message.topic]))
    · exact onTopics_singleton (by simp [Message.topic])
  · split_ifs <;> simp [OnTopics, Message.topic]

lemma topics_commitRegisterWrite (target : CPU) (reg : Int) (value : Int32) (stage : String) :
    OnTopics [.stage, .update, .alarm] (commitRegisterWriteOutput target reg value stage) := by
  have hread : OnTopics [.stage, .update, .alarm] (readRegisterOutput reg) :=
    (topics_readRegister reg).mono (by simp)
  refine ((hread.append ((topics_writeRegister reg value).mono (by simp))).append hread).append ?_
  exact onTopics_singleton (by simp [Message.topic])

lemma topics_wb (s : Simulation) : OnTopics [.stage, .update, .alarm] (completeWbOutput s) := by
  simp only [completeWbOutput]
  split_ifs
  · exact onTopics_singleton (by simp [Message.topic])
  · exact (topics_commitRegisterWrite _ _ _ _).append (onTopics_singleton (by
      simp [Message.topic]))
  · exact (topics_commitRegisterWrite _ _ _ _).append (onTopics_singleton (by
      simp [Message.topic]))

/-! ### Cycles and dumps -/

lemma topics_fetchPhase (s : Simulation) : OnTopics [.fetch, .alarm] (fetchPhaseOutput s) := by
  simp only [fetchPhaseOutput]
  split_ifs
  · exact ((topics_memoryFetch _).mono (by simp)).append (onTopics_singleton (by
      simp [Message.topic]))
  · exact onTopics_singleton (by simp [Message.topic])

lemma topics_hazard (hazard : HazardDecision) : OnTopics [.hazard] (hazardOutput hazard) := by
  simp only [hazardOutput]
  split_ifs <;> simp [OnTopics, Message.topic]

lemma topics_header (s : Simulation) : OnTopics [.frame] (cycleHeaderOutput s) :=
  onTopics_singleton (by simp [Message.topic])

lemma topics_validate (engine : PipelineEngine) (fetched active : Bool) :
    OnTopics [.alarm] (validateOutput engine fetched active) := by
  have hone : ∀ (b : Bool) (complaint : Complaint),
      OnTopics [.alarm] (if b then [.validation complaint] else []) := by
    intro b complaint
    split_ifs <;> simp [OnTopics, Message.topic]
  exact (((hone _ _).append (hone _ _)).append (hone _ _)).append (hone _ _)

lemma topics_tickSlot (s : Simulation) (kind : StageKind) (allow : Bool) :
    OnTopics [.decode, .stage, .redirect, .update, .alarm] (tickSlotOutput s kind allow) := by
  simp only [tickSlotOutput]
  split_ifs
  · exact onTopics_nil _
  · exact onTopics_nil _
  · cases kind with
    | stageIf => exact onTopics_singleton (by simp [Message.topic])
    | stageId => exact (topics_id _).mono (by simp)
    | stageEx => exact (topics_ex _).mono (by simp)
    | stageMem => exact (topics_mem _).mono (by simp)
    | stageWb => exact (topics_wb _).mono (by simp)

/-- A cycle prints its header, and then nothing of the frame. -/
lemma topics_cycle (s : Simulation) : ∃ rest, cycleOutput s =
    cycleHeaderOutput (beginCycle s) ++ rest ∧
      OnTopics [.fetch, .hazard, .decode, .stage, .redirect, .update, .alarm] rest := by
  have htick : ∀ (s : Simulation) (kind : StageKind) (allow : Bool),
      OnTopics [.fetch, .hazard, .decode, .stage, .redirect, .update, .alarm]
        (tickSlotOutput s kind allow) :=
    fun s kind allow => (topics_tickSlot s kind allow).mono (by simp)
  simp only [cycleOutput, List.append_assoc]
  refine ⟨_, rfl, ?_⟩
  refine ((topics_fetchPhase _).mono (by simp)).append
    (((topics_hazard _).mono (by simp)).append ?_)
  refine (((htick _ _ _).append (htick _ _ _)).append (htick _ _ _)).append ?_
  exact ((htick _ _ _).append (htick _ _ _)).append ((topics_validate _ _ _).mono (by simp))

lemma topics_dump (target : CPU) : OnTopics [.dump, .alarm] (pipelineDumpFinalState target) := by
  have hregisters : OnTopics [.dump, .alarm] (dumpRegisters target) := by
    refine onTopics_cons (by simp [Message.topic]) (onTopics_flatMap _ fun index _ => ?_)
    exact ((topics_readRegister _).mono (by simp)).append (onTopics_singleton (by
      simp [Message.topic]))
  have hmemory : OnTopics [.dump, .alarm] (dumpMemory target) := by
    refine onTopics_cons (by simp [Message.topic]) ?_
    intro m hm
    obtain ⟨address, -, rfl⟩ := List.mem_map.mp hm
    simp [Message.topic]
  exact onTopics_cons (by simp [Message.topic]) (hregisters.append hmemory)

end Topics

end Fillet
