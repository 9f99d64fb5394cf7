import Fillet.Output.Topics
import Fillet.Pipeline.Completion

/-!
# The printed journal

`commitRegisterWrite` and `commitMemoryWrite` print an old and a new value. Read as a journal, these
lines account for everything a run does to the registers and the memory: every old value is the one
the journal itself has led to, and the last state of the journal is the last state of the CPU.
-/

namespace Fillet

open BoundedLoop

/-- A line of the journal, carried out; it is refused if its old value is not the current one. -/
def applyEntry (cpu : CPU) : Message → Option CPU
  | .registerUpdate reg oldValue newValue _ =>
    if readRegister cpu reg = oldValue then some (writeRegister cpu reg newValue) else none
  | .memoryUpdate address oldValue newValue =>
    if cpu.memory (memoryIndex address) = oldValue then
      some { cpu with memory := Function.update cpu.memory (memoryIndex address) newValue }
    else none
  | _ => some cpu

/-- The journal in what was printed, carried out line by line. -/
def replay (cpu : CPU) (messages : List Message) : Option CPU :=
  messages.foldlM applyEntry cpu

/-- Two CPUs with the same registers and the same memory. -/
structure SameContents (cpu cpu' : CPU) : Prop where
  registers : cpu'.registers = cpu.registers
  memory : cpu'.memory = cpu.memory

lemma SameContents.refl (cpu : CPU) : SameContents cpu cpu := ⟨rfl, rfl⟩

lemma SameContents.symm {cpu cpu' : CPU} (h : SameContents cpu cpu') : SameContents cpu' cpu :=
  ⟨h.registers.symm, h.memory.symm⟩

lemma SameContents.trans {cpu cpu' cpu'' : CPU} (h : SameContents cpu cpu')
    (h' : SameContents cpu' cpu'') : SameContents cpu cpu'' :=
  ⟨h'.registers.trans h.registers, h'.memory.trans h.memory⟩

/-- From the contents of `cpu` the messages lead to the contents of `cpu'`. -/
def Replays (cpu : CPU) (messages : List Message) (cpu' : CPU) : Prop :=
  ∀ c, SameContents cpu c → ∃ c', replay c messages = some c' ∧ SameContents cpu' c'

/-! ### Journals -/

section Journals

variable {cpu cpu' cpu'' : CPU} {messages messages' : List Message}

lemma replay_append (cpu : CPU) (messages messages' : List Message) :
    replay cpu (messages ++ messages') =
      (replay cpu messages).bind fun c => replay c messages' := by
  simp only [replay, List.foldlM_append]
  rfl

/-- Only updates are lines of the journal. -/
lemma applyEntry_of_topic {m : Message} (h : m.topic ≠ .update) (cpu : CPU) :
    applyEntry cpu m = some cpu := by
  cases m with
  | registerUpdate | memoryUpdate => exact absurd rfl h
  | _ => rfl

lemma replay_of_topics (h : ∀ m ∈ messages, m.topic ≠ .update) (cpu : CPU) :
    replay cpu messages = some cpu := by
  induction messages with
  | nil => rfl
  | cons m messages ih =>
    have hhead : applyEntry cpu m = some cpu := applyEntry_of_topic (h m List.mem_cons_self) cpu
    have hrest := ih fun m' hm' => h m' (List.mem_cons_of_mem _ hm')
    rw [replay, List.foldlM_cons, hhead]
    exact hrest

lemma Replays.append (h : Replays cpu messages cpu') (h' : Replays cpu' messages' cpu'') :
    Replays cpu (messages ++ messages') cpu'' := by
  intro c hc
  obtain ⟨c', hreplay, hc'⟩ := h c hc
  obtain ⟨c'', hreplay', hc''⟩ := h' c' hc'
  exact ⟨c'', by rw [replay_append, hreplay, Option.bind_some, hreplay'], hc''⟩

/-- Lines on other topics. -/
lemma OnTopics.replays {topics : List Topic} (h : OnTopics topics messages)
    (htopics : Topic.update ∉ topics) (hsame : SameContents cpu cpu') :
    Replays cpu messages cpu' := by
  intro c hc
  refine ⟨c, replay_of_topics (fun m hm hupdate => ?_) c, hsame.symm.trans hc⟩
  have hmem := h m hm
  rw [hupdate] at hmem
  exact htopics hmem

/-- A single line on another topic. -/
lemma replays_line {m : Message} (h : m.topic ≠ .update) : Replays cpu [m] cpu :=
  (onTopics_singleton (List.mem_singleton_self m.topic)).replays
    (fun hmem => h (List.mem_singleton.mp hmem).symm) (.refl cpu)

lemma replays_nil (hsame : SameContents cpu cpu') : Replays cpu [] cpu' :=
  (onTopics_nil []).replays List.not_mem_nil hsame

end Journals

/-! ### The two commits -/

lemma SameContents.writeRegister {cpu cpu' : CPU} (h : SameContents cpu cpu') (reg : Int)
    (value : Int32) :
    SameContents (writeRegister cpu reg value) (Fillet.writeRegister cpu' reg value) where
  registers := by
    simp only [Fillet.writeRegister, h.registers]
    split_ifs <;> simp only [h.registers]
  memory := by rw [writeRegister_memory, writeRegister_memory, h.memory]

/-- Writing the value that is read back is the same write: R0 and unknown registers do not take the
value. -/
lemma writeRegister_readRegister (cpu : CPU) (reg : Int) (value : Int32) :
    writeRegister cpu reg (readRegister (writeRegister cpu reg value) reg) =
      writeRegister cpu reg value := by
  by_cases hreg : 0 < reg ∧ reg < 32
  · rw [readRegister_writeRegister_self _ _ hreg]
  · simp only [writeRegister]
    split_ifs with hout hzero
    · rfl
    · rfl
    · exact absurd hreg (by simp only [registerCount] at hout; omega)

lemma replays_commitRegisterWrite (target : CPU) (reg : Int) (value : Int32) (stage : String) :
    Replays target (commitRegisterWriteOutput target reg value stage)
      (writeRegister target reg value) := by
  have hread : OnTopics [.stage, .alarm] (readRegisterOutput reg) :=
    (topics_readRegister reg).mono (by simp)
  have hbefore : OnTopics [.stage, .alarm]
      (readRegisterOutput reg ++ writeRegisterOutput reg value ++ readRegisterOutput reg) :=
    (hread.append (topics_writeRegister reg value)).append hread
  refine (hbefore.replays (by simp) (.refl target)).append ?_
  intro c hc
  refine ⟨_, ?_, hc.writeRegister reg value⟩
  have hold : readRegister c reg = readRegister target reg := readRegister_congr hc.registers reg
  have hnew : readRegister (writeRegister target reg value) reg =
      readRegister (writeRegister c reg value) reg :=
    (readRegister_congr (hc.writeRegister reg value).registers reg).symm
  simp only [replay, List.foldlM_cons, List.foldlM_nil, applyEntry, hold, hnew, if_true,
    writeRegister_readRegister]
  rfl

lemma writeMemory_of_unchanged {target : CPU} {address value : Int32}
    (h : ¬ (0 ≤ address.toInt ∧ address.toInt < memorySize ∧
      (writeMemory target address value).memory (memoryIndex address) ≠
        target.memory (memoryIndex address))) :
    (writeMemory target address value).memory = target.memory := by
  simp only [writeMemory] at h ⊢
  split_ifs at h ⊢ with hdata
  · rfl
  · simp only [Bool.not_eq_true, Bool.not_eq_false'] at hdata
    rw [isDataAddress_iff] at hdata
    have hkept : value = target.memory (memoryIndex address) := by
      by_contra hne
      refine h ⟨by omega, hdata.2, ?_⟩
      dsimp only
      rwa [Function.update_self]
    rw [hkept, Function.update_eq_self]

lemma replays_commitMemoryWrite (target : CPU) (address value : Int32) :
    Replays target (commitMemoryWriteOutput target address value)
      (writeMemory target address value) := by
  refine ((topics_writeMemory target address value).replays (by simp) (.refl target)).append ?_
  split_ifs with hchanged
  · intro c hc
    have hwritten : (writeMemory target address value).memory =
        Function.update target.memory (memoryIndex address)
          ((writeMemory target address value).memory (memoryIndex address)) := by
      simp only [writeMemory]
      split_ifs
      · rw [Function.update_eq_self]
      · dsimp only
        rw [Function.update_self]
    have hold : c.memory (memoryIndex address) = target.memory (memoryIndex address) := by
      rw [hc.memory]
    refine ⟨{ c with
        memory := Function.update c.memory (memoryIndex address)
          ((writeMemory target address value).memory (memoryIndex address)) }, ?_, ?_, ?_⟩
    · simp only [replay, List.foldlM_cons, List.foldlM_nil, applyEntry, hold, if_true]
      rfl
    · rw [writeMemory_registers]
      exact hc.registers
    · dsimp only
      rw [hc.memory]
      exact hwritten.symm
  · refine replays_nil ⟨?_, writeMemory_of_unchanged hchanged⟩
    rw [writeMemory_registers]

/-! ### The stages -/

lemma replays_wb (s : Simulation) :
    Replays s.target (completeWbOutput s) (wbResult s.target s.engine.wbStage.reg) := by
  simp only [completeWbOutput, wbResult, committedWrite]
  split_ifs
  · exact replays_line (by simp [Message.topic])
  · exact (replays_commitRegisterWrite _ _ _ _).append (replays_line (by simp [Message.topic]))
  · exact (replays_commitRegisterWrite _ _ _ _).append (replays_line (by simp [Message.topic]))

lemma replays_mem (s : Simulation) :
    Replays s.target (completeMemOutput s) (memResult s.target s.engine.memStage.reg).2 := by
  have hlast : ∀ cpu, Replays cpu
      (if s.engine.memStage.reg.opcode = .jeq ∨ s.engine.memStage.reg.opcode = .jmp then
        [.branchReachedMem] else []) cpu := by
    intro cpu
    split_ifs
    · exact replays_line (by simp [Message.topic])
    · exact replays_nil (.refl _)
  refine Replays.append ?_ (hlast _)
  simp only [memResult]
  split_ifs
  · have hread : SameContents s.target (readMemory s.target s.engine.memStage.reg.address).2 :=
      ⟨readMemory_registers _ _, readMemory_memory _ _⟩
    exact ((topics_readMemory _ _).replays (by simp) hread).append
      (replays_line (by simp [Message.topic]))
  · exact (replays_commitMemoryWrite _ _ _).append (replays_line (by simp [Message.topic]))
  · exact replays_line (by simp [Message.topic])

/-! ### The parts of a cycle -/

lemma setTarget_target (s : Simulation) (cpu : CPU) : (s.setTarget cpu).target = cpu := by
  obtain ⟨_, object, _, _⟩ := s
  cases object <;> rfl

lemma sameContents_setGlobalPc (s : Simulation) (value : UInt32) :
    SameContents s.target (s.setGlobalPc value).target := by
  obtain ⟨_, object, _, _⟩ := s
  cases object <;> exact ⟨rfl, rfl⟩

lemma sameContents_completeEx (s : Simulation) :
    SameContents s.target (completeExStage s).target := by
  simp only [completeExStage]
  split_ifs
  · split
    · exact .refl _
    · exact sameContents_setGlobalPc s _
  · exact .refl _

lemma target_completeMem (s : Simulation) :
    (completeMemStage s).target = (memResult s.target s.engine.memStage.reg).2 := by
  simp only [completeMemStage]
  exact setTarget_target s _

lemma target_completeWb (s : Simulation) :
    (completeWbStage s).target = wbResult s.target s.engine.wbStage.reg :=
  setTarget_target s _

lemma replays_tickSlot (s : Simulation) (kind : StageKind) (allow : Bool) :
    Replays s.target (tickSlotOutput s kind allow) (tickSlot s kind allow).target := by
  simp only [tickSlotOutput, tickSlot]
  split_ifs
  · exact replays_nil (.refl _)
  · exact replays_nil (.refl _)
  · cases kind with
    | stageIf => exact replays_line (by simp [Message.topic])
    | stageId => exact (topics_id _).replays (by simp) (.refl _)
    | stageEx =>
      refine (topics_ex _).replays (by simp) (SameContents.trans ?_ (sameContents_completeEx _))
      exact .refl _
    | stageMem =>
      dsimp only
      rw [target_completeMem]
      exact replays_mem _
    | stageWb =>
      dsimp only
      rw [target_completeWb]
      exact replays_wb _

lemma replays_fetchPhase (s : Simulation) :
    Replays s.target (fetchPhaseOutput s) (fetchPhase s).target := by
  refine (topics_fetchPhase s).replays (by simp) ?_
  simp only [fetchPhase]
  split_ifs
  · exact sameContents_setGlobalPc s _
  · exact .refl _

lemma replays_ready (s : Simulation) (hazard : HazardDecision) :
    Replays s.target
      (cycleHeaderOutput (beginCycle s) ++ fetchPhaseOutput (beginCycle s) ++ hazardOutput hazard)
      (hazardPhase (fetchPhase (beginCycle s))).target := by
  have hheader : Replays s.target (cycleHeaderOutput (beginCycle s)) (beginCycle s).target :=
    (topics_header _).replays (by simp) (.refl _)
  exact (hheader.append (replays_fetchPhase _)).append
    ((topics_hazard hazard).replays (by simp) (.refl _))

lemma replays_back (s : Simulation) : Replays s.target (backOutput s) (backPhase s).target :=
  ((replays_tickSlot _ _ _).append (replays_tickSlot _ _ _)).append (replays_tickSlot _ _ _)

lemma replays_front (hazard : HazardDecision) (s : Simulation) :
    Replays s.target (frontOutput hazard s) (frontPhase hazard s).target :=
  (replays_tickSlot _ _ _).append (replays_tickSlot _ _ _)

/-- The journal of one cycle. -/
lemma replays_cycle (s : Simulation) :
    Replays s.target (cycleOutput s) (simulateCycle s).target :=
  (((replays_ready s _).append (replays_back _)).append (replays_front _ _)).append
    ((topics_validate _ _ _).replays (by simp) (.refl _))

/-! ### The run -/

lemma replays_simulate (n : ℕ) (cpu : CPU) (object : Option CPU) :
    Replays (object.getD cpu) (simulateOutput n cpu object) (simulate n cpu object).target := by
  have hrun : Replays (object.getD cpu)
      ([] ++ boundedLog Simulation.hasWork simulateCycle cycleOutput n (.start cpu object))
      (boundedWhile Simulation.hasWork simulateCycle n (.start cpu object)).target :=
    boundedLog_invariant (P := fun log s => Replays (object.getD cpu) log s.target)
      (fun log s h _ => h.append (replays_cycle s)) n (replays_nil (.refl _))
  exact hrun

lemma replays_run (cpu : CPU) (object : Option CPU) (options : PipelineSimOptions) :
    Replays (object.getD cpu) (pipelineSimRunOutput cpu object options)
      (pipelineSimRun cpu object options).target := by
  have hstart : Replays (object.getD cpu) [.startingSimulation] (object.getD cpu) :=
    replays_line (by simp [Message.topic])
  have hwarning : ∀ b : Bool, Replays (pipelineSimRun cpu object options).target
      (if b then [.maxCyclesReached options.cycleBound] else [])
      (pipelineSimRun cpu object options).target := by
    intro b
    split_ifs
    · exact replays_line (by simp [Message.topic])
    · exact replays_nil (.refl _)
  have hfinished : ∀ cycles, Replays (pipelineSimRun cpu object options).target
      [.simulationFinished cycles] (pipelineSimRun cpu object options).target :=
    fun _ => replays_line (by simp [Message.topic])
  exact (((hstart.append (replays_simulate options.cycleBound cpu object)).append
    (hwarning _)).append (hfinished _)).append ((topics_dump _).replays (by simp) (.refl _))

/-- Carrying out the updates a run prints, on the CPU it starts from, never meets a wrong old value
and ends in the registers and the memory the run ends in; if the run has ended by itself, these are
the registers and the memory of the sequential machine. -/
theorem printed_journal (cpu : CPU) (object : Option CPU) (options : PipelineSimOptions) :
    ∃ final, replay (object.getD cpu) (pipelineSimRunOutput cpu object options) = some final ∧
      final.registers = (pipelineSimRun cpu object options).target.registers ∧
      final.memory = (pipelineSimRun cpu object options).target.memory ∧
      (object = none → (pipelineSimRun cpu object options).hasWork = false →
        ∃ k, running (machineAt cpu k).cpu = false ∧
          final.registers = (machineAt cpu k).cpu.registers ∧
          final.memory = (machineAt cpu k).cpu.memory) := by
  obtain ⟨final, hreplay, hsame⟩ := replays_run cpu object options _ (.refl _)
  refine ⟨final, hreplay, hsame.registers, hsame.memory, ?_⟩
  rintro rfl hdone
  obtain ⟨k, -, hhalt, hhistory⟩ := simulate_of_no_work hdone
  have hcpu : (pipelineSimRun cpu none options).target = (machineAt cpu k).cpu := by
    rw [← hhistory]
    exact (scheduled_simulate options.cycleBound cpu).target
  rw [hcpu] at hsame
  exact ⟨k, hhalt, hsame.registers, hsame.memory⟩

end Fillet
