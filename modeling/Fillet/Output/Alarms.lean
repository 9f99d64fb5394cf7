import Fillet.Assembler.Meaning
import Fillet.Output.Cycle
import Fillet.Output.Topics
import Fillet.Pipeline.Isolation

/-!
# No alarms

The accessors and the validation of a cycle guard against register numbers, fetch addresses and
shift amounts out of range, a busy memory and a schedule that is violated. In a run of a program
that the assembler has loaded none of these is ever reported.
-/

namespace Fillet

open BoundedLoop

variable {cpu : CPU} {e : PipelineEngine} {t : Trace}

/-- Nothing in the messages is an alarm. -/
def Calm (messages : List Message) : Prop :=
  ∀ m ∈ messages, m.topic ≠ .alarm

section Calm

variable {messages messages' : List Message}

lemma calm_nil : Calm [] :=
  fun _ hm => absurd hm List.not_mem_nil

lemma Calm.append (h : Calm messages) (h' : Calm messages') : Calm (messages ++ messages') :=
  List.forall_mem_append.mpr ⟨h, h'⟩

lemma OnTopics.calm {topics : List Topic} (h : OnTopics topics messages)
    (htopics : Topic.alarm ∉ topics) : Calm messages := by
  intro m hm halarm
  exact htopics (halarm ▸ h m hm)

lemma calm_singleton {m : Message} (h : m.topic ≠ .alarm) : Calm [m] :=
  List.forall_mem_singleton.mpr h

lemma calm_cons {m : Message} (h : m.topic ≠ .alarm) (h' : Calm messages) :
    Calm (m :: messages) :=
  List.forall_mem_cons.mpr ⟨h, h'⟩

lemma calm_ifValid {slot : StageSlot} (h : slot.reg.valid = true → Calm messages) :
    Calm (ifValid slot messages) := by
  simp only [ifValid]
  split_ifs with hv
  · exact h hv
  · exact calm_nil

end Calm

/-! ### What keeps the parts calm -/

lemma calm_readRegister {r : Int} (h : 0 ≤ r ∧ r ≤ 31) : Calm (readRegisterOutput r) := by
  have hrange : ¬ (r < 0 ∨ r ≥ registerCount) := by
    simp only [registerCount]
    omega
  rw [readRegisterOutput, if_neg hrange]
  exact calm_nil

lemma calm_writeRegister {r : Int} (h : 0 ≤ r ∧ r ≤ 31) (value : Int32) :
    Calm (writeRegisterOutput r value) := by
  have hrange : ¬ (r < 0 ∨ r ≥ registerCount) := by
    simp only [registerCount]
    omega
  rw [writeRegisterOutput, if_neg hrange]
  split_ifs <;> exact calm_singleton (by simp [Message.topic])

lemma calm_memoryFetch {a : UInt32} (h : a.toNat < 1024) : Calm (memoryFetchOutput a) := by
  rw [memoryFetchOutput, (isInstructionAddress_toInt32 h).1]
  exact calm_nil

lemma calm_id (s : Simulation) : Calm (completeIdOutput s) := by
  refine Calm.append ?_ (calm_singleton (by simp [Message.topic]))
  intro m hm
  obtain ⟨r, hr, hm⟩ := List.mem_flatMap.mp hm
  have hcalm := calm_readRegister (mem_latchedRegisters hr)
  simp only [readOperandOutput] at hm
  split_ifs at hm
  · exact absurd hm List.not_mem_nil
  · exact absurd hm List.not_mem_nil
  · exact absurd hm List.not_mem_nil
  · exact absurd hm List.not_mem_nil
  · exact hcalm m hm

lemma calm_ex {s : Simulation} (h : shiftOutput s.engine.exStage.reg = []) :
    Calm (completeExOutput s) := by
  have htopics : OnTopics [.stage, .redirect] (completeExOutput s) :=
    topics_ex_of_shift (by simp) (by simp) (h ▸ onTopics_nil _)
  exact htopics.calm (by simp)

lemma calm_commitRegisterWrite (target : CPU) {r : Int} (h : 0 ≤ r ∧ r ≤ 31) (value : Int32)
    (stage : String) : Calm (commitRegisterWriteOutput target r value stage) :=
  (((calm_readRegister h).append (calm_writeRegister h value)).append (calm_readRegister h)).append
    (calm_singleton (by simp [Message.topic]))

lemma calm_wb (s : Simulation) (h : Decoded s.engine.wbStage.reg) : Calm (completeWbOutput s) := by
  have hr1 : 0 ≤ s.engine.wbStage.reg.r1 ∧ s.engine.wbStage.reg.r1 ≤ 31 := by
    have hrange := h.r1_range
    omega
  simp only [completeWbOutput]
  split_ifs
  · exact calm_singleton (by simp [Message.topic])
  · exact (calm_commitRegisterWrite _ hr1 _ _).append (calm_singleton (by simp [Message.topic]))
  · exact (calm_commitRegisterWrite _ hr1 _ _).append (calm_singleton (by simp [Message.topic]))

lemma calm_mem {s : Simulation} (h : s.target.memoryBusy = 0) : Calm (completeMemOutput s) := by
  have hidle : ¬ s.target.memoryBusy ≠ 0 := not_not.mpr h
  have hread : ∀ a, Calm (readMemoryOutput s.target a) := by
    intro a
    rw [readMemoryOutput, if_neg hidle]
    split_ifs <;> exact calm_singleton (by simp [Message.topic])
  have hwrite : ∀ a v, Calm (commitMemoryWriteOutput s.target a v) := by
    intro a v
    refine Calm.append ?_ ?_
    · rw [writeMemoryOutput, if_neg hidle]
      split_ifs <;> exact calm_singleton (by simp [Message.topic])
    · split_ifs <;> simp [Calm, Message.topic]
  refine Calm.append ?_ ?_
  · split_ifs
    · exact (hread _).append (calm_singleton (by simp [Message.topic]))
    · exact (hwrite _ _).append (calm_singleton (by simp [Message.topic]))
    · exact calm_singleton (by simp [Message.topic])
  · split_ifs <;> simp [Calm, Message.topic]

lemma calm_dump (target : CPU) : Calm (pipelineDumpFinalState target) := by
  have hregisters : Calm (dumpRegisters target) := by
    refine calm_cons (by simp [Message.topic]) ?_
    intro m hm
    obtain ⟨index, hindex, hm⟩ := List.mem_flatMap.mp hm
    have hlt : index < 32 := List.mem_range.mp hindex
    have hrange : 0 ≤ (index : Int) ∧ (index : Int) ≤ 31 := by omega
    exact ((calm_readRegister hrange).append (calm_singleton (by simp [Message.topic]))) m hm
  have hmemory : Calm (dumpMemory target) := by
    refine calm_cons (by simp [Message.topic]) ?_
    intro m hm
    obtain ⟨address, -, rfl⟩ := List.mem_map.mp hm
    simp [Message.topic]
  exact calm_cons (by simp [Message.topic]) (hregisters.append hmemory)

/-! ### Programs without a cause for alarm -/

/-- The program is inside instruction memory, its shift amounts are valid, and no memory access is
going on. -/
structure Orderly (cpu : CPU) : Prop where
  count : cpu.instructionCount.toUInt32.toNat ≤ 1024
  shifts : ∀ a, a < cpu.instructionCount.toUInt32 →
    shiftOutput (decodeRawInstruction (fetchedRegister a (memoryFetchInstruction cpu a))) = []
  memoryBusy : cpu.memoryBusy = 0

lemma Orderly.sameProgram {cpu' : CPU} (h : Orderly cpu) (hsame : SameProgram cpu cpu')
    (hbusy : cpu'.memoryBusy = 0) : Orderly cpu' where
  count := hsame.count ▸ h.count
  shifts a ha := by
    rw [memoryFetchInstruction_congr hsame.memory]
    exact h.shifts a (hsame.count ▸ ha)
  memoryBusy := hbusy

/-- Operands do not change the shift amount. -/
lemma shiftOutput_latchOperands (read : Int → Int32) (reg : PipelineRegister) :
    shiftOutput (latchOperands read reg) = shiftOutput reg := by
  simp only [latchOperands]
  split <;> rfl

lemma memoryBusy_fetchedCpu (cpu : CPU) (e : PipelineEngine) :
    (fetchedCpu cpu e).memoryBusy = cpu.memoryBusy := by
  simp only [fetchedCpu]
  split_ifs <;> rfl

lemma memoryBusy_writtenBack (cpu : CPU) (slot : StageSlot) :
    (writtenBack cpu slot).memoryBusy = cpu.memoryBusy := by
  have hwrite : ∀ r v, (writeRegister cpu r v).memoryBusy = cpu.memoryBusy := by
    intro r v
    simp only [writeRegister]
    split_ifs <;> rfl
  simp only [writtenBack, wbResult]
  split_ifs
  · split
    · rfl
    · exact hwrite _ _
  · rfl

lemma memoryBusy_idCpu (cpu : CPU) (e : PipelineEngine) :
    (idCpu cpu e).memoryBusy = cpu.memoryBusy :=
  (memoryBusy_writtenBack _ _).trans (memoryBusy_fetchedCpu cpu e)

/-- An access lowers the flag again. -/
lemma memoryBusy_memAccessed (h : cpu.memoryBusy = 0) (slot : StageSlot) :
    (memAccessed cpu slot).memoryBusy = 0 := by
  simp only [memAccessed, memResult, readMemory, writeMemory]
  split_ifs <;> first
    | exact h
    | rfl

/-- A run that has given no cause for alarm so far. -/
structure Undisturbed (s : Simulation) : Prop extends InStep s where
  orderly : Orderly s.cpu
  ex : s.engine.exStage.reg.valid = true → shiftOutput s.engine.exStage.reg = []

lemma undisturbed_start (h : Orderly cpu) : Undisturbed (.start cpu none) where
  toInStep := inStep_start cpu
  orderly := h
  ex hv := absurd hv (by simp [Simulation.start, PipelineEngine.zeroed, clearSlot,
    PipelineRegister.zeroed])

/-- The instruction that leaves ID has a valid shift amount. -/
lemma Orderly.shift_latchedId (h : Orderly cpu) (horder : FetchedInOrder cpu e)
    (hid : e.idStage.reg.valid = true) : shiftOutput (latchedId cpu e) = [] := by
  obtain ⟨hfrom, -⟩ := horder.id hid
  have hdecode : decodeRawInstruction e.idStage.reg =
      decodeRawInstruction (fetchedRegister e.idStage.reg.pc
        (memoryFetchInstruction cpu e.idStage.reg.pc)) :=
    decodeRawInstruction_congr hid hfrom.raw rfl
  rw [latchedId, latchDecodeOperands, shiftOutput_latchOperands, hdecode]
  exact h.shifts _ hfrom.inside

lemma FetchReady.undisturbed (h : FetchReady e) (hs : Undisturbed ⟨cpu, none, e, t⟩) :
    Undisturbed (simulateCycle ⟨cpu, none, e, t⟩) := by
  have hbusy : ∀ a, ((idCpu cpu e).setPc a).memoryBusy = 0 :=
    fun _ => (memoryBusy_idCpu cpu e).trans hs.orderly.memoryBusy
  have hsame := hs.toScheduled.sameProgram
  refine ⟨hs.toInStep.next, ?_, ?_⟩
  · refine hs.orderly.sameProgram hsame ?_
    rcases odd_cycle_cases e with ⟨hv, a, htaken⟩ | hstall | ⟨hstall, hnone⟩
    · rw [odd_cycle_taken h hv htaken]
      exact hbusy a
    · rw [odd_cycle_stalled h hstall]
      exact hbusy _
    · rw [odd_cycle_flow h hstall hnone]
      exact hbusy _
  · rcases odd_cycle_cases e with ⟨hv, a, htaken⟩ | hstall | ⟨hstall, hnone⟩
    · rw [odd_cycle_taken h hv htaken]
      exact fun hv => absurd hv (by simp)
    · rw [odd_cycle_stalled h hstall]
      exact fun hv => absurd hv (by simp)
    · rw [odd_cycle_flow h hstall hnone]
      dsimp only
      split_ifs with hid
      · intro _
        rw [Bool.and_eq_true] at hid
        exact hs.orderly.shift_latchedId hs.order hid.1
      · exact fun hv => absurd hv (by simp)

lemma FetchIdle.undisturbed (h : FetchIdle e) (hs : Undisturbed ⟨cpu, none, e, t⟩) :
    Undisturbed (simulateCycle ⟨cpu, none, e, t⟩) := by
  have hsame := hs.toScheduled.sameProgram
  refine ⟨hs.toInStep.next, hs.orderly.sameProgram hsame ?_, ?_⟩
  · rw [even_cycle h]
    exact memoryBusy_memAccessed hs.orderly.memoryBusy _
  · rw [even_cycle h]
    dsimp only
    rw [counted_reg]
    exact hs.ex

lemma Undisturbed.next {s : Simulation} (h : Undisturbed s) : Undisturbed (simulateCycle s) := by
  obtain ⟨cpu, e, t, rfl, hready | hidle⟩ := h.toScheduled.shape
  · exact hready.undisturbed h
  · exact hidle.undisturbed h

/-! ### The lines of a cycle -/

lemma Orderly.calm_fetchLines (h : Orderly cpu) (e : PipelineEngine) :
    Calm (fetchLines cpu e) := by
  simp only [fetchLines]
  split_ifs with hf
  · have hlt := UInt32.lt_iff_toNat_lt.mp (pc_lt_of_fetches hf)
    have hcount := h.count
    exact (calm_memoryFetch (by omega)).append (calm_singleton (by simp [Message.topic]))
  · exact calm_singleton (by simp [Message.topic])
  · exact calm_singleton (by simp [Message.topic])

lemma FetchReady.calm (h : FetchReady e) (hs : Undisturbed ⟨cpu, none, e, t⟩) :
    Calm (Fillet.cycleOutput ⟨cpu, none, e, t⟩) := by
  have hheader : Calm (headerLine cpu e) := calm_singleton (by simp [Message.topic])
  have hfetch := hs.orderly.calm_fetchLines e
  have hback : Calm (wbLines (fetchedCpu cpu e) e ++ exLines cpu e) :=
    (calm_ifValid fun hv => calm_wb _ (h.decoded.wb hv)).append
      (calm_ifValid fun hv => calm_ex (hs.ex hv))
  have hid : Calm (idLines cpu e) := calm_ifValid fun _ => calm_id _
  have hif : Calm (ifLines cpu e) := by
    simp only [ifLines]
    split_ifs
    · exact calm_singleton (by simp [Message.topic])
    · exact calm_nil
  rcases odd_cycle_cases e with ⟨hv, a, htaken⟩ | hstall | ⟨hstall, hnone⟩
  · rw [odd_output_taken h hv htaken]
    exact (hheader.append hfetch).append hback
  · have hline : Calm (stallLine e) := calm_singleton (by simp [Message.topic])
    rw [odd_output_stalled h hstall]
    exact (((hheader.append hfetch).append hline).append hback).append hif
  · rw [odd_output_flow h hstall hnone]
    exact ((hheader.append hfetch).append hback).append (hid.append hif)

lemma FetchIdle.calm (h : FetchIdle e) (hs : Undisturbed ⟨cpu, none, e, t⟩) :
    Calm (cycleOutput ⟨cpu, none, e, t⟩) := by
  have hheader : Calm (headerLine cpu e) := calm_singleton (by simp [Message.topic])
  have hfetch : Calm [.noFetch (some .fetchCadence)] := calm_singleton (by simp [Message.topic])
  have hmem : Calm (memLines cpu e) := calm_ifValid fun _ => calm_mem hs.orderly.memoryBusy
  rw [even_output h]
  exact ((hheader.append hfetch).append ((topics_hazard _).calm (by simp))).append hmem

lemma Undisturbed.calm {s : Simulation} (h : Undisturbed s) : Calm (cycleOutput s) := by
  obtain ⟨cpu, e, t, rfl, hready | hidle⟩ := h.toScheduled.shape
  · exact hready.calm h
  · exact hidle.calm h

/-! ### The run -/

/-- A run that starts orderly raises no alarm. -/
theorem Orderly.calm_run (h : Orderly cpu) (options : PipelineSimOptions) :
    Calm (pipelineSimRunOutput cpu none options) := by
  have hcycles : Calm (simulateOutput options.cycleBound cpu none) :=
    forall_mem_boundedLog (fun _ hs _ => hs.next) (fun _ hs _ => hs.calm) _ (undisturbed_start h)
  have hwarning : ∀ b : Bool, Calm (if b then [.maxCyclesReached options.cycleBound] else []) := by
    intro b
    split_ifs
    · exact calm_singleton (by simp [Message.topic])
    · exact calm_nil
  exact ((((calm_singleton (by simp [Message.topic])).append hcycles).append (hwarning _)).append
    (calm_singleton (by simp [Message.topic]))).append (calm_dump _)

/-- An accepted line has a valid shift amount. -/
lemma shiftOutput_of_assembles {tokens : LineTokens} {opcode : Opcode} {word : UInt32}
    (h : Assembles tokens opcode word) (pc : UInt32) :
    shiftOutput (decodeRawInstruction (fetchedRegister pc word)) = [] := by
  have hopcode := h.rawOpcode
  have hcontrol : (decodeRawInstruction (fetchedRegister pc word)).control.aluOp =
      opcodeAluOperation opcode := by
    rw [decodeRawInstruction_control]
    show (generateControlSignals (rawOpcode word)).aluOp = _
    rw [hopcode]
    simp
  have hother : opcodeAluOperation opcode ≠ .shiftLeft → opcodeAluOperation opcode ≠ .shiftRight →
      shiftOutput (decodeRawInstruction (fetchedRegister pc word)) = [] := by
    intro hleft hright
    rw [shiftOutput, hcontrol]
    split
    · exact absurd ‹_› hleft
    · exact absurd ‹_› hright
    · rfl
  cases h with
  | arithmetic hop =>
    rcases hop with rfl | rfl | rfl | rfl
    all_goals exact hother (by decide) (by decide)
  | immediate hop =>
    rcases hop with rfl | rfl | rfl | rfl
    all_goals exact hother (by decide) (by decide)
  | movi => exact hother (by decide) (by decide)
  | jump => exact hother (by decide) (by decide)
  | shift hop h1 h2 h3 hlast hrange =>
    obtain ⟨-, -, -, hshamt⟩ := fields_shift h1 pc hop h2 hrange
    have hvalid : ∀ amount : Int, 0 ≤ amount ∧ amount ≤ 31 → ¬ (amount < 0 ∨ amount > 31) := by
      omega
    rw [shiftOutput, hshamt, if_neg (hvalid _ hrange), if_neg (hvalid _ hrange)]
    split <;> rfl

/-- What the assembler leaves on a reset CPU is orderly. -/
lemma orderly_loadedCpu (filepath : List Char) (content : Option (List Char)) :
    Orderly (loadedCpu filepath content) := by
  have hloaded := loaded_parse filepath content
  refine ⟨?_, ?_, ?_⟩
  · have hcount := hloaded.toNat_count
    have hrange := hloaded.count
    omega
  · intro a ha
    cases content with
    | none => exact absurd (UInt32.lt_iff_toNat_lt.mp ha) (Nat.not_lt_zero _)
    | some text =>
      obtain ⟨line, -, hline⟩ := stored_word (hloaded.address_lt ha).1
      obtain ⟨tokens, opcode, -, -, hassembles⟩ := assembledWord_iff.mp hline
      exact shiftOutput_of_assembles hassembles a
  · cases content with
    | none => rfl
    | some text =>
      rw [loadedCpu, parseAssemblyFile_eq_load]
      rfl

/-- Whatever file the simulator is given, nothing it prints is an alarm: no register number, fetch
address or shift amount out of range, no busy memory, no violated schedule. -/
theorem simulator_raises_no_alarm (argv : List (List Char))
    (files : List Char → Option (List Char)) :
    Calm (simulatorOutput argv files) := by
  have hrun : Calm (pipelineSimRunOutput
      (parseAssemblyFile (memoryInit cpuReset) (programPath argv) (files (programPath argv))).1 none
      { dumpNonzeroMemoryOnly := true, maxCycles := 0 }) :=
    (orderly_loadedCpu (programPath argv) (files (programPath argv))).calm_run _
  have hmessages : ∀ messages : List ParserMessage, Calm (messages.map .parserMessage) := by
    intro messages m hm
    obtain ⟨message, -, rfl⟩ := List.mem_map.mp hm
    simp [Message.topic]
  have hfirst : Calm [.startingSimulator, .loadingProgram (programPath argv)] := by
    simp [Calm, Message.topic]
  exact (hfirst.append (hmessages _)).append hrun

end Fillet
