import Fillet.Assembler.Operands
import Fillet.Pipeline.Refinement

/-!
# Isolation of the program

A program that the assembler has loaded is not changed by its run, is only fetched where it was
loaded, and keeps every word that is decoded and every register number in range. What lies in
instruction memory behind the program has no influence on the run.
-/

namespace Fillet

open BoundedLoop BitField

variable {cpu cpu' : CPU} {e : PipelineEngine} {t : Trace}

/-! ### Loaded programs -/

/-- What the assembler establishes. -/
structure Loaded (cpu : CPU) : Prop where
  count : 0 ≤ cpu.instructionCount.toInt ∧ cpu.instructionCount.toInt ≤ 1024
  formatted : Formatted cpu
  pc : cpu.pc.toNat ≤ 1024
  registerZero : cpu.registers 0 = 0

lemma Loaded.toNat_count (h : Loaded cpu) :
    (cpu.instructionCount.toUInt32.toNat : Int) = cpu.instructionCount.toInt := by
  have hrange := h.count
  rw [toNat_toUInt32]
  omega

/-- An address below the program counter's bound is one of the program. -/
lemma Loaded.address_lt (h : Loaded cpu) {a : UInt32} (ha : a < cpu.instructionCount.toUInt32) :
    (a.toNat : Int) < cpu.instructionCount.toInt ∧ a.toNat < 1024 := by
  have hcount := h.toNat_count
  have hrange := h.count
  have hlt := UInt32.lt_iff_toNat_lt.mp ha
  omega

/-- The CPU after `cpu_reset` and `parse_assembly_file`. -/
def loadedCpu (filepath : List Char) (content : Option (List Char)) : CPU :=
  (parseAssemblyFile cpuReset filepath content).1

/-- The assembler leaves a loaded program. -/
lemma loaded_parse (filepath : List Char) (content : Option (List Char)) :
    Loaded (loadedCpu filepath content) := by
  cases content with
  | none =>
    refine ⟨⟨Int.le_refl 0, Int.natCast_nonneg 1024⟩, ?_, Nat.zero_le _, rfl⟩
    intro a ha
    exact absurd (UInt32.lt_iff_toNat_lt.mp ha) (Nat.not_lt_zero _)
  | some text =>
    have hload := parseAssemblyFile_eq_load cpuReset filepath text
    set words := (CString.buffers lineCapacity text).filterMap assembledWord
    have hcount : (loadProgram words cpuReset).instructionCount.toInt =
        (min words.length 1024 : ℕ) := toInt_ofNat_count (Nat.min_le_right _ _)
    rw [loadedCpu, hload]
    refine ⟨by omega, ?_, Nat.zero_le _, rfl⟩
    intro a ha
    have hbelow : a.toNat < min words.length 1024 := by
      have hlt := UInt32.lt_iff_toNat_lt.mp ha
      have hsigned := toNat_toUInt32 (loadProgram words cpuReset).instructionCount
      omega
    have hword := fetch_loadProgram words cpuReset hbelow
    obtain ⟨line, -, hline⟩ := List.mem_filterMap.mp (List.mem_of_getElem? hword)
    obtain ⟨tokens, opcode, -, -, hassembles⟩ := assembledWord_iff.mp hline
    rw [hassembles.rawOpcode]
    exact hassembles.code_lt

/-! ### What a run may touch -/

/-- The state of a run of the program of `loaded`: the program is as it was, and everything recorded
so far stayed inside it. -/
structure Isolated (loaded : CPU) (s : Simulation) : Prop where
  memory : ∀ i : Fin memorySize, i.val < 1024 → s.cpu.memory i = loaded.memory i
  instructionCount : s.cpu.instructionCount = loaded.instructionCount
  pc : s.cpu.pc.toNat ≤ 1024
  fetched : ∀ fetch ∈ s.trace.fetched,
    (fetch.1.toNat : Int) < loaded.instructionCount.toInt ∧
      isInstructionAddress fetch.1.toInt32 = true ∧
      fetch.2 = (loaded.memory (memoryIndex fetch.1.toInt32)).toUInt32
  decoded : ∀ raw ∈ s.trace.decoded, (rawOpcode raw).code < 12
  registerNumbers : ∀ r ∈ s.trace.registerNumbers, 0 ≤ r ∧ r ≤ 31
  registerZero : s.cpu.registers 0 = 0

/-- The events a cycle may add. -/
structure Confined (cpu : CPU) (fetched : List (UInt32 × UInt32)) (decoded : List UInt32)
    (registerNumbers : List Int) : Prop where
  fetched : ∀ fetch ∈ fetched, fetch.1 < cpu.instructionCount.toUInt32 ∧
    fetch.2 = memoryFetchInstruction cpu fetch.1
  decoded : ∀ raw ∈ decoded, (rawOpcode raw).code < 12
  registerNumbers : ∀ r ∈ registerNumbers, 0 ≤ r ∧ r ≤ 31

lemma isolated_start (h : Loaded cpu) : Isolated cpu (.start cpu none) where
  memory _ _ := rfl
  instructionCount := rfl
  pc := h.pc
  fetched _ hmem := absurd hmem List.not_mem_nil
  decoded _ hmem := absurd hmem List.not_mem_nil
  registerNumbers _ hmem := absurd hmem List.not_mem_nil
  registerZero := h.registerZero

/-- One more cycle with confined events. -/
lemma Isolated.append {loaded : CPU} {s s' : Simulation} (hloaded : Loaded loaded)
    (h : Isolated loaded s) (hprogram : SameProgram s.cpu s'.cpu)
    {fetched : List (UInt32 × UInt32)} {decoded : List UInt32} {registerNumbers : List Int}
    (hconfined : Confined s.cpu fetched decoded registerNumbers)
    (hfetched : s'.trace.fetched = s.trace.fetched ++ fetched)
    (hdecoded : s'.trace.decoded = s.trace.decoded ++ decoded)
    (hnumbers : s'.trace.registerNumbers = s.trace.registerNumbers ++ registerNumbers)
    (hpc : s'.cpu.pc.toNat ≤ 1024) (hzero : s'.cpu.registers 0 = 0) : Isolated loaded s' where
  memory i hi := (hprogram.memory i hi).trans (h.memory i hi)
  instructionCount := hprogram.count.trans h.instructionCount
  pc := hpc
  fetched fetch hmem := by
    rw [hfetched, List.mem_append] at hmem
    rcases hmem with hold | hnew
    · exact h.fetched fetch hold
    · obtain ⟨hinside, hword⟩ := hconfined.fetched fetch hnew
      rw [h.instructionCount] at hinside
      obtain ⟨hcount, haddress⟩ := hloaded.address_lt hinside
      have hrange := (isInstructionAddress_toInt32 haddress).1
      refine ⟨hcount, hrange, ?_⟩
      rw [hword, memoryFetchInstruction_congr h.memory, memoryFetchInstruction, hrange]
      rfl
  decoded raw hmem := by
    rw [hdecoded, List.mem_append] at hmem
    exact hmem.elim (h.decoded raw) (hconfined.decoded raw)
  registerNumbers r hmem := by
    rw [hnumbers, List.mem_append] at hmem
    exact hmem.elim (h.registerNumbers r) (hconfined.registerNumbers r)
  registerZero := hzero

/-! ### One cycle -/

lemma calculateBranchTarget_lt {reg : PipelineRegister} {a : UInt32}
    (h : calculateBranchTarget reg = some a) : a.toNat < 1024 := by
  unfold calculateBranchTarget at h
  split at h
  · dsimp only at h
    split_ifs at h with _ hrange
    simp only [instructionMemorySize, not_or, not_lt] at hrange
    rw [← Option.some.inj h, UInt32.toNat_ofNat']
    omega
  · dsimp only at h
    split_ifs at h with hrange
    rw [← Option.some.inj h]
    exact not_le.mp hrange
  · simp at h

lemma registerIndex_zero : registerIndex 0 = 0 := rfl

lemma writeRegister_registerZero {cpu : CPU} (h : cpu.registers 0 = 0) (r : Int) (v : Int32) :
    (writeRegister cpu r v).registers 0 = 0 := by
  simp only [writeRegister]
  split_ifs with hout hzero
  · exact h
  · exact Function.update_self (registerIndex 0) 0 cpu.registers
  · have hne : (0 : Fin registerCount) ≠ registerIndex r := by
      rw [← registerIndex_zero]
      simp only [registerCount, not_or, not_lt] at hout
      exact registerIndex_ne (by omega) (by omega) (Ne.symm hzero)
    exact (Function.update_of_ne hne ..).trans h

lemma writtenBack_registerZero (h : cpu.registers 0 = 0) (slot : StageSlot) :
    (writtenBack cpu slot).registers 0 = 0 := by
  simp only [writtenBack, wbResult]
  split_ifs
  · split
    · exact h
    · exact writeRegister_registerZero h _ _
  · exact h

lemma fetchedCpu_registers (cpu : CPU) (e : PipelineEngine) :
    (fetchedCpu cpu e).registers = cpu.registers := by
  simp only [fetchedCpu]
  split_ifs <;> rfl

lemma memAccessed_registers (cpu : CPU) (slot : StageSlot) :
    (memAccessed cpu slot).registers = cpu.registers := by
  simp only [memAccessed]
  split_ifs
  · exact memResult_registers cpu _
  · rfl

/-- A fetch moves the program counter at most to the end of the program. -/
lemma fetchedCpu_pc_le (hcount : cpu.instructionCount.toUInt32.toNat ≤ 1024)
    (hpc : cpu.pc.toNat ≤ 1024) (e : PipelineEngine) : (fetchedCpu cpu e).pc.toNat ≤ 1024 := by
  simp only [fetchedCpu]
  split_ifs with hf
  · have hrun : running cpu = true := (Bool.and_eq_true _ _ ▸ hf : _ ∧ _).1
    have hlt := UInt32.lt_iff_toNat_lt.mp (of_decide_eq_true hrun)
    have hnext : (cpu.pc + 1).toNat = cpu.pc.toNat + 1 := by
      rw [UInt32.toNat_add]
      show (cpu.pc.toNat + 1) % 4294967296 = _
      omega
    show (cpu.pc + 1).toNat ≤ 1024
    omega
  · exact hpc

/-! The events of a cycle. -/

/-- A cycle that fetches does so inside the program. -/
lemma pc_lt_of_fetches (h : fetches cpu e = true) : cpu.pc < cpu.instructionCount.toUInt32 := by
  simp only [fetches, running, Bool.and_eq_true, decide_eq_true_eq] at h
  exact h.1

lemma mem_fetchEvents {fetch : UInt32 × UInt32} (h : fetch ∈ fetchEvents cpu e) :
    fetch.1 < cpu.instructionCount.toUInt32 ∧ fetch.2 = memoryFetchInstruction cpu fetch.1 := by
  simp only [fetchEvents] at h
  split_ifs at h with hf
  · obtain rfl := List.mem_singleton.mp h
    exact ⟨pc_lt_of_fetches hf, rfl⟩
  · exact absurd h List.not_mem_nil

lemma FetchedFrom.code_lt {reg : PipelineRegister} (h : FetchedFrom cpu reg)
    (hprogram : Formatted cpu) : (rawOpcode reg.rawInstruction).code < 12 := by
  rw [h.raw]
  exact hprogram _ h.inside

/-- The hazard unit and the flush decode what IF and ID hold. -/
lemma mem_hazardDecodes {raw : UInt32} (h : raw ∈ hazardDecodes e) :
    e.idStage.reg.valid = true ∧ raw = e.idStage.reg.rawInstruction := by
  simp only [hazardDecodes] at h
  split_ifs at h with hempty
  · exact absurd h List.not_mem_nil
  · refine ⟨?_, List.mem_singleton.mp h⟩
    simp only [slotIsEmpty, Bool.or_eq_true, Bool.not_eq_true', not_or] at hempty
    simpa using hempty.1

lemma mem_flushDecodes {raw : UInt32} (h : raw ∈ flushDecodes e) :
    (e.ifStage.reg.valid = true ∧ raw = e.ifStage.reg.rawInstruction) ∨
      (e.idStage.reg.valid = true ∧ raw = e.idStage.reg.rawInstruction) := by
  unfold flushDecodes slotIsEmpty at h
  rcases List.mem_append.mp h with h | h
  · split_ifs at h with hv
    · exact absurd h List.not_mem_nil
    · exact Or.inl ⟨by simpa using hv, List.mem_singleton.mp h⟩
  · split_ifs at h with hv
    · exact absurd h List.not_mem_nil
    · exact Or.inr ⟨by simpa using hv, List.mem_singleton.mp h⟩

lemma mem_writeBackNumbers {reg : PipelineRegister} (hdecoded : Decoded reg) {r : Int}
    (h : r ∈ writeBackNumbers reg) : 0 ≤ r ∧ r ≤ 31 := by
  have hrange := hdecoded.r1_range
  simp only [writeBackNumbers] at h
  rw [hdecoded.committedWrite] at h
  split_ifs at h
  · simp only [List.mem_cons, List.not_mem_nil, or_false, or_self] at h
    omega
  · exact absurd h List.not_mem_nil

lemma mem_latchedRegisters {reg : PipelineRegister} {r : Int}
    (h : r ∈ latchedRegisters (decodeRawInstruction reg)) : 0 ≤ r ∧ r ≤ 31 := by
  obtain ⟨h1, h2, h3⟩ := decodeRawInstruction_registers reg
  have hmem : r = (decodeRawInstruction reg).r1 ∨ r = (decodeRawInstruction reg).r2 ∨
      r = (decodeRawInstruction reg).r3 := by
    simp only [latchedRegisters] at h
    split at h <;> simp at h <;> grind
  omega

lemma FetchedInOrder.hazardDecodes (horder : FetchedInOrder cpu e) (hprogram : Formatted cpu) :
    ∀ raw ∈ hazardDecodes e, (rawOpcode raw).code < 12 := by
  intro raw hmem
  obtain ⟨hid, rfl⟩ := mem_hazardDecodes hmem
  exact (horder.id hid).1.code_lt hprogram

lemma FetchReady.writeBackNumbers (h : FetchReady e) :
    ∀ r ∈ ifValid e.wbStage (writeBackNumbers e.wbStage.reg), 0 ≤ r ∧ r ≤ 31 := by
  intro r hmem
  obtain ⟨hv, hmem⟩ := mem_ifValid hmem
  exact mem_writeBackNumbers (h.decoded.wb hv) hmem

/-- IF holds a word of the program while it is flushed. -/
lemma FetchedInOrder.flushDecodes (horder : FetchedInOrder cpu e) (hprogram : Formatted cpu) :
    ∀ raw ∈ flushDecodes { e with ifStage := fetchedSlot cpu e }, (rawOpcode raw).code < 12 := by
  intro raw hmem
  rcases mem_flushDecodes hmem with ⟨hif, rfl⟩ | ⟨hid, rfl⟩
  · dsimp only at hif ⊢
    simp only [fetchedSlot] at hif ⊢
    split_ifs at hif ⊢ with hf
    · exact hprogram _ (pc_lt_of_fetches hf)
    · exact (horder.ifs hif).1.code_lt hprogram
  · exact (horder.id hid).1.code_lt hprogram

lemma Isolated.sameProgram {loaded : CPU} {s : Simulation} (h : Isolated loaded s) :
    SameProgram loaded s.cpu :=
  ⟨h.memory, h.instructionCount⟩

lemma FetchReady.isolated {loaded : CPU} (hloaded : Loaded loaded) (h : FetchReady e)
    (horder : FetchedInOrder cpu e) (hi : Isolated loaded ⟨cpu, none, e, t⟩) :
    Isolated loaded (simulateCycle ⟨cpu, none, e, t⟩) := by
  have hprogram : Formatted cpu := hloaded.formatted.sameProgram hi.sameProgram
  have hcount : cpu.instructionCount.toUInt32.toNat ≤ 1024 := by
    have hsigned := hloaded.toNat_count
    have hrange := hloaded.count
    have hsame : cpu.instructionCount = loaded.instructionCount := hi.instructionCount
    rw [hsame]
    omega
  have hpc : (fetchedCpu cpu e).pc.toNat ≤ 1024 := fetchedCpu_pc_le hcount hi.pc e
  have hzero : (writtenBack (fetchedCpu cpu e) e.wbStage).registers 0 = 0 :=
    writtenBack_registerZero ((congrFun (fetchedCpu_registers cpu e) 0).trans hi.registerZero) _
  have hhazard := horder.hazardDecodes hprogram
  have hsame : SameProgram cpu (simulateCycle ⟨cpu, none, e, t⟩).cpu :=
    Scheduled.sameProgram (s := ⟨cpu, none, e, t⟩) ⟨rfl, Or.inl h⟩
  rcases odd_cycle_cases e with ⟨hv, a, htaken⟩ | hstall | ⟨hstall, hnone⟩
  · rw [odd_cycle_taken h hv htaken] at hsame ⊢
    have hdecoded := List.forall_mem_append.mpr ⟨hhazard, horder.flushDecodes hprogram⟩
    exact hi.append hloaded hsame ⟨fun _ => mem_fetchEvents, hdecoded, h.writeBackNumbers⟩
      rfl rfl rfl (Nat.le_of_lt (calculateBranchTarget_lt htaken)) hzero
  · rw [odd_cycle_stalled h hstall] at hsame ⊢
    refine hi.append hloaded hsame ⟨fun _ => mem_fetchEvents, hhazard, h.writeBackNumbers⟩
      rfl rfl rfl ?_ hzero
    rw [idCpu_pc]
    exact hpc
  · rw [odd_cycle_flow h hstall hnone] at hsame ⊢
    have hid : ∀ raw ∈ ifValid e.idStage [e.idStage.reg.rawInstruction],
        (rawOpcode raw).code < 12 := by
      intro raw hmem
      obtain ⟨hid, hmem⟩ := mem_ifValid hmem
      rw [List.mem_singleton.mp hmem]
      exact (horder.id hid).1.code_lt hprogram
    have hlatched : ∀ r ∈ ifValid e.idStage (latchedRegisters (decodeRawInstruction e.idStage.reg)),
        0 ≤ r ∧ r ≤ 31 := by
      intro r hmem
      exact mem_latchedRegisters (mem_ifValid hmem).2
    refine hi.append hloaded hsame ⟨fun _ => mem_fetchEvents,
      List.forall_mem_append.mpr ⟨hhazard, hid⟩,
      List.forall_mem_append.mpr ⟨h.writeBackNumbers, hlatched⟩⟩ rfl rfl rfl ?_ hzero
    rw [idCpu_pc]
    exact hpc

lemma FetchIdle.isolated {loaded : CPU} (hloaded : Loaded loaded) (h : FetchIdle e)
    (horder : FetchedInOrder cpu e) (hi : Isolated loaded ⟨cpu, none, e, t⟩) :
    Isolated loaded (simulateCycle ⟨cpu, none, e, t⟩) := by
  have hprogram : Formatted cpu := hloaded.formatted.sameProgram hi.sameProgram
  rw [even_cycle h]
  have hconfined : Confined cpu [] (hazardDecodes e) [] :=
    ⟨fun _ hmem => absurd hmem List.not_mem_nil, horder.hazardDecodes hprogram,
      fun _ hmem => absurd hmem List.not_mem_nil⟩
  refine hi.append hloaded (sameProgram_memAccessed cpu _) hconfined (List.append_nil _).symm rfl
    (List.append_nil _).symm ?_ ?_
  · rw [memAccessed_pc]
    exact hi.pc
  · rw [memAccessed_registers]
    exact hi.registerZero

lemma isolated_simulate {loaded : CPU} (hloaded : Loaded loaded) (n : ℕ) :
    Isolated loaded (simulate n loaded none) := by
  have hboth : InStep (simulate n loaded none) ∧ Isolated loaded (simulate n loaded none) := by
    refine boundedWhile_invariant (P := fun s => InStep s ∧ Isolated loaded s) ?_ n
      ⟨inStep_start loaded, isolated_start hloaded⟩
    intro s ⟨hstep, hi⟩ _
    refine ⟨hstep.next, ?_⟩
    obtain ⟨cpu, e, t, rfl, hready | hidle⟩ := hstep.toScheduled.shape
    · exact hready.isolated hloaded hstep.order hi
    · exact hidle.isolated hloaded hstep.order hi
  exact hboth.2

/-! ### What lies behind the program -/

/-- CPUs that differ at most in the words of instruction memory at and behind `instructionCount`. -/
structure SameButBeyond (cpu cpu' : CPU) : Prop where
  memory : ∀ i : Fin memorySize, (i.val : Int) < cpu.instructionCount.toInt ∨ 1024 ≤ i.val →
    cpu'.memory i = cpu.memory i
  registers : cpu'.registers = cpu.registers
  pc : cpu'.pc = cpu.pc
  instructionCount : cpu'.instructionCount = cpu.instructionCount
  memoryBusy : cpu'.memoryBusy = cpu.memoryBusy

section Beyond

variable (h : SameButBeyond cpu cpu')
include h

lemma SameButBeyond.setPc (w : UInt32) : SameButBeyond (cpu.setPc w) (cpu'.setPc w) where
  memory := h.memory
  registers := h.registers
  pc := rfl
  instructionCount := h.instructionCount
  memoryBusy := h.memoryBusy

lemma SameButBeyond.writeRegister (r : Int) (v : Int32) :
    SameButBeyond (writeRegister cpu r v) (writeRegister cpu' r v) := by
  simp only [Fillet.writeRegister]
  rw [h.registers]
  split_ifs
  · exact h
  · exact ⟨h.memory, rfl, h.pc, h.instructionCount, h.memoryBusy⟩
  · exact ⟨h.memory, rfl, h.pc, h.instructionCount, h.memoryBusy⟩

lemma SameButBeyond.writtenBack (slot : StageSlot) :
    SameButBeyond (writtenBack cpu slot) (writtenBack cpu' slot) := by
  simp only [Fillet.writtenBack, wbResult]
  split_ifs
  · split
    · exact h
    · exact h.writeRegister _ _
  · exact h

lemma SameButBeyond.readMemory (a : Int32) :
    (readMemory cpu' a).1 = (readMemory cpu a).1 ∧
      SameButBeyond (readMemory cpu a).2 (readMemory cpu' a).2 := by
  simp only [Fillet.readMemory]
  split_ifs with hdata
  · exact ⟨rfl, h⟩
  · have hbehind := le_memoryIndex_of_isDataAddress (a := a) (by simpa using hdata)
    exact ⟨h.memory _ (Or.inr hbehind),
      ⟨h.memory, h.registers, h.pc, h.instructionCount, rfl⟩⟩

lemma SameButBeyond.writeMemory (a v : Int32) :
    SameButBeyond (writeMemory cpu a v) (writeMemory cpu' a v) := by
  simp only [Fillet.writeMemory]
  split_ifs with hdata
  · exact h
  · refine ⟨?_, h.registers, h.pc, h.instructionCount, rfl⟩
    intro i hi
    by_cases hcell : i = memoryIndex a
    · subst hcell
      simp only [Function.update_self]
    · exact (Function.update_of_ne hcell ..).trans
        ((h.memory i hi).trans (Function.update_of_ne hcell ..).symm)

lemma SameButBeyond.memResult (reg : PipelineRegister) :
    (memResult cpu' reg).1 = (memResult cpu reg).1 ∧
      SameButBeyond (memResult cpu reg).2 (memResult cpu' reg).2 := by
  simp only [Fillet.memResult]
  split_ifs
  · obtain ⟨hvalue, hcpu⟩ := h.readMemory reg.address
    rw [hvalue]
    exact ⟨rfl, hcpu⟩
  · exact ⟨rfl, h.writeMemory _ _⟩
  · exact ⟨rfl, h⟩

lemma SameButBeyond.memAccessed (slot : StageSlot) :
    SameButBeyond (memAccessed cpu slot) (memAccessed cpu' slot) := by
  simp only [Fillet.memAccessed]
  split_ifs
  · exact (h.memResult _).2
  · exact h

lemma SameButBeyond.fetches (e : PipelineEngine) : fetches cpu' e = fetches cpu e := by
  simp only [Fillet.fetches, running]
  rw [h.pc, h.instructionCount]

lemma SameButBeyond.fetchedCpu (e : PipelineEngine) :
    SameButBeyond (fetchedCpu cpu e) (fetchedCpu cpu' e) := by
  simp only [Fillet.fetchedCpu]
  rw [h.fetches, h.pc]
  split_ifs
  · exact h.setPc _
  · exact h

lemma SameButBeyond.idCpu (e : PipelineEngine) : SameButBeyond (idCpu cpu e) (idCpu cpu' e) :=
  (h.fetchedCpu e).writtenBack _

/-- Inside the program both hold the same words. -/
lemma SameButBeyond.fetch (hcount : 0 ≤ cpu.instructionCount.toInt ∧
    cpu.instructionCount.toInt ≤ 1024) {a : UInt32} (ha : a < cpu.instructionCount.toUInt32) :
    memoryFetchInstruction cpu' a = memoryFetchInstruction cpu a := by
  have hsigned := toNat_toUInt32 cpu.instructionCount
  have hlt := UInt32.lt_iff_toNat_lt.mp ha
  obtain ⟨hrange, hindex⟩ := isInstructionAddress_toInt32 (a := a) (by omega)
  simp only [memoryFetchInstruction]
  rw [hrange, h.memory _ (Or.inl (by omega))]

lemma SameButBeyond.fetchEvents (hcount : 0 ≤ cpu.instructionCount.toInt ∧
    cpu.instructionCount.toInt ≤ 1024) (e : PipelineEngine) :
    fetchEvents cpu' e = fetchEvents cpu e ∧ fetchedSlot cpu' e = fetchedSlot cpu e ∧
      arrivedSlot cpu' e = arrivedSlot cpu e := by
  simp only [Fillet.fetchEvents, fetchedSlot, arrivedSlot]
  rw [h.fetches, h.pc]
  split_ifs with hf
  · rw [h.fetch hcount (pc_lt_of_fetches hf)]
    exact ⟨rfl, rfl, rfl⟩
  · exact ⟨rfl, rfl, rfl⟩

lemma SameButBeyond.latchedId (e : PipelineEngine) : latchedId cpu' e = latchedId cpu e := by
  have hread : readOperandWithForwarding (Fillet.idCpu cpu' e) (idEngine e) =
      readOperandWithForwarding (Fillet.idCpu cpu e) (idEngine e) := by
    funext r
    simp only [readOperandWithForwarding]
    rw [readRegister_congr (h.idCpu e).registers]
  simp only [Fillet.latchedId, latchDecodeOperands]
  rw [hread]

end Beyond

/-- Runs that do the same on CPUs that differ at most behind the program. -/
structure Alike (s s' : Simulation) : Prop where
  object : s.object = none ∧ s'.object = none
  cpu : SameButBeyond s.cpu s'.cpu
  engine : s'.engine = s.engine
  trace : s'.trace = s.trace

lemma FetchReady.alike (h : FetchReady e) (hsame : SameButBeyond cpu cpu')
    (hcount : 0 ≤ cpu.instructionCount.toInt ∧ cpu.instructionCount.toInt ≤ 1024) :
    Alike (simulateCycle ⟨cpu, none, e, t⟩) (simulateCycle ⟨cpu', none, e, t⟩) := by
  obtain ⟨hevents, hfetched, harrived⟩ := hsame.fetchEvents hcount e
  rcases odd_cycle_cases e with ⟨hv, a, htaken⟩ | hstall | ⟨hstall, hnone⟩
  · rw [odd_cycle_taken h hv htaken, odd_cycle_taken h hv htaken, hevents, hfetched]
    exact ⟨⟨rfl, rfl⟩, (hsame.idCpu e).setPc a, rfl, rfl⟩
  · rw [odd_cycle_stalled h hstall, odd_cycle_stalled h hstall, hevents, harrived, hsame.fetches]
    exact ⟨⟨rfl, rfl⟩, hsame.idCpu e, rfl, rfl⟩
  · rw [odd_cycle_flow h hstall hnone, odd_cycle_flow h hstall hnone, hevents, harrived,
      hsame.fetches, hsame.latchedId]
    exact ⟨⟨rfl, rfl⟩, hsame.idCpu e, rfl, rfl⟩

lemma FetchIdle.alike (h : FetchIdle e) (hsame : SameButBeyond cpu cpu') :
    Alike (simulateCycle ⟨cpu, none, e, t⟩) (simulateCycle ⟨cpu', none, e, t⟩) := by
  rw [even_cycle h, even_cycle h, (hsame.memResult _).1]
  exact ⟨⟨rfl, rfl⟩, hsame.memAccessed _, rfl, rfl⟩

/-- One cycle of both runs. -/
lemma Alike.next {s s' : Simulation} (h : Alike s s') (hs : Scheduled s)
    (hcount : 0 ≤ s.cpu.instructionCount.toInt ∧ s.cpu.instructionCount.toInt ≤ 1024) :
    Alike (simulateCycle s) (simulateCycle s') := by
  obtain ⟨cpu, object, e, t⟩ := s
  obtain ⟨cpu', object', e', t'⟩ := s'
  obtain ⟨⟨hobject, hobject'⟩, hcpu, hengine, htrace⟩ := h
  dsimp only at hobject hobject' hengine htrace
  subst hobject hobject' hengine htrace
  rcases hs.engine with hready | hidle
  · exact hready.alike hcpu hcount
  · exact hidle.alike hcpu

lemma Alike.hasWork {s s' : Simulation} (h : Alike s s') : s'.hasWork = s.hasWork := by
  obtain ⟨⟨hobject, hobject'⟩, hcpu, hengine, -⟩ := h
  simp only [Simulation.hasWork, Simulation.target, pipelineHasWork, hobject, hobject', hengine,
    hcpu.pc, hcpu.instructionCount, Option.getD_none]

lemma alike_simulate {loaded loaded' : CPU} (hloaded : Loaded loaded)
    (h : SameButBeyond loaded loaded') (n : ℕ) :
    Alike (simulate n loaded none) (simulate n loaded' none) := by
  have hboth : (Scheduled (simulate n loaded none) ∧
      (simulate n loaded none).cpu.instructionCount = loaded.instructionCount) ∧
        Alike (simulate n loaded none) (simulate n loaded' none) := by
    refine boundedWhile_related (R := fun s s' => (Scheduled s ∧
      s.cpu.instructionCount = loaded.instructionCount) ∧ Alike s s') ?_ ?_ n
      ⟨⟨scheduled_start loaded, rfl⟩, ⟨rfl, rfl⟩, h, rfl, rfl⟩
    · exact fun s s' hrelated => hrelated.2.hasWork
    · rintro s s' ⟨⟨hs, hcount⟩, halike⟩ -
      refine ⟨⟨hs.next, hs.sameProgram.count.trans hcount⟩, halike.next hs ?_⟩
      rw [hcount]
      exact hloaded.count
  exact hboth.2

/-- A program loaded after a reset is isolated in every cycle of its run, and the words behind it
have no influence on the run. -/
theorem program_isolation (filepath : List Char) (content : Option (List Char)) (n : ℕ) :
    Isolated (loadedCpu filepath content) (simulate n (loadedCpu filepath content) none) ∧
    ∀ cpu', SameButBeyond (loadedCpu filepath content) cpu' →
      Alike (simulate n (loadedCpu filepath content) none) (simulate n cpu' none) := by
  have hloaded := loaded_parse filepath content
  exact ⟨isolated_simulate hloaded n, fun cpu' hsame => alike_simulate hloaded hsame n⟩

end Fillet
