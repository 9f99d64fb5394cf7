import Fillet.Sequential

/-!
# What one cycle does

A run on the global CPU alternates between two shapes of the engine. Before an odd cycle MEM is
empty and WB, EX and ID are about to complete (`FetchReady`); before an even cycle WB is empty, MEM
is about to complete and EX and ID have two cycles left (`FetchIdle`). For each shape the whole
cycle is computed here, slot by slot: `odd_cycle_taken`, `odd_cycle_stalled` and `odd_cycle_flow`
for the three kinds of odd cycle, `even_cycle` for the even one.
-/

namespace Fillet

/-- A slot that is empty, or holds an instruction with `n` cycles left. -/
def Pending (slot : StageSlot) (n : Int) : Prop :=
  slot.reg.valid = true → slot.cyclesLeft = n ∧ slot.completed = false

/-- The target of the instruction in a slot, if it is a branch that is taken. -/
def takenTarget (slot : StageSlot) : Option UInt32 :=
  if slot.reg.valid then calculateBranchTarget slot.reg else none

/-- The slots behind ID hold decoded instructions. -/
structure BackDecoded (e : PipelineEngine) : Prop where
  ex : e.exStage.reg.valid = true → Decoded e.exStage.reg
  mem : e.memStage.reg.valid = true → Decoded e.memStage.reg
  wb : e.wbStage.reg.valid = true → Decoded e.wbStage.reg

/-- The engine before an odd cycle. -/
structure FetchReady (e : PipelineEngine) : Prop where
  cycle : e.cycle % 2 = 0
  wait : e.waitForTakenBranchMem = false
  mem : e.memStage.reg.valid = false
  wb : Pending e.wbStage 1
  ex : Pending e.exStage 1
  id : Pending e.idStage (if (evaluateIdHazard e).stalled then 2 else 1)
  ifs : e.ifStage.reg.valid = true →
    e.ifStage.completed = true ∧ e.idStage.reg.valid = true ∧ e.exStage.reg.valid = false
  decoded : BackDecoded e

/-- The engine before an even cycle. -/
structure FetchIdle (e : PipelineEngine) : Prop where
  cycle : e.cycle % 2 = 1
  wait : e.waitForTakenBranchMem = (takenTarget e.memStage).isSome
  held : e.waitForTakenBranchMem = true →
    e.ifStage.reg.valid = false ∧ e.idStage.reg.valid = false ∧ e.exStage.reg.valid = false
  wb : e.wbStage.reg.valid = false
  mem : Pending e.memStage 1
  ex : Pending e.exStage 2
  id : Pending e.idStage 2
  ifs : e.ifStage.reg.valid = true →
    e.ifStage.completed = true ∧ e.idStage.reg.valid = true ∧ e.exStage.reg.valid = false
  decoded : BackDecoded e

variable {cpu : CPU} {e : PipelineEngine} {t : Trace}

/-- The next cycle is an odd one. -/
lemma FetchReady.next_odd (h : FetchReady e) : (e.cycle + 1) % 2 = 1 := by
  have hcycle := h.cycle
  omega

/-- The next cycle is an even one. -/
lemma FetchIdle.next_even (h : FetchIdle e) : (e.cycle + 1) % 2 = 0 := by
  have hcycle := h.cycle
  omega

/-- An instruction that is not held completes ID in the next cycle. -/
lemma FetchReady.id_pending (h : FetchReady e) (hstall : (evaluateIdHazard e).stalled = false) :
    Pending e.idStage 1 := by
  have hpending := h.id
  rwa [if_neg (by simp [hstall])] at hpending

/-- Nothing waits in IF behind an empty ID. -/
lemma FetchReady.if_empty (h : FetchReady e) (hid : e.idStage.reg.valid = false) :
    e.ifStage.reg.valid = false := by
  by_contra hif
  have hbusy := (h.ifs (by simpa using hif)).2.1
  exact absurd (hid.symm.trans hbusy) (by decide)

/-! ### Slots -/

@[simp] lemma clearSlot_valid : clearSlot.reg.valid = false := rfl

@[simp] lemma setSlot_reg (reg : PipelineRegister) (n : Int) : (setSlot reg n).reg = reg := rfl

@[simp] lemma setSlot_cyclesLeft (reg : PipelineRegister) (n : Int) :
    (setSlot reg n).cyclesLeft = n := rfl

@[simp] lemma setSlot_completed (reg : PipelineRegister) (n : Int) :
    (setSlot reg n).completed = false := rfl

/-- A slot whose instruction has moved on. -/
def vacated (slot : StageSlot) : StageSlot :=
  if slot.reg.valid then clearSlot else slot

@[simp] lemma vacated_valid (slot : StageSlot) : (vacated slot).reg.valid = false := by
  simp only [vacated]
  split_ifs with h
  · rfl
  · simpa using h

/-- A slot whose instruction, if any, has completed with the register `reg`. -/
def finished (slot : StageSlot) (reg : PipelineRegister) : StageSlot :=
  if slot.reg.valid then { reg := reg, cyclesLeft := 0, completed := true } else slot

lemma finished_of_valid {slot : StageSlot} (h : slot.reg.valid = true) (reg : PipelineRegister) :
    finished slot reg = { reg := reg, cyclesLeft := 0, completed := true } := by
  simp [finished, h]

lemma finished_of_empty {slot : StageSlot} (h : slot.reg.valid = false) (reg : PipelineRegister) :
    finished slot reg = slot := by
  simp [finished, h]

/-- ID once its instruction has moved on, or has lost its validity because it has no format. -/
def departed (slot : StageSlot) (reg : PipelineRegister) : StageSlot :=
  if slot.reg.valid && reg.valid then clearSlot else finished slot reg

@[simp] lemma departed_valid (slot : StageSlot) (reg : PipelineRegister) :
    (departed slot reg).reg.valid = false := by
  simp only [departed, finished]
  split_ifs with hmoved hv
  · rfl
  · simpa [hv] using hmoved
  · simpa using hv

/-- The register file after the instruction in WB, if any, has written back. -/
def writtenBack (cpu : CPU) (slot : StageSlot) : CPU :=
  if slot.reg.valid then wbResult cpu slot.reg else cpu

/-- An event of a slot that happens when the slot holds an instruction. -/
def ifValid {α : Type*} (slot : StageSlot) (events : List α) : List α :=
  if slot.reg.valid then events else []

/-! ### Ticks -/

lemma tickSlot_of_empty (s : Simulation) (kind : StageKind) (allow : Bool)
    (h : (s.engine.stage kind).reg.valid = false) : tickSlot s kind allow = s := by
  simp [tickSlot, slotIsEmpty, h]

lemma tickSlot_of_completed {s : Simulation} {kind : StageKind} (allow : Bool)
    (h : (s.engine.stage kind).completed = true) : tickSlot s kind allow = s := by
  simp [tickSlot, h]

lemma tickSlot_held (s : Simulation) (kind : StageKind) : tickSlot s kind false = s := by
  simp [tickSlot]

/-- A slot with two cycles left only counts down. -/
lemma tickSlot_of_two {s : Simulation} {kind : StageKind}
    (h : Pending (s.engine.stage kind) 2) :
    tickSlot s kind true =
      { s with
        engine := s.engine.setStage kind
          (if (s.engine.stage kind).reg.valid then { s.engine.stage kind with cyclesLeft := 1 }
          else s.engine.stage kind) } := by
  by_cases hv : (s.engine.stage kind).reg.valid = true
  · obtain ⟨hleft, hcompleted⟩ := h hv
    simp [tickSlot, slotIsEmpty, hv, hleft, hcompleted]
  · simp only [Bool.not_eq_true] at hv
    rw [tickSlot_of_empty s kind true hv]
    cases kind <;> simp_all [PipelineEngine.setStage, PipelineEngine.stage]

lemma tickSlot_wb (h : Pending e.wbStage 1) :
    tickSlot ⟨cpu, none, e, t⟩ .stageWb true =
      ⟨writtenBack cpu e.wbStage, none,
        { e with wbStage := finished e.wbStage e.wbStage.reg },
        { t with
          completed := t.completed ++ ifValid e.wbStage [(e.cycle, .stageWb)]
          registerNumbers := t.registerNumbers ++
            ifValid e.wbStage (writeBackNumbers e.wbStage.reg)
          retired := t.retired ++ ifValid e.wbStage [(e.cycle, retirement e.wbStage.reg)] }⟩ := by
  by_cases hv : e.wbStage.reg.valid = true
  · obtain ⟨hleft, hcompleted⟩ := h hv
    simp [tickSlot, PipelineEngine.stage, PipelineEngine.setStage, slotIsEmpty, hv, hleft,
      hcompleted, completeWbStage, Simulation.setTarget, Simulation.target, writtenBack, finished,
      ifValid]
  · simp only [Bool.not_eq_true] at hv
    rw [tickSlot_of_empty ⟨cpu, none, e, t⟩ .stageWb true hv]
    simp [writtenBack, finished, ifValid, hv]

/-- MEM is ticked on the CPU WB has already written. -/
lemma tickSlot_mem (h : Pending e.memStage 1) :
    tickSlot ⟨cpu, none, e, t⟩ .stageMem true =
      ⟨if e.memStage.reg.valid then (memResult cpu e.memStage.reg).2 else cpu, none,
        { e with
          memStage := finished e.memStage (memResult cpu e.memStage.reg).1
          waitForTakenBranchMem :=
            if e.memStage.reg.valid = true ∧
              (e.memStage.reg.opcode = .jeq ∨ e.memStage.reg.opcode = .jmp) then false
            else e.waitForTakenBranchMem },
        { t with
          completed := t.completed ++ ifValid e.memStage [(e.cycle, .stageMem)]
          stores := t.stores ++ ifValid e.memStage (attemptedStore e.memStage.reg).toList }⟩ := by
  by_cases hv : e.memStage.reg.valid = true
  · obtain ⟨hleft, hcompleted⟩ := h hv
    by_cases hop : e.memStage.reg.opcode = .jeq ∨ e.memStage.reg.opcode = .jmp
    all_goals
      simp [tickSlot, PipelineEngine.stage, PipelineEngine.setStage, slotIsEmpty, hv, hleft,
        hcompleted, completeMemStage, Simulation.setTarget, Simulation.target, finished, ifValid,
        hop]
  · simp only [Bool.not_eq_true] at hv
    rw [tickSlot_of_empty ⟨cpu, none, e, t⟩ .stageMem true hv]
    simp [finished, ifValid, hv]

/-- For a decoded instruction the control signals of `complete_ex_stage` select exactly the
instructions that `calculate_branch_target` knows. -/
lemma Decoded.branch_or_jump {reg : PipelineRegister} (h : Decoded reg) :
    (reg.control.branch || reg.control.jump) = true ↔ reg.opcode = .jeq ∨ reg.opcode = .jmp := by
  rw [h.control]
  cases reg.opcode <;> simp [generateControlSignals, ControlSignals.zeroed]

lemma tickSlot_ex_untaken (h : Pending e.exStage 1)
    (hnone : takenTarget e.exStage = none) :
    tickSlot ⟨cpu, none, e, t⟩ .stageEx true =
      ⟨cpu, none, { e with exStage := finished e.exStage (exResult e.exStage.reg) },
        { t with completed := t.completed ++ ifValid e.exStage [(e.cycle, .stageEx)] }⟩ := by
  by_cases hv : e.exStage.reg.valid = true
  · obtain ⟨hleft, hcompleted⟩ := h hv
    rw [takenTarget, if_pos hv] at hnone
    simp [tickSlot, PipelineEngine.stage, PipelineEngine.setStage, slotIsEmpty, hv, hleft,
      hcompleted, completeExStage, calculateBranchTarget_exResult, hnone, finished, ifValid]
  · simp only [Bool.not_eq_true] at hv
    rw [tickSlot_of_empty ⟨cpu, none, e, t⟩ .stageEx true hv]
    simp [finished, ifValid, hv]

lemma tickSlot_ex_taken (a : UInt32) (h : Pending e.exStage 1) (hdecoded : Decoded e.exStage.reg)
    (hv : e.exStage.reg.valid = true)
    (htaken : calculateBranchTarget e.exStage.reg = some a) :
    tickSlot ⟨cpu, none, e, t⟩ .stageEx true =
      ⟨cpu.setPc a, none,
        { e with
          ifStage := clearSlot
          idStage := clearSlot
          exStage := finished e.exStage (exResult e.exStage.reg)
          waitForTakenBranchMem := true },
        { t with
          completed := t.completed ++ [(e.cycle, .stageEx)]
          decoded := t.decoded ++ flushDecodes e }⟩ := by
  obtain ⟨hleft, hcompleted⟩ := h hv
  have hbranch : e.exStage.reg.control.branch = true ∨ e.exStage.reg.control.jump = true := by
    simpa using hdecoded.branch_or_jump.mpr (calculateBranchTarget_opcode htaken)
  simp [tickSlot, PipelineEngine.stage, PipelineEngine.setStage, slotIsEmpty, hv, hleft,
    hcompleted, completeExStage, calculateBranchTarget_exResult, htaken, hbranch, finished,
    flushPipeline, flushDecodes, Simulation.setGlobalPc]

/-- Forwarding never looks at ID itself. -/
@[simp] lemma readOperandWithForwarding_idStage (slot : StageSlot) :
    readOperandWithForwarding cpu { e with idStage := slot } = readOperandWithForwarding cpu e :=
  rfl

lemma tickSlot_id (h : Pending e.idStage 1) :
    tickSlot ⟨cpu, none, e, t⟩ .stageId true =
      ⟨cpu, none,
        { e with idStage := finished e.idStage (latchDecodeOperands cpu e e.idStage.reg) },
        { t with
          completed := t.completed ++ ifValid e.idStage [(e.cycle, .stageId)]
          decoded := t.decoded ++ ifValid e.idStage [e.idStage.reg.rawInstruction]
          registerNumbers := t.registerNumbers ++
            ifValid e.idStage (latchedRegisters (decodeRawInstruction e.idStage.reg)) }⟩ := by
  by_cases hv : e.idStage.reg.valid = true
  · obtain ⟨hleft, hcompleted⟩ := h hv
    simp [tickSlot, PipelineEngine.stage, PipelineEngine.setStage, slotIsEmpty, hv, hleft,
      hcompleted, completeIdStage, Simulation.target, finished, ifValid, latchDecodeOperands]
  · simp only [Bool.not_eq_true] at hv
    rw [tickSlot_of_empty ⟨cpu, none, e, t⟩ .stageId true hv]
    simp [finished, ifValid, hv]

/-! ### The cycle counter -/

lemma tickSlot_cycle (s : Simulation) (kind : StageKind) (allow : Bool) :
    (tickSlot s kind allow).engine.cycle = s.engine.cycle := by
  have hsetStage : ∀ (e : PipelineEngine) (slot : StageSlot),
      (e.setStage kind slot).cycle = e.cycle := by
    intro e slot
    cases kind <;> rfl
  rw [tickSlot]
  dsimp only
  split_ifs
  · rfl
  · exact hsetStage _ _
  · cases kind with
    | stageIf => rfl
    | stageId => rfl
    | stageEx =>
      dsimp only [completeExStage]
      split_ifs
      · split <;> rfl
      · rfl
    | stageMem =>
      dsimp only [completeMemStage]
      split_ifs <;> cases s.object <;> rfl
    | stageWb =>
      dsimp only [completeWbStage]
      cases s.object <;> rfl

lemma transferCompletedStages_cycle (e : PipelineEngine) :
    (transferCompletedStages e).cycle = e.cycle := by
  have hwb : ∀ e, (transferWb e).cycle = e.cycle := by
    intro e; simp only [transferWb]; split_ifs <;> rfl
  have hmem : ∀ e, (transferMem e).cycle = e.cycle := by
    intro e; simp only [transferMem]; split_ifs <;> rfl
  have hex : ∀ e, (transferEx e).cycle = e.cycle := by
    intro e; simp only [transferEx]; split_ifs <;> rfl
  have hid : ∀ e, (transferId e).cycle = e.cycle := by
    intro e; simp only [transferId]; split_ifs <;> rfl
  have hif : ∀ e, (transferIf e).cycle = e.cycle := by
    intro e; simp only [transferIf]; split_ifs <;> rfl
  rw [transferCompletedStages, hif, hid, hex, hmem, hwb]

/-- Every round of the loop is one cycle. -/
lemma simulateCycle_cycle (s : Simulation) :
    (simulateCycle s).engine.cycle = s.engine.cycle + 1 := by
  have hfetch : (fetchPhase (beginCycle s)).engine.cycle = s.engine.cycle + 1 := by
    simp only [fetchPhase]
    split_ifs <;> rfl
  simp only [simulateCycle, frontPhase, backPhase, hazardPhase, transferCompletedStages_cycle,
    tickSlot_cycle, hfetch]

/-! ### The fetch of an odd cycle -/

/-- Whether an odd cycle fetches: the program counter is in the program and IF is free. -/
def fetches (cpu : CPU) (e : PipelineEngine) : Bool :=
  running cpu && !e.ifStage.reg.valid

/-- The CPU after the fetch. -/
def fetchedCpu (cpu : CPU) (e : PipelineEngine) : CPU :=
  if fetches cpu e then cpu.setPc (cpu.pc + 1) else cpu

/-- IF after the fetch. -/
def fetchedSlot (cpu : CPU) (e : PipelineEngine) : StageSlot :=
  if fetches cpu e then
    setSlot (fetchedRegister cpu.pc (memoryFetchInstruction cpu cpu.pc)) ifCycles
  else e.ifStage

/-- IF after its tick: whatever it holds has completed. -/
def arrivedSlot (cpu : CPU) (e : PipelineEngine) : StageSlot :=
  if fetches cpu e then
    { reg := fetchedRegister cpu.pc (memoryFetchInstruction cpu cpu.pc)
      cyclesLeft := 0
      completed := true }
  else e.ifStage

/-- The address and the word of the fetch. -/
def fetchEvents (cpu : CPU) (e : PipelineEngine) : List (UInt32 × UInt32) :=
  if fetches cpu e then [(cpu.pc, memoryFetchInstruction cpu cpu.pc)] else []

lemma arrivedSlot_completed (cpu : CPU) (h : FetchReady e)
    (hv : (arrivedSlot cpu e).reg.valid = true) : (arrivedSlot cpu e).completed = true := by
  simp only [arrivedSlot] at hv ⊢
  split_ifs with hf
  · rfl
  · rw [if_neg hf] at hv
    exact (h.ifs hv).1

lemma FetchReady.canFetch (h : FetchReady e) (cpu : CPU) :
    canFetchThisCycle cpu { e with cycle := e.cycle + 1 } = fetches cpu e := by
  have hodd : (e.cycle + 1) % 2 ≠ 0 := by
    rw [h.next_odd]
    decide
  by_cases hrun : cpu.pc < cpu.instructionCount.toUInt32
  · have hpc : ¬ cpu.instructionCount.toUInt32 ≤ cpu.pc := by simpa using hrun
    cases hif : e.ifStage.reg.valid <;>
      simp [canFetchThisCycle, fetches, running, slotIsEmpty, hodd, h.mem, h.wait, hrun, hpc, hif]
  · have hpc : cpu.instructionCount.toUInt32 ≤ cpu.pc := by simpa using hrun
    simp [canFetchThisCycle, fetches, running, hrun, hpc]

lemma FetchReady.fetchPhase (h : FetchReady e) :
    fetchPhase (beginCycle ⟨cpu, none, e, t⟩) =
      ⟨fetchedCpu cpu e, none, { e with cycle := e.cycle + 1, ifStage := fetchedSlot cpu e },
        { t with fetched := t.fetched ++ fetchEvents cpu e }⟩ := by
  have hcan := h.canFetch cpu
  by_cases hf : fetches cpu e = true
  · simp [Fillet.fetchPhase, beginCycle, Simulation.target, hcan, hf, fetchIntoIf, fetchedCpu,
      fetchedSlot, fetchEvents, Simulation.setGlobalPc]
  · simp [Fillet.fetchPhase, beginCycle, Simulation.target, hcan, hf, fetchedCpu, fetchedSlot,
      fetchEvents]

/-- The tick of IF, at any later point of the same cycle. -/
lemma FetchReady.tickSlot_if (h : FetchReady e) {c : CPU} {e' : PipelineEngine}
    (he' : e'.ifStage = fetchedSlot cpu e) :
    tickSlot ⟨c, none, e', t⟩ .stageIf true =
      ⟨c, none, { e' with ifStage := arrivedSlot cpu e },
        { t with
          completed := t.completed ++ if fetches cpu e then [(e'.cycle, .stageIf)] else [] }⟩ := by
  by_cases hf : fetches cpu e = true
  · simp [tickSlot, PipelineEngine.stage, PipelineEngine.setStage, slotIsEmpty, he', fetchedSlot,
      arrivedSlot, hf, fetchedRegister, ifCycles]
  · have hslot : e'.ifStage = arrivedSlot cpu e := by simp [he', fetchedSlot, arrivedSlot, hf]
    have htick : tickSlot ⟨c, none, e', t⟩ .stageIf true = ⟨c, none, e', t⟩ := by
      by_cases hv : (arrivedSlot cpu e).reg.valid = true
      · apply tickSlot_of_completed
        simpa [PipelineEngine.stage, hslot] using arrivedSlot_completed cpu h hv
      · apply tickSlot_of_empty
        simpa [PipelineEngine.stage, hslot] using hv
    rw [htick, ← hslot]
    simp [hf]

/-- The hazard unit looks at ID and EX only. -/
@[simp] lemma evaluateIdHazard_ifStage (c : ℕ) (slot : StageSlot) :
    evaluateIdHazard { e with cycle := c, ifStage := slot } = evaluateIdHazard e :=
  rfl

@[simp] lemma hazardDecodes_ifStage (c : ℕ) (slot : StageSlot) :
    hazardDecodes { e with cycle := c, ifStage := slot } = hazardDecodes e :=
  rfl

/-- ID is held exactly while the load in EX is about to produce one of its registers. -/
lemma stalled_iff (e : PipelineEngine) :
    (evaluateIdHazard e).stalled = true ↔
      (e.idStage.reg.valid = true ∧ e.idStage.completed = false) ∧
      (e.exStage.reg.valid = true ∧ e.exStage.reg.opcode = .movr) ∧ 0 < e.exStage.reg.r1 ∧
      instructionReadsRegister (decodeRawInstruction e.idStage.reg) e.exStage.reg.r1 = true := by
  have hvalid : ∀ r, instructionReadsRegister (decodeRawInstruction e.idStage.reg) r = true →
      (decodeRawInstruction e.idStage.reg).valid = true := by
    intro r hr
    by_contra hinvalid
    simp [instructionReadsRegister, hinvalid] at hr
  by_cases hid : e.idStage.reg.valid = true ∧ e.idStage.completed = false
  · by_cases hex : e.exStage.reg.valid = true ∧ e.exStage.reg.opcode = .movr
    · have hdest : destinationRegister e.exStage.reg = e.exStage.reg.r1 := by
        simp [destinationRegister, instructionWritesRegister, hex, opcodeWritesRegister]
      have hreads := hvalid e.exStage.reg.r1
      by_cases hconsumer : (decodeRawInstruction e.idStage.reg).valid = true
      · simp only [evaluateIdHazard, slotIsEmpty, hid, hconsumer, hex, hdest]
        simp
        split_ifs with hcond <;> simp_all
      · have hnot := mt hreads hconsumer
        simp [evaluateIdHazard, slotIsEmpty, hid, hconsumer, hnot]
    · have hnot : (!slotIsEmpty e.exStage && decide (e.exStage.reg.opcode = .movr)) = false := by
        simpa [slotIsEmpty] using hex
      simp only [hex, false_and, and_false, iff_false]
      simp only [evaluateIdHazard, hnot]
      split_ifs <;> simp_all
  · have hnot : (slotIsEmpty e.idStage || e.idStage.completed) = true := by
      simp only [slotIsEmpty]
      by_contra hcon
      simp_all
    simp [evaluateIdHazard, hnot, hid]

/-- The load that holds ID is no branch. -/
lemma takenTarget_of_stalled (h : (evaluateIdHazard e).stalled = true) :
    takenTarget e.exStage = none := by
  obtain ⟨-, ⟨-, hop⟩, -, -⟩ := (stalled_iff e).mp h
  simp [takenTarget, calculateBranchTarget, hop]

/-! ### The stages before ID in an odd cycle -/

/-- WB completes, MEM is empty and EX completes without a taken branch. -/
lemma FetchReady.backPhase_untaken (h : FetchReady e) (hnone : takenTarget e.exStage = none)
    (c : ℕ) (slot : StageSlot) :
    backPhase ⟨cpu, none, { e with cycle := c, ifStage := slot }, t⟩ =
      ⟨writtenBack cpu e.wbStage, none,
        { e with
          cycle := c
          ifStage := slot
          wbStage := finished e.wbStage e.wbStage.reg
          exStage := finished e.exStage (exResult e.exStage.reg) },
        { t with
          registerNumbers := t.registerNumbers ++
            ifValid e.wbStage (writeBackNumbers e.wbStage.reg)
          completed := t.completed ++ (ifValid e.wbStage [(c, .stageWb)] ++
            ifValid e.exStage [(c, .stageEx)])
          retired := t.retired ++ ifValid e.wbStage [(c, retirement e.wbStage.reg)] }⟩ := by
  rw [backPhase, tickSlot_wb, tickSlot_of_empty _ .stageMem true, tickSlot_ex_untaken]
  · simp only [List.append_assoc]
  · exact h.ex
  · exact hnone
  · exact h.mem
  · exact h.wb

/-- WB completes, MEM is empty and EX resolves a taken branch. -/
lemma FetchReady.backPhase_taken (h : FetchReady e) (hv : e.exStage.reg.valid = true) {a : UInt32}
    (htaken : calculateBranchTarget e.exStage.reg = some a) (c : ℕ) (slot : StageSlot) :
    backPhase ⟨cpu, none, { e with cycle := c, ifStage := slot }, t⟩ =
      ⟨(writtenBack cpu e.wbStage).setPc a, none,
        { e with
          cycle := c
          ifStage := clearSlot
          idStage := clearSlot
          wbStage := finished e.wbStage e.wbStage.reg
          exStage := finished e.exStage (exResult e.exStage.reg)
          waitForTakenBranchMem := true },
        { t with
          decoded := t.decoded ++ flushDecodes { e with ifStage := slot }
          registerNumbers := t.registerNumbers ++
            ifValid e.wbStage (writeBackNumbers e.wbStage.reg)
          completed := t.completed ++ (ifValid e.wbStage [(c, .stageWb)] ++ [(c, .stageEx)])
          retired := t.retired ++ ifValid e.wbStage [(c, retirement e.wbStage.reg)] }⟩ := by
  rw [backPhase, tickSlot_wb, tickSlot_of_empty _ .stageMem true, tickSlot_ex_taken a]
  · simp only [List.append_assoc, flushDecodes]
  · exact h.ex
  · exact h.decoded.ex hv
  · exact hv
  · exact htaken
  · exact h.mem
  · exact h.wb

/-! ### The three kinds of odd cycle -/

/-- An odd cycle in which EX resolves a taken branch: IF and ID are flushed. -/
theorem odd_cycle_taken (h : FetchReady e) (hv : e.exStage.reg.valid = true) {a : UInt32}
    (htaken : calculateBranchTarget e.exStage.reg = some a) :
    simulateCycle ⟨cpu, none, e, t⟩ =
      ⟨(writtenBack (fetchedCpu cpu e) e.wbStage).setPc a, none,
        { ifStage := clearSlot
          idStage := clearSlot
          exStage := clearSlot
          memStage := setSlot (exResult e.exStage.reg) memCycles
          wbStage := vacated e.wbStage
          cycle := e.cycle + 1
          waitForTakenBranchMem := true },
        { fetched := t.fetched ++ fetchEvents cpu e
          decoded := t.decoded ++ (hazardDecodes e ++
            flushDecodes { e with ifStage := fetchedSlot cpu e })
          registerNumbers := t.registerNumbers ++
            ifValid e.wbStage (writeBackNumbers e.wbStage.reg)
          completed := t.completed ++ (ifValid e.wbStage [(e.cycle + 1, .stageWb)] ++
            [(e.cycle + 1, .stageEx)])
          retired := t.retired ++ ifValid e.wbStage [(e.cycle + 1, retirement e.wbStage.reg)]
          stores := t.stores
          validated := t.validated ++ [true] }⟩ := by
  have hodd := h.next_odd
  dsimp only [simulateCycle]
  rw [h.fetchPhase]
  simp only [hazardPhase, frontPhase, evaluateIdHazard_ifStage, hazardDecodes_ifStage]
  rw [h.backPhase_taken hv htaken, tickSlot_of_empty _ .stageId _ rfl,
    tickSlot_of_empty _ .stageIf _ rfl]
  cases hwbv : e.wbStage.reg.valid <;>
    simp [transferCompletedStages, transferWb, transferMem, transferEx, transferId, transferIf,
      slotIsEmpty, finished, vacated, hwbv, hv, h.mem, beginCycle, validatePipeline, hodd]

/-- The engine that ID reads its operands from: WB has been written and EX has been computed. -/
def idEngine (e : PipelineEngine) : PipelineEngine :=
  { e with
    wbStage := finished e.wbStage e.wbStage.reg
    exStage := finished e.exStage (exResult e.exStage.reg) }

/-- The CPU that ID reads its operands from. -/
def idCpu (cpu : CPU) (e : PipelineEngine) : CPU :=
  writtenBack (fetchedCpu cpu e) e.wbStage

/-- The instruction in ID with the operands it latches in an odd cycle. -/
def latchedId (cpu : CPU) (e : PipelineEngine) : PipelineRegister :=
  latchDecodeOperands (idCpu cpu e) (idEngine e) e.idStage.reg

/-- An odd cycle in which ID waits for a load: EX drains, the fetched instruction waits in IF. -/
theorem odd_cycle_stalled (h : FetchReady e) (hstall : (evaluateIdHazard e).stalled = true) :
    simulateCycle ⟨cpu, none, e, t⟩ =
      ⟨idCpu cpu e, none,
        { e with
          ifStage := arrivedSlot cpu e
          exStage := clearSlot
          memStage := setSlot (exResult e.exStage.reg) memCycles
          wbStage := vacated e.wbStage
          cycle := e.cycle + 1 },
        { fetched := t.fetched ++ fetchEvents cpu e
          decoded := t.decoded ++ hazardDecodes e
          registerNumbers := t.registerNumbers ++
            ifValid e.wbStage (writeBackNumbers e.wbStage.reg)
          completed := t.completed ++ (ifValid e.wbStage [(e.cycle + 1, .stageWb)] ++
            ([(e.cycle + 1, .stageEx)] ++
              if fetches cpu e then [(e.cycle + 1, .stageIf)] else []))
          retired := t.retired ++ ifValid e.wbStage [(e.cycle + 1, retirement e.wbStage.reg)]
          stores := t.stores
          validated := t.validated ++ [true] }⟩ := by
  obtain ⟨⟨hid, -⟩, ⟨hex, -⟩, -, -⟩ := (stalled_iff e).mp hstall
  have hodd := h.next_odd
  have hnone := takenTarget_of_stalled hstall
  have hleft : e.idStage.cyclesLeft = 2 := by
    have hpending := (h.id hid).1
    rwa [if_pos hstall] at hpending
  have hcompleted : e.idStage.completed = false := (h.id hid).2
  dsimp only [simulateCycle]
  rw [h.fetchPhase]
  simp only [hazardPhase, frontPhase, evaluateIdHazard_ifStage, hazardDecodes_ifStage]
  rw [h.backPhase_untaken hnone, hstall, Bool.not_true, tickSlot_held, h.tickSlot_if rfl]
  cases hwbv : e.wbStage.reg.valid <;>
    simp [transferCompletedStages, transferWb, transferMem, transferEx, transferId, transferIf,
      slotIsEmpty, finished, vacated, hwbv, hex, hid, hleft, hcompleted, h.mem, beginCycle,
      validatePipeline, hodd, idCycles, idCpu, ifValid]

/-- An odd cycle in which every slot moves on. -/
theorem odd_cycle_flow (h : FetchReady e) (hstall : (evaluateIdHazard e).stalled = false)
    (hnone : takenTarget e.exStage = none) :
    simulateCycle ⟨cpu, none, e, t⟩ =
      ⟨idCpu cpu e, none,
        { ifStage := vacated (arrivedSlot cpu e)
          idStage :=
            if (arrivedSlot cpu e).reg.valid then setSlot (arrivedSlot cpu e).reg idCycles
            else departed e.idStage (latchedId cpu e)
          exStage :=
            if e.idStage.reg.valid && (latchedId cpu e).valid then
              setSlot (latchedId cpu e) exCycles
            else vacated e.exStage
          memStage :=
            if e.exStage.reg.valid then setSlot (exResult e.exStage.reg) memCycles else e.memStage
          wbStage := vacated e.wbStage
          cycle := e.cycle + 1
          waitForTakenBranchMem := false },
        { fetched := t.fetched ++ fetchEvents cpu e
          decoded := t.decoded ++ (hazardDecodes e ++
            ifValid e.idStage [e.idStage.reg.rawInstruction])
          registerNumbers := t.registerNumbers ++
            (ifValid e.wbStage (writeBackNumbers e.wbStage.reg) ++
              ifValid e.idStage (latchedRegisters (decodeRawInstruction e.idStage.reg)))
          completed := t.completed ++ (ifValid e.wbStage [(e.cycle + 1, .stageWb)] ++
            (ifValid e.exStage [(e.cycle + 1, .stageEx)] ++
              (ifValid e.idStage [(e.cycle + 1, .stageId)] ++
                if fetches cpu e then [(e.cycle + 1, .stageIf)] else [])))
          retired := t.retired ++ ifValid e.wbStage [(e.cycle + 1, retirement e.wbStage.reg)]
          stores := t.stores
          validated := t.validated ++ [true] }⟩ := by
  have hodd := h.next_odd
  have hid := h.id_pending hstall
  have harrived := arrivedSlot_completed cpu h
  dsimp only [simulateCycle]
  rw [h.fetchPhase]
  simp only [hazardPhase, frontPhase, evaluateIdHazard_ifStage, hazardDecodes_ifStage]
  rw [h.backPhase_untaken hnone, hstall, Bool.not_false, tickSlot_id, h.tickSlot_if rfl]
  · have hlatched : ∀ c slot, latchDecodeOperands (writtenBack (fetchedCpu cpu e) e.wbStage)
        { e with
          cycle := c
          ifStage := slot
          wbStage := finished e.wbStage e.wbStage.reg
          exStage := finished e.exStage (exResult e.exStage.reg) } e.idStage.reg =
        latchedId cpu e := fun _ _ => rfl
    simp only [hlatched]
    generalize latchedId cpu e = latched
    generalize arrivedSlot cpu e = arrived at harrived ⊢
    cases hwbv : e.wbStage.reg.valid <;> cases hexv : e.exStage.reg.valid <;>
    cases hidv : e.idStage.reg.valid <;> cases hlv : latched.valid <;>
    cases harv : arrived.reg.valid <;>
      simp [transferCompletedStages, transferWb, transferMem, transferEx, transferId, transferIf,
      slotIsEmpty, finished, vacated, departed, hwbv, hexv, hidv, hlv, harv, harrived, h.mem,
      beginCycle, validatePipeline, hodd, idCycles, exCycles, idCpu, ifValid, h.wait]
  · exact hid

/-! ### The even cycle -/

/-- A slot with two cycles left after its first tick. -/
def counted (slot : StageSlot) : StageSlot :=
  if slot.reg.valid then { slot with cyclesLeft := 1 } else slot

@[simp] lemma counted_reg (slot : StageSlot) : (counted slot).reg = slot.reg := by
  simp only [counted]
  split_ifs <;> rfl

@[simp] lemma counted_completed (slot : StageSlot) : (counted slot).completed = slot.completed := by
  simp only [counted]
  split_ifs <;> rfl

/-- ID after an even cycle: it counts down unless a hazard holds it. -/
def countedUnless (stalled : Bool) (slot : StageSlot) : StageSlot :=
  if stalled then slot else counted slot

@[simp] lemma countedUnless_reg (stalled : Bool) (slot : StageSlot) :
    (countedUnless stalled slot).reg = slot.reg := by
  cases stalled <;> simp [countedUnless]

@[simp] lemma countedUnless_completed (stalled : Bool) (slot : StageSlot) :
    (countedUnless stalled slot).completed = slot.completed := by
  cases stalled <;> simp [countedUnless]

lemma Pending.counted {slot : StageSlot} (h : Pending slot 2) : Pending (counted slot) 1 := by
  intro hv
  rw [counted_reg] at hv
  rw [counted_completed]
  exact ⟨by simp [Fillet.counted, hv], (h hv).2⟩

lemma Pending.countedUnless {slot : StageSlot} (h : Pending slot 2) (stalled : Bool) :
    Pending (countedUnless stalled slot) (if stalled then 2 else 1) := by
  cases stalled
  · exact h.counted
  · exact h

/-- The memory access of the instruction in MEM, if there is one. -/
def memAccessed (cpu : CPU) (slot : StageSlot) : CPU :=
  if slot.reg.valid then (memResult cpu slot.reg).2 else cpu

/-- A branch that was taken is released when it completes MEM, so no hold survives an even cycle. -/
lemma FetchIdle.released (h : FetchIdle e) :
    (if e.memStage.reg.valid = true ∧
        (e.memStage.reg.opcode = .jeq ∨ e.memStage.reg.opcode = .jmp) then false
      else e.waitForTakenBranchMem) = false := by
  split_ifs with hbranch
  · rfl
  · rw [h.wait, takenTarget]
    split_ifs with hv
    · cases htarget : calculateBranchTarget e.memStage.reg with
      | none => rfl
      | some a => exact absurd ⟨hv, calculateBranchTarget_opcode htarget⟩ hbranch
    · rfl

/-! Slots that do not move in an even cycle. -/

lemma transferWb_of_empty (h : e.wbStage.reg.valid = false) : transferWb e = e := by
  simp [transferWb, slotIsEmpty, h]

lemma transferEx_of_busy (h : e.exStage.reg.valid = true → e.exStage.completed = false) :
    transferEx e = e := by
  cases hv : e.exStage.reg.valid <;> simp [transferEx, slotIsEmpty, hv, h]

lemma transferId_of_busy (h : e.idStage.reg.valid = true → e.idStage.completed = false) :
    transferId e = e := by
  cases hv : e.idStage.reg.valid <;> simp [transferId, slotIsEmpty, hv, h]

lemma transferIf_of_blocked (h : e.ifStage.reg.valid = true → e.idStage.reg.valid = true) :
    transferIf e = e := by
  cases hv : e.ifStage.reg.valid <;> simp [transferIf, slotIsEmpty, hv, h]

/-- In an even cycle only the instruction in MEM moves. -/
lemma transfer_idle (hwb : e.wbStage.reg.valid = false)
    (hex : e.exStage.reg.valid = true → e.exStage.completed = false)
    (hid : e.idStage.reg.valid = true → e.idStage.completed = false)
    (hif : e.ifStage.reg.valid = true → e.idStage.reg.valid = true) :
    transferCompletedStages e = transferMem e := by
  rw [transferCompletedStages, transferWb_of_empty hwb, transferEx_of_busy, transferId_of_busy,
    transferIf_of_blocked] <;> simp only [transferMem] <;> split_ifs <;> assumption

/-- The tick of EX in an even cycle. -/
lemma tickSlot_ex_two (h : Pending e.exStage 2) :
    tickSlot ⟨cpu, none, e, t⟩ .stageEx true =
      ⟨cpu, none, { e with exStage := counted e.exStage }, t⟩ := by
  rw [tickSlot_of_two]
  · rfl
  · exact h

/-- The tick of ID in an even cycle. -/
lemma tickSlot_id_two (h : Pending e.idStage 2) (stalled : Bool) :
    tickSlot ⟨cpu, none, e, t⟩ .stageId (!stalled) =
      ⟨cpu, none, { e with idStage := countedUnless stalled e.idStage }, t⟩ := by
  cases stalled
  · rw [Bool.not_false, tickSlot_of_two]
    · rfl
    · exact h
  · exact tickSlot_held _ _

lemma FetchIdle.not_canFetch (h : FetchIdle e) (cpu : CPU) :
    canFetchThisCycle cpu { e with cycle := e.cycle + 1 } = false := by
  simp [canFetchThisCycle, h.next_even]

/-- Nothing is fetched in an even cycle. -/
lemma FetchIdle.fetchPhase (h : FetchIdle e) :
    fetchPhase (beginCycle ⟨cpu, none, e, t⟩) =
      ⟨cpu, none, { e with cycle := e.cycle + 1 }, t⟩ := by
  simp [Fillet.fetchPhase, beginCycle, Simulation.target, h.not_canFetch]

/-- An even cycle: MEM completes and releases the fetch, EX and ID count down. -/
theorem even_cycle (h : FetchIdle e) :
    simulateCycle ⟨cpu, none, e, t⟩ =
      ⟨memAccessed cpu e.memStage, none,
        { ifStage := e.ifStage
          idStage := countedUnless (evaluateIdHazard e).stalled e.idStage
          exStage := counted e.exStage
          memStage := vacated e.memStage
          wbStage :=
            if e.memStage.reg.valid then setSlot (memResult cpu e.memStage.reg).1 wbCycles
            else e.wbStage
          cycle := e.cycle + 1
          waitForTakenBranchMem := false },
        { t with
          decoded := t.decoded ++ hazardDecodes e
          completed := t.completed ++ ifValid e.memStage [(e.cycle + 1, .stageMem)]
          stores := t.stores ++ ifValid e.memStage (attemptedStore e.memStage.reg).toList
          validated := t.validated ++ [true] }⟩ := by
  have heven := h.next_even
  have hcan := h.not_canFetch cpu
  have hif : ∀ (c : CPU) (e' : PipelineEngine) (t' : Trace), e'.ifStage = e.ifStage →
      tickSlot ⟨c, none, e', t'⟩ .stageIf true = ⟨c, none, e', t'⟩ := by
    intro c e' t' he'
    by_cases hv : e.ifStage.reg.valid = true
    · apply tickSlot_of_completed
      simpa [PipelineEngine.stage, he'] using (h.ifs hv).1
    · apply tickSlot_of_empty
      simpa [PipelineEngine.stage, he'] using hv
  dsimp only [simulateCycle]
  rw [h.fetchPhase]
  have hhazard : evaluateIdHazard { e with cycle := e.cycle + 1 } = evaluateIdHazard e := rfl
  have hdecodes : hazardDecodes { e with cycle := e.cycle + 1 } = hazardDecodes e := rfl
  simp only [hazardPhase, backPhase, frontPhase, hhazard, hdecodes]
  rw [tickSlot_of_empty _ .stageWb true, tickSlot_mem, tickSlot_ex_two, tickSlot_id_two, hif]
  · have hexleft : e.exStage.reg.valid = false ∨ (counted e.exStage).cyclesLeft ≤ 2 := by
      cases hv : e.exStage.reg.valid
      · exact Or.inl rfl
      · exact Or.inr (by rw [(h.ex.counted (by simpa using hv)).1]; decide)
    have hidleft : e.idStage.reg.valid = false ∨
        (countedUnless (evaluateIdHazard e).stalled e.idStage).cyclesLeft ≤ 2 := by
      cases hv : e.idStage.reg.valid
      · exact Or.inl rfl
      · right
        rw [(h.id.countedUnless (evaluateIdHazard e).stalled (by simpa using hv)).1]
        split_ifs <;> decide
    simp only [h.released]
    rw [transfer_idle]
    · cases hmemv : e.memStage.reg.valid <;>
        simp [transferMem, slotIsEmpty, finished, vacated, hmemv, h.wb, beginCycle,
          validatePipeline, hcan, Simulation.target, idCycles, exCycles, ifValid, memAccessed,
          hexleft, hidleft]
    · exact h.wb
    · simpa using fun hv => (h.ex hv).2
    · simpa using fun hv => (h.id hv).2
    · simpa using fun hv => (h.ifs hv).2.1
  · rfl
  · exact h.id
  · exact h.ex
  · exact h.mem
  · exact h.wb

end Fillet
