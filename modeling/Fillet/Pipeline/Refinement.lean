import Fillet.Pipeline.Forwarding

/-!
# The pipeline refines the sequential machine

A state of the run stands for the sequential state in which everything that has left ID has
completed and the program counter is the address of the next instruction to leave ID
(`sequentialView`). A cycle in which an instruction leaves ID is one step of the sequential machine,
every other cycle leaves the view as it is.
-/

namespace Fillet

open BoundedLoop

variable {cpu : CPU} {e : PipelineEngine} {t : Trace}

/-- The address of the next instruction to leave ID: the target of a taken branch in EX, or else the
oldest address fetched but not decoded. -/
def resumePc (cpu : CPU) (e : PipelineEngine) : UInt32 :=
  match takenTarget e.exStage with
  | some target => target
  | none =>
    if e.idStage.reg.valid then e.idStage.reg.pc
    else if e.ifStage.reg.valid then e.ifStage.reg.pc
    else cpu.pc

/-- The sequential state a state of the run stands for. -/
def sequentialView (s : Simulation) : Sequential :=
  (drained s).setPc (resumePc s.cpu s.engine)

/-! ### The instructions between fetch and decode -/

/-- A register that holds the word at its address, inside the program. -/
structure FetchedFrom (cpu : CPU) (reg : PipelineRegister) : Prop where
  raw : reg.rawInstruction = memoryFetchInstruction cpu reg.pc
  inside : reg.pc < cpu.instructionCount.toUInt32

/-- ID, IF and the program counter hold consecutive addresses. -/
structure FetchedInOrder (cpu : CPU) (e : PipelineEngine) : Prop where
  id : e.idStage.reg.valid = true → FetchedFrom cpu e.idStage.reg ∧
    e.idStage.reg.pc + 1 = if e.ifStage.reg.valid then e.ifStage.reg.pc else cpu.pc
  ifs : e.ifStage.reg.valid = true → FetchedFrom cpu e.ifStage.reg ∧
    e.ifStage.reg.pc + 1 = cpu.pc

/-- A fetch only looks at instruction memory. -/
lemma memoryFetchInstruction_congr {cpu cpu' : CPU}
    (h : ∀ i : Fin memorySize, i.val < 1024 → cpu'.memory i = cpu.memory i) (a : UInt32) :
    memoryFetchInstruction cpu' a = memoryFetchInstruction cpu a := by
  simp only [memoryFetchInstruction]
  split_ifs with hrange
  · rfl
  · rw [h]
    have hsmall := (isInstructionAddress_iff _).mp (by simpa using hrange)
    show a.toInt32.toInt.toNat % 2048 < 1024
    omega

/-- The program as fetch sees it: instruction memory and the number of instructions. -/
structure SameProgram (cpu cpu' : CPU) : Prop where
  memory : ∀ i : Fin memorySize, i.val < 1024 → cpu'.memory i = cpu.memory i
  count : cpu'.instructionCount = cpu.instructionCount

lemma SameProgram.refl (cpu : CPU) : SameProgram cpu cpu := ⟨fun _ _ => rfl, rfl⟩

lemma SameProgram.symm {cpu cpu' : CPU} (h : SameProgram cpu cpu') : SameProgram cpu' cpu where
  memory i hi := (h.memory i hi).symm
  count := h.count.symm

lemma SameProgram.trans {cpu cpu' cpu'' : CPU} (h : SameProgram cpu cpu')
    (h' : SameProgram cpu' cpu'') : SameProgram cpu cpu'' where
  memory i hi := (h'.memory i hi).trans (h.memory i hi)
  count := h'.count.trans h.count

/-- Every word of the program has an opcode with a format. -/
def Formatted (cpu : CPU) : Prop :=
  ∀ a, a < cpu.instructionCount.toUInt32 → (rawOpcode (memoryFetchInstruction cpu a)).code < 12

lemma Formatted.sameProgram {cpu cpu' : CPU} (h : Formatted cpu) (hsame : SameProgram cpu cpu') :
    Formatted cpu' := by
  intro a ha
  rw [hsame.count] at ha
  rw [memoryFetchInstruction_congr hsame.memory]
  exact h a ha

lemma sameProgram_setPc (cpu : CPU) (w : UInt32) : SameProgram cpu (cpu.setPc w) :=
  ⟨fun _ _ => rfl, rfl⟩

lemma sameProgram_wbResult (cpu : CPU) (reg : PipelineRegister) :
    SameProgram cpu (wbResult cpu reg) where
  memory _ _ := by rw [wbResult_memory]
  count := wbResult_instructionCount cpu reg

lemma sameProgram_memResult (cpu : CPU) (reg : PipelineRegister) :
    SameProgram cpu (memResult cpu reg).2 where
  memory _ hi := memResult_instruction cpu reg hi
  count := memResult_instructionCount cpu reg

lemma sameProgram_fetchedCpu (cpu : CPU) (e : PipelineEngine) :
    SameProgram cpu (fetchedCpu cpu e) := by
  simp only [fetchedCpu]
  split_ifs
  · exact sameProgram_setPc cpu _
  · exact .refl cpu

lemma sameProgram_writtenBack (cpu : CPU) (slot : StageSlot) :
    SameProgram cpu (writtenBack cpu slot) := by
  simp only [writtenBack]
  split_ifs
  · exact sameProgram_wbResult cpu _
  · exact .refl cpu

lemma sameProgram_idCpu (cpu : CPU) (e : PipelineEngine) : SameProgram cpu (idCpu cpu e) :=
  (sameProgram_fetchedCpu cpu e).trans (sameProgram_writtenBack _ _)

lemma sameProgram_memAccessed (cpu : CPU) (slot : StageSlot) :
    SameProgram cpu (memAccessed cpu slot) := by
  simp only [memAccessed]
  split_ifs
  · exact sameProgram_memResult cpu _
  · exact .refl cpu

/-- A later state of a sequential run: more has happened, and the program is the same. -/
structure Extends (m m' : Sequential) : Prop where
  retired : m.retired <+: m'.retired
  stores : m.stores <+: m'.stores
  program : SameProgram m.cpu m'.cpu

lemma Extends.refl (m : Sequential) : Extends m m :=
  ⟨List.prefix_refl _, List.prefix_refl _, .refl _⟩

lemma Extends.trans {m m' m'' : Sequential} (h : Extends m m') (h' : Extends m' m'') :
    Extends m m'' where
  retired := h.retired.trans h'.retired
  stores := h.stores.trans h'.stores
  program := h.program.trans h'.program

lemma extends_writeBack (m : Sequential) (reg : PipelineRegister) :
    Extends m (m.writeBack reg) where
  retired := List.prefix_append _ _
  stores := List.prefix_refl _
  program := sameProgram_wbResult _ _

lemma extends_finish (m : Sequential) (reg : PipelineRegister) : Extends m (m.finish reg) where
  retired := List.prefix_append _ _
  stores := List.prefix_append _ _
  program := (sameProgram_memResult _ _).trans (sameProgram_wbResult _ _)

lemma extends_setPc (m : Sequential) (w : UInt32) : Extends m (m.setPc w) :=
  ⟨List.prefix_refl _, List.prefix_refl _, sameProgram_setPc _ _⟩

lemma extends_step (m : Sequential) : Extends m m.step := by
  rw [Sequential.step]
  dsimp only
  split_ifs
  · exact .refl m
  · exact extends_setPc m _
  · exact (extends_finish m _).trans (extends_setPc _ _)

/-- Draining only adds to the history. -/
lemma extends_drained (s : Simulation) : Extends (history s) (drained s) := by
  have hwb : ∀ m, Extends m (drainWb m s.engine.wbStage) := by
    intro m
    simp only [drainWb]
    split_ifs
    · exact extends_writeBack _ _
    · exact .refl _
  have hmem : ∀ m, Extends m (drainMem m s.engine.memStage) := by
    intro m
    simp only [drainMem]
    split_ifs
    · exact extends_finish _ _
    · exact .refl _
  have hex : ∀ m, Extends m (drainEx m s.engine.exStage) := by
    intro m
    simp only [drainEx]
    split_ifs
    · exact extends_finish _ _
    · exact .refl _
  exact (hwb _).trans ((hmem _).trans (hex _))

lemma FetchedFrom.sameProgram {cpu cpu' : CPU} {reg : PipelineRegister} (h : FetchedFrom cpu reg)
    (hsame : SameProgram cpu cpu') : FetchedFrom cpu' reg where
  raw := h.raw.trans (memoryFetchInstruction_congr hsame.memory _).symm
  inside := by
    rw [hsame.count]
    exact h.inside

@[simp] lemma writtenBack_pc (cpu : CPU) (slot : StageSlot) :
    (writtenBack cpu slot).pc = cpu.pc := by
  simp only [writtenBack]
  split_ifs
  · exact wbResult_pc cpu _
  · rfl

@[simp] lemma idCpu_pc (cpu : CPU) (e : PipelineEngine) :
    (idCpu cpu e).pc = (fetchedCpu cpu e).pc := by
  simp [idCpu]

@[simp] lemma memAccessed_pc (cpu : CPU) (slot : StageSlot) :
    (memAccessed cpu slot).pc = cpu.pc := by
  simp only [memAccessed]
  split_ifs
  · exact memResult_pc cpu _
  · rfl

/-- Whatever IF holds after its tick was fetched in order. -/
lemma FetchedInOrder.arrived (h : FetchedInOrder cpu e)
    (hv : (arrivedSlot cpu e).reg.valid = true) :
    FetchedFrom cpu (arrivedSlot cpu e).reg ∧
      (arrivedSlot cpu e).reg.pc + 1 = (fetchedCpu cpu e).pc := by
  simp only [arrivedSlot] at hv ⊢
  simp only [fetchedCpu]
  split_ifs with hf
  · refine ⟨⟨rfl, ?_⟩, rfl⟩
    simp only [fetches, running, Bool.and_eq_true, decide_eq_true_eq] at hf
    exact hf.1
  · rw [if_neg hf] at hv
    exact h.ifs hv

/-- ID is followed by whatever IF holds after its tick. -/
lemma FetchedInOrder.id_next (h : FetchedInOrder cpu e) (hv : e.idStage.reg.valid = true) :
    e.idStage.reg.pc + 1 =
      if (arrivedSlot cpu e).reg.valid then (arrivedSlot cpu e).reg.pc
      else (fetchedCpu cpu e).pc := by
  rw [(h.id hv).2]
  by_cases hf : fetches cpu e = true
  · have hif : e.ifStage.reg.valid = false := by
      simp only [fetches, Bool.and_eq_true] at hf
      simpa using hf.2
    simp [arrivedSlot, hf, hif, fetchedRegister]
  · simp [arrivedSlot, fetchedCpu, hf]

lemma fetchedInOrder_of_empty (hid : e.idStage.reg.valid = false)
    (hif : e.ifStage.reg.valid = false) : FetchedInOrder cpu e where
  id hv := absurd hv (by simp [hid])
  ifs hv := absurd hv (by simp [hif])

lemma FetchReady.fetchedInOrder (h : FetchReady e) (horder : FetchedInOrder cpu e) :
    FetchedInOrder (simulateCycle ⟨cpu, none, e, t⟩).cpu
      (simulateCycle ⟨cpu, none, e, t⟩).engine := by
  have hsame := sameProgram_idCpu cpu e
  rcases odd_cycle_cases e with ⟨hv, a, htaken⟩ | hstall | ⟨hstall, hnone⟩
  · rw [odd_cycle_taken h hv htaken]
    exact fetchedInOrder_of_empty rfl rfl
  · rw [odd_cycle_stalled h hstall]
    constructor
    · intro hid
      refine ⟨(horder.id hid).1.sameProgram hsame, ?_⟩
      dsimp only
      rw [idCpu_pc]
      exact horder.id_next hid
    · intro hif
      obtain ⟨hfrom, hnext⟩ := horder.arrived hif
      refine ⟨hfrom.sameProgram hsame, ?_⟩
      dsimp only
      rw [idCpu_pc]
      exact hnext
  · rw [odd_cycle_flow h hstall hnone]
    refine ⟨?_, fun hif => absurd hif (by simp)⟩
    intro hid
    by_cases harrived : (arrivedSlot cpu e).reg.valid = true
    · obtain ⟨hfrom, hnext⟩ := horder.arrived harrived
      dsimp only
      rw [if_pos harrived, setSlot_reg, vacated_valid, idCpu_pc]
      exact ⟨hfrom.sameProgram hsame, by simpa using hnext⟩
    · dsimp only at hid
      rw [if_neg harrived, departed_valid] at hid
      exact absurd hid (by decide)

lemma FetchIdle.fetchedInOrder (h : FetchIdle e) (horder : FetchedInOrder cpu e) :
    FetchedInOrder (simulateCycle ⟨cpu, none, e, t⟩).cpu
      (simulateCycle ⟨cpu, none, e, t⟩).engine := by
  have hsame := sameProgram_memAccessed cpu e.memStage
  rw [even_cycle h]
  constructor
  · dsimp only
    rw [countedUnless_reg, memAccessed_pc]
    exact fun hid => ⟨(horder.id hid).1.sameProgram hsame, (horder.id hid).2⟩
  · dsimp only
    rw [memAccessed_pc]
    exact fun hif => ⟨(horder.ifs hif).1.sameProgram hsame, (horder.ifs hif).2⟩

/-! ### Cycles in which nothing leaves ID -/

@[simp] lemma drainWb_setPc (m : Sequential) (slot : StageSlot) (w : UInt32) :
    drainWb (m.setPc w) slot = (drainWb m slot).setPc w := by
  simp only [drainWb]
  split_ifs
  · exact m.writeBack_setPc slot.reg w
  · rfl

@[simp] lemma drainMem_setPc (m : Sequential) (slot : StageSlot) (w : UInt32) :
    drainMem (m.setPc w) slot = (drainMem m slot).setPc w := by
  simp only [drainMem]
  split_ifs
  · exact m.finish_setPc slot.reg w
  · rfl

@[simp] lemma drainEx_setPc (m : Sequential) (slot : StageSlot) (w : UInt32) :
    drainEx (m.setPc w) slot = (drainEx m slot).setPc w := by
  simp only [drainEx]
  split_ifs
  · exact m.finish_setPc _ w
  · rfl

lemma fetchedCpu_setPc (cpu : CPU) (e : PipelineEngine) (w : UInt32) :
    (fetchedCpu cpu e).setPc w = cpu.setPc w := by
  simp only [fetchedCpu]
  split_ifs <;> rfl

lemma writtenBack_setPc (cpu : CPU) (slot : StageSlot) (w : UInt32) :
    writtenBack (cpu.setPc w) slot = (writtenBack cpu slot).setPc w := by
  simp only [writtenBack]
  split_ifs
  · exact wbResult_setPc cpu _ w
  · rfl

lemma idCpu_setPc (cpu : CPU) (e : PipelineEngine) (w : UInt32) :
    (idCpu cpu e).setPc w = (writtenBack cpu e.wbStage).setPc w := by
  rw [idCpu, ← writtenBack_setPc, fetchedCpu_setPc, writtenBack_setPc]

/-- An odd cycle retires what WB holds. -/
lemma history_odd (t : Trace) {s : Simulation} (w : UInt32) (hcpu : s.cpu = (idCpu cpu e).setPc w)
    (hretired : s.trace.retired =
      t.retired ++ ifValid e.wbStage [(e.cycle + 1, retirement e.wbStage.reg)])
    (hstores : s.trace.stores = t.stores) :
    history s = (drainWb (history ⟨cpu, none, e, t⟩) e.wbStage).setPc w := by
  rw [history, hcpu, hretired, hstores, idCpu_setPc]
  simp only [drainWb, writtenBack, ifValid]
  split_ifs
  · simp [history, Sequential.setPc, Sequential.writeBack]
  · simp [history, Sequential.setPc]

/-- An instruction in MEM drains like the same instruction at the end of EX. -/
lemma drainMem_setSlot_exResult (m : Sequential) (slot : StageSlot) (n : Int) :
    drainMem m (setSlot (exResult slot.reg) n) = drainEx m slot := by
  simp [drainMem, drainEx]

/-- An odd cycle drains like the state before it, apart from what enters EX. -/
lemma FetchReady.drained (h : FetchReady e) (t : Trace) {s : Simulation} {w : UInt32}
    (hhistory : history s = (drainWb (history ⟨cpu, none, e, t⟩) e.wbStage).setPc w)
    (hwb : s.engine.wbStage = vacated e.wbStage)
    (hmem : s.engine.memStage =
      if e.exStage.reg.valid then setSlot (exResult e.exStage.reg) memCycles else e.memStage) :
    Fillet.drained s = drainEx ((Fillet.drained ⟨cpu, none, e, t⟩).setPc w) s.engine.exStage := by
  have hmoved : ∀ m : Sequential, drainMem m s.engine.memStage = drainEx m e.exStage := by
    intro m
    rw [hmem]
    split_ifs with hex
    · exact drainMem_setSlot_exResult m _ _
    · rw [drainMem_of_empty h.mem, drainEx_of_empty (by simpa using hex)]
  rw [Fillet.drained, hhistory, hwb, drainWb_of_empty (vacated_valid _), hmoved, drainEx_setPc,
    Fillet.drained, drainMem_of_empty h.mem]

lemma takenTarget_of_empty {slot : StageSlot} (h : slot.reg.valid = false) :
    takenTarget slot = none := by
  simp [takenTarget, h]

lemma resumePc_of_taken {a : UInt32} (h : takenTarget e.exStage = some a) :
    resumePc cpu e = a := by
  simp [resumePc, h]

lemma resumePc_of_id (hex : takenTarget e.exStage = none) (hid : e.idStage.reg.valid = true) :
    resumePc cpu e = e.idStage.reg.pc := by
  simp [resumePc, hex, hid]

lemma resumePc_of_empty (hex : takenTarget e.exStage = none) (hid : e.idStage.reg.valid = false)
    (hif : e.ifStage.reg.valid = false) : resumePc cpu e = cpu.pc := by
  simp [resumePc, hex, hid, hif]

/-- A taken branch in EX redirects the fetch to where the view already is. -/
lemma FetchReady.view_taken (h : FetchReady e) (hv : e.exStage.reg.valid = true) {a : UInt32}
    (htaken : calculateBranchTarget e.exStage.reg = some a) :
    sequentialView (simulateCycle ⟨cpu, none, e, t⟩) = sequentialView ⟨cpu, none, e, t⟩ := by
  have htarget : takenTarget e.exStage = some a := by rw [takenTarget, if_pos hv, htaken]
  rw [odd_cycle_taken h hv htaken, sequentialView, sequentialView,
    h.drained t (history_odd t a rfl rfl rfl) rfl (by rw [if_pos hv]),
    drainEx_of_empty clearSlot_valid, resumePc_of_taken htarget, resumePc_of_empty]
  · rfl
  · exact takenTarget_of_empty rfl
  · rfl
  · rfl

/-- A held ID leaves the view alone. -/
lemma FetchReady.view_stalled (h : FetchReady e) (hstall : (evaluateIdHazard e).stalled = true) :
    sequentialView (simulateCycle ⟨cpu, none, e, t⟩) = sequentialView ⟨cpu, none, e, t⟩ := by
  obtain ⟨⟨hid, -⟩, ⟨hex, -⟩, -, -⟩ := (stalled_iff e).mp hstall
  have hnone := takenTarget_of_stalled hstall
  rw [odd_cycle_stalled h hstall, sequentialView, sequentialView,
    h.drained t (history_odd t (idCpu cpu e).pc rfl rfl rfl) rfl (by rw [if_pos hex]),
    drainEx_of_empty clearSlot_valid, resumePc_of_id hnone hid, resumePc_of_id]
  · rfl
  · exact takenTarget_of_empty rfl
  · exact hid

/-- In an even cycle MEM completes, which drains to the same state. -/
lemma FetchIdle.drained (h : FetchIdle e) :
    drained (simulateCycle ⟨cpu, none, e, t⟩) = drained ⟨cpu, none, e, t⟩ := by
  rw [even_cycle h]
  unfold Fillet.drained
  dsimp only
  rw [drainMem_of_empty (vacated_valid _), drainWb_of_empty h.wb]
  have hcounted : ∀ m, drainEx m (counted e.exStage) = drainEx m e.exStage := by
    intro m
    simp only [drainEx, counted_reg]
  rw [hcounted]
  congr 1
  cases hmem : e.memStage.reg.valid with
  | true =>
    simp [drainWb, drainMem, hmem, history, memAccessed, ifValid, Sequential.finish]
  | false =>
    simp [drainWb, drainMem, hmem, history, memAccessed, ifValid, h.wb]

lemma FetchIdle.view (h : FetchIdle e) :
    sequentialView (simulateCycle ⟨cpu, none, e, t⟩) = sequentialView ⟨cpu, none, e, t⟩ := by
  rw [sequentialView, h.drained, sequentialView, even_cycle h]
  simp only [resumePc, takenTarget, counted_reg, countedUnless_reg, memAccessed_pc]

/-! ### Cycles in which an instruction leaves ID -/

/-- An odd cycle that moves on with an empty ID leaves the view alone. -/
lemma FetchReady.view_bubble (h : FetchReady e) (hstall : (evaluateIdHazard e).stalled = false)
    (hnone : takenTarget e.exStage = none) (hid : e.idStage.reg.valid = false) :
    sequentialView (simulateCycle ⟨cpu, none, e, t⟩) = sequentialView ⟨cpu, none, e, t⟩ := by
  have hif := h.if_empty hid
  have hresume : resumePc cpu e = cpu.pc := resumePc_of_empty hnone hid hif
  rw [odd_cycle_flow h hstall hnone, sequentialView, sequentialView,
    h.drained t (history_odd t (idCpu cpu e).pc rfl rfl rfl) rfl rfl, hresume]
  dsimp only
  rw [hid, Bool.false_and, if_neg (by decide), drainEx_of_empty (vacated_valid _),
    Sequential.setPc_setPc]
  congr 1
  by_cases hf : fetches cpu e = true
  · simp [resumePc, takenTarget, arrivedSlot, hf, fetchedRegister]
  · simp [resumePc, takenTarget, arrivedSlot, fetchedCpu, hf, hif]

/-- What the sequential machine executes next is the instruction in ID, with the operands of the
drained state. -/
lemma sequentialInstruction_view (s : Simulation) (horder : FetchedInOrder s.cpu s.engine)
    (hnone : takenTarget s.engine.exStage = none) (hid : s.engine.idStage.reg.valid = true) :
    sequentialInstruction (sequentialView s).cpu =
      latchOperands (readRegister (drained s).cpu)
        (decodeRawInstruction s.engine.idStage.reg) := by
  have hfrom := (horder.id hid).1
  have hfetch : memoryFetchInstruction (drained s).cpu s.engine.idStage.reg.pc =
      s.engine.idStage.reg.rawInstruction := by
    rw [hfrom.raw]
    exact memoryFetchInstruction_congr (extends_drained s).program.memory _
  have hregister : decodeRawInstruction
      (fetchedRegister s.engine.idStage.reg.pc s.engine.idStage.reg.rawInstruction) =
        decodeRawInstruction s.engine.idStage.reg :=
    decodeRawInstruction_congr hid.symm rfl rfl
  rw [← hregister, ← hfetch, sequentialView, resumePc_of_id hnone hid]
  rfl

/-- The sequential machine runs on as long as the address to resume at is in the program. -/
lemma running_view (s : Simulation) :
    running (sequentialView s).cpu =
      decide (resumePc s.cpu s.engine < s.cpu.instructionCount.toUInt32) := by
  have hcount : (drained s).cpu.instructionCount = s.cpu.instructionCount :=
    (extends_drained s).program.count
  simp [running, sequentialView, hcount]

/-- The sequential machine executes exactly what ID latched. -/
lemma FetchReady.latched_agrees (h : FetchReady e) (cpu : CPU) (t : Trace)
    (hstall : (evaluateIdHazard e).stalled = false)
    (hvalid : (decodeRawInstruction e.idStage.reg).valid = true) (m : Sequential) :
    let current := latchOperands (readRegister (Fillet.drained ⟨cpu, none, e, t⟩).cpu)
      (decodeRawInstruction e.idStage.reg)
    m.finish (exResult (latchedId cpu e)) = m.finish (exResult current) ∧
      calculateBranchTarget (latchedId cpu e) = calculateBranchTarget current := by
  apply finish_latchOperands_congr (decoded_decodeRawInstruction _) hvalid
  · exact forwarded_operand_current h hstall (Or.inl rfl)
  · exact fun r hr => forwarded_operand_current h hstall (Or.inr hr)

lemma latchedId_valid (cpu : CPU) (e : PipelineEngine) :
    (latchedId cpu e).valid = (decodeRawInstruction e.idStage.reg).valid := by
  simp [latchedId, latchDecodeOperands]

lemma drainEx_setSlot {reg : PipelineRegister} (hv : reg.valid = true) (n : Int) (m : Sequential) :
    drainEx m (setSlot reg n) = m.finish (exResult reg) := by
  simp [drainEx, hv]

lemma nextPc_exResult (reg : PipelineRegister) :
    nextPc (exResult reg) = (calculateBranchTarget reg).getD (reg.pc + 1) := by
  simp [nextPc, calculateBranchTarget_exResult]

/-- The instruction that leaves ID enters EX, if it has a format. -/
lemma FetchReady.exStage_issue (h : FetchReady e) (cpu : CPU) (t : Trace)
    (hstall : (evaluateIdHazard e).stalled = false)
    (hnone : takenTarget e.exStage = none) (hid : e.idStage.reg.valid = true) :
    (simulateCycle ⟨cpu, none, e, t⟩).engine.exStage =
      if (decodeRawInstruction e.idStage.reg).valid then setSlot (latchedId cpu e) exCycles
      else vacated e.exStage := by
  rw [odd_cycle_flow h hstall hnone]
  simp [hid, latchedId_valid]

/-- Behind it comes its target or the next address. -/
lemma FetchReady.resumePc_issue (h : FetchReady e) (t : Trace) (horder : FetchedInOrder cpu e)
    (hstall : (evaluateIdHazard e).stalled = false) (hnone : takenTarget e.exStage = none)
    (hid : e.idStage.reg.valid = true) :
    resumePc (simulateCycle ⟨cpu, none, e, t⟩).cpu (simulateCycle ⟨cpu, none, e, t⟩).engine =
      (takenTarget (simulateCycle ⟨cpu, none, e, t⟩).engine.exStage).getD
        (e.idStage.reg.pc + 1) := by
  simp only [resumePc]
  cases takenTarget (simulateCycle ⟨cpu, none, e, t⟩).engine.exStage with
  | some a => rfl
  | none =>
    rw [odd_cycle_flow h hstall hnone, Option.getD_none, horder.id_next hid]
    by_cases harrived : (arrivedSlot cpu e).reg.valid = true <;> simp [harrived]

/-- An odd cycle in which an instruction leaves ID is one step of the sequential machine. -/
lemma FetchReady.view_issue (h : FetchReady e) (horder : FetchedInOrder cpu e)
    (hstall : (evaluateIdHazard e).stalled = false) (hnone : takenTarget e.exStage = none)
    (hid : e.idStage.reg.valid = true) :
    sequentialView (simulateCycle ⟨cpu, none, e, t⟩) =
      (sequentialView ⟨cpu, none, e, t⟩).step := by
  have hdrained : Fillet.drained (simulateCycle ⟨cpu, none, e, t⟩) =
      drainEx ((Fillet.drained ⟨cpu, none, e, t⟩).setPc (idCpu cpu e).pc)
        (simulateCycle ⟨cpu, none, e, t⟩).engine.exStage := by
    rw [odd_cycle_flow h hstall hnone]
    exact h.drained t (history_odd t (idCpu cpu e).pc rfl rfl rfl) rfl rfl
  have hresume := h.resumePc_issue t horder hstall hnone hid
  have hex := h.exStage_issue cpu t hstall hnone hid
  have hrun : running (sequentialView ⟨cpu, none, e, t⟩).cpu = true := by
    rw [running_view, resumePc_of_id hnone hid]
    exact decide_eq_true (horder.id hid).1.inside
  rw [sequentialView, hdrained, hresume, Sequential.step, hrun, Bool.not_true,
    if_neg (by decide), sequentialInstruction_view _ horder hnone hid]
  dsimp only
  rw [latchOperands_valid]
  cases hvalid : (decodeRawInstruction e.idStage.reg).valid with
  | false =>
    rw [hvalid, if_neg (by decide)] at hex
    rw [hex, takenTarget_of_empty (vacated_valid _), drainEx_of_empty (vacated_valid _),
      sequentialView, resumePc_of_id hnone hid]
    rfl
  | true =>
    rw [hvalid, if_pos rfl] at hex
    obtain ⟨hfinish, hbranch⟩ :=
      h.latched_agrees cpu t hstall hvalid (Fillet.drained ⟨cpu, none, e, t⟩)
    have htaken : takenTarget (setSlot (latchedId cpu e) exCycles) =
        calculateBranchTarget (latchedId cpu e) := by
      rw [takenTarget, setSlot_reg, latchedId_valid, hvalid, if_pos rfl]
    rw [hex, htaken, drainEx_setSlot (by rw [latchedId_valid, hvalid]),
      Sequential.finish_setPc, Sequential.setPc_setPc, hfinish, hbranch, sequentialView,
      Bool.not_true, if_neg (by decide), Sequential.finish_setPc, Sequential.setPc_setPc,
      nextPc_exResult, latchOperands_pc, decodeRawInstruction_pc]

/-! ### The simulation -/

/-- The run works on the global CPU, its engine has one of the two shapes, and the instructions
before EX were fetched in order. -/
structure InStep (s : Simulation) : Prop extends Scheduled s where
  order : FetchedInOrder s.cpu s.engine

lemma inStep_start (cpu : CPU) : InStep (.start cpu none) where
  toScheduled := scheduled_start cpu
  order := fetchedInOrder_of_empty rfl rfl

lemma InStep.next {s : Simulation} (h : InStep s) : InStep (simulateCycle s) where
  toScheduled := h.toScheduled.next
  order := by
    obtain ⟨cpu, e, t, rfl, hready | hidle⟩ := h.toScheduled.shape
    · exact hready.fetchedInOrder h.order
    · exact hidle.fetchedInOrder h.order

lemma FetchReady.matched (h : FetchReady e) (horder : FetchedInOrder cpu e) :
    sequentialView (simulateCycle ⟨cpu, none, e, t⟩) = sequentialView ⟨cpu, none, e, t⟩ ∨
      sequentialView (simulateCycle ⟨cpu, none, e, t⟩) =
        (sequentialView ⟨cpu, none, e, t⟩).step := by
  rcases odd_cycle_cases e with ⟨hv, a, htaken⟩ | hstall | ⟨hstall, hnone⟩
  · exact Or.inl (h.view_taken hv htaken)
  · exact Or.inl (h.view_stalled hstall)
  · cases hid : e.idStage.reg.valid with
    | false => exact Or.inl (h.view_bubble hstall hnone hid)
    | true => exact Or.inr (h.view_issue horder hstall hnone hid)

/-- The loop simulates the sequential machine, with stuttering. -/
theorem pipeline_simulation :
    StutteringSimulation InStep Simulation.hasWork simulateCycle Sequential.step
      sequentialView where
  preserves _ h _ := h.next
  matched s h _ := by
    obtain ⟨cpu, e, t, rfl, hready | hidle⟩ := h.toScheduled.shape
    · exact hready.matched h.order
    · exact Or.inl hidle.view

/-- No cycle changes the program. -/
lemma Scheduled.sameProgram {s : Simulation} (h : Scheduled s) :
    SameProgram s.cpu (simulateCycle s).cpu := by
  obtain ⟨cpu, e, t, rfl, hready | hidle⟩ := h.shape
  · rcases odd_cycle_cases e with ⟨hv, a, htaken⟩ | hstall | ⟨hstall, hnone⟩
    · rw [odd_cycle_taken hready hv htaken]
      exact (sameProgram_idCpu cpu e).trans (sameProgram_setPc _ a)
    · rw [odd_cycle_stalled hready hstall]
      exact sameProgram_idCpu cpu e
    · rw [odd_cycle_flow hready hstall hnone]
      exact sameProgram_idCpu cpu e
  · rw [even_cycle hidle]
    exact sameProgram_memAccessed cpu _

lemma sequentialView_start (cpu : CPU) :
    sequentialView (.start cpu none) = Sequential.start cpu := by
  rw [sequentialView, resumePc_of_empty (takenTarget_of_empty rfl) rfl rfl]
  rfl

/-- Whatever has retired and been stored after `n` cycles is what the sequential machine retires and
stores first, in the same order, with the same values. -/
theorem pipeline_refines_sequential (cpu : CPU) (n : ℕ) :
    ∃ k ≤ n,
      (simulate n cpu none).trace.retired.map Prod.snd <+:
        (Sequential.step^[k] (.start cpu)).retired ∧
      (simulate n cpu none).trace.stores <+: (Sequential.step^[k] (.start cpu)).stores := by
  obtain ⟨k, hk, hview⟩ := pipeline_simulation.run n (inStep_start cpu)
  have hextends : Extends (history (simulate n cpu none)) (sequentialView (simulate n cpu none)) :=
    (extends_drained _).trans (extends_setPc _ _)
  rw [sequentialView_start] at hview
  change sequentialView (simulate n cpu none) = _ at hview
  rw [hview] at hextends
  exact ⟨k, hk, hextends.retired, hextends.stores⟩

end Fillet
