import Fillet.Output.Accounting
import Fillet.Output.Fetches
import Fillet.Pipeline.Precise
import Fillet.ReadWriteSets

/-!
# What the stages show

The header of a cycle shows the stages. WB, MEM and EX hold instructions that follow each other in
the sequential run, each with the values that the sequential machine computes for it; ID and IF hold
what follows in the program.
-/

namespace Fillet

open BoundedLoop

variable {start cpu c : CPU} {e : PipelineEngine} {t : Trace}

/-! ### Slots between two steps -/

/-- What an instruction that has left ID looks like in EX, in MEM and in WB. -/
def inEx (_ : CPU) (reg : PipelineRegister) : PipelineRegister := reg

def inMem (_ : CPU) (reg : PipelineRegister) : PipelineRegister := exResult reg

def inWb (cpu : CPU) (reg : PipelineRegister) : PipelineRegister :=
  (memResult cpu (exResult reg)).1

/-- A slot with `i` instructions ahead of it and `j` with its own: it holds the one between them, if
there is one and it has a format. -/
structure Occupies (start : CPU) (slot : StageSlot)
    (shape : CPU → PipelineRegister → PipelineRegister) (i j : ℕ) : Prop where
  near : j = i ∨ j = i + 1
  valid : slot.reg.valid = (decide (i < j) && (instructionAt start i).valid)
  shown : slot.reg.valid = true → ∃ reg, Latched reg (instructionAt start i) ∧
    slot.reg = shape (machineAt start i).cpu reg

section Occupies

variable {slot slot' : StageSlot} {shape shape' : CPU → PipelineRegister → PipelineRegister}
  {i j : ℕ}

lemma occupies_nothing (h : slot.reg.valid = false) (i : ℕ) : Occupies start slot shape i i where
  near := Or.inl rfl
  valid := by rw [h, decide_eq_false (Nat.lt_irrefl i), Bool.false_and]
  shown hv := absurd (h.symm.trans hv) Bool.noConfusion

/-- An instruction moves from one slot to the next. -/
lemma Occupies.moved (h : Occupies start slot shape i j)
    (hvalid : slot'.reg.valid = slot.reg.valid)
    (hreg : slot.reg.valid = true → ∀ reg, slot.reg = shape (machineAt start i).cpu reg →
      slot'.reg = shape' (machineAt start i).cpu reg) : Occupies start slot' shape' i j where
  near := h.near
  valid := hvalid.trans h.valid
  shown hv := by
    rw [hvalid] at hv
    obtain ⟨reg, hlatched, hshape⟩ := h.shown hv
    exact ⟨reg, hlatched, hreg hv reg hshape⟩

end Occupies

/-- A run with `a` instructions behind WB, `b` behind MEM, `c` behind EX and `d` behind ID. -/
structure Staged (start : CPU) (s : Simulation) (a b c d : ℕ) : Prop
    extends Progress start s a b c d where
  wbSlot : Occupies start s.engine.wbStage inWb a b
  memSlot : Occupies start s.engine.memStage inMem b c
  exSlot : Occupies start s.engine.exStage inEx c d

/-! ### The two kinds of cycle -/

/-- What leaves ID goes to EX, unless it has no format. -/
lemma FetchReady.occupies_issue {k : ℕ} (h : FetchReady e) (horder : FetchedInOrder c e)
    (hview : sequentialView ⟨c, none, e, t⟩ = machineAt start k)
    (hstall : (evaluateIdHazard e).stalled = false) (hnone : takenTarget e.exStage = none)
    (hid : e.idStage.reg.valid = true) :
    Occupies start (simulateCycle ⟨c, none, e, t⟩).engine.exStage inEx k (k + 1) := by
  have hvalid : (instructionAt start k).valid = (decodeRawInstruction e.idStage.reg).valid := by
    rw [instructionAt_of_id horder hview hnone hid, latchOperands_valid]
  have hafter : decide (k < k + 1) = true := decide_eq_true (Nat.lt_succ_self k)
  rw [h.exStage_issue c t hstall hnone hid]
  refine ⟨Or.inr rfl, ?_, ?_⟩
  · rw [hafter, hvalid, Bool.true_and]
    split_ifs with hformat
    · rw [setSlot_reg, latchedId_valid]
    · rw [vacated_valid, Bool.eq_false_iff.mpr hformat]
  · intro hfull
    split_ifs at hfull ⊢ with hformat
    · exact ⟨latchedId c e, h.latched_instructionAt horder hview hstall hnone hid hformat, rfl⟩
    · exact absurd hfull (by simp)

lemma FetchReady.staged (h : FetchReady e) (hin : InStep ⟨c, none, e, t⟩) {a b d : ℕ}
    (hs : Staged start ⟨c, none, e, t⟩ a b b d) :
    ∃ d', Staged start (simulateCycle ⟨c, none, e, t⟩) b b d d' := by
  obtain ⟨w, -, hwb, hmem⟩ := h.moved c t
  have hwbSlot : Occupies start (simulateCycle ⟨c, none, e, t⟩).engine.wbStage inWb b b := by
    rw [hwb]
    exact occupies_nothing (vacated_valid _) b
  have hmemSlot : Occupies start (simulateCycle ⟨c, none, e, t⟩).engine.memStage inMem b d := by
    rw [hmem]
    apply hs.exSlot.moved
    · dsimp only
      split_ifs with hv
      · rw [setSlot_reg, exResult_valid]
      · rw [h.mem, Bool.eq_false_iff.mpr hv]
    · intro hv reg hreg
      dsimp only at hv hreg
      rw [if_pos hv, setSlot_reg, hreg]
      rfl
  rcases h.issue_cases c t with ⟨hstall, hnone, hid⟩ | ⟨-, hkept, hex⟩
  · have hview := h.view_machineAt hin.order hs.view hstall hnone hid
    exact ⟨d + 1, h.progress hs.toProgress hview, hwbSlot, hmemSlot,
      h.occupies_issue hin.order hs.view hstall hnone hid⟩
  · exact ⟨d, h.progress hs.toProgress (hkept.trans hs.view), hwbSlot, hmemSlot,
      occupies_nothing hex d⟩

lemma FetchIdle.staged (h : FetchIdle e) {a c' d : ℕ}
    (hs : Staged start ⟨c, none, e, t⟩ a a c' d) :
    Staged start (simulateCycle ⟨c, none, e, t⟩) a c' c' d := by
  -- WB is empty, so memory is that of the step at which MEM reads it.
  have hmemory : c.memory = (machineAt start a).cpu.memory := by
    have hpast : pastWb ⟨c, none, e, t⟩ = history ⟨c, none, e, t⟩ := drainWb_of_empty h.wb _
    rw [← hs.wb.memory, hpast]
    rfl
  refine ⟨h.progress hs.toProgress, ?_, ?_, ?_⟩
  · rw [even_cycle h]
    apply hs.memSlot.moved
    · dsimp only
      split_ifs with hv
      · rw [setSlot_reg, memResult_valid]
      · rw [h.wb, Bool.eq_false_iff.mpr hv]
    · intro hv reg hreg
      dsimp only at hv hreg ⊢
      rw [if_pos hv, setSlot_reg, hreg]
      exact (memResult_congr hmemory _).1
  · rw [even_cycle h]
    exact occupies_nothing (vacated_valid _) c'
  · rw [even_cycle h]
    apply hs.exSlot.moved
    · dsimp only
      rw [counted_reg]
    · intro _ reg hreg
      dsimp only at hreg ⊢
      rwa [counted_reg]

/-! ### The run -/

/-- A run in step whose stages hold consecutive instructions. -/
structure InStages (start : CPU) (s : Simulation) : Prop extends InStep s where
  program : SameProgram start s.cpu
  consecutive : Consecutive s.cpu s.engine
  staged : ∃ a b c d, Staged start s a b c d ∧ if s.engine.cycle % 2 = 0 then b = c else a = b

lemma inStages_start (cpu : CPU) : InStages cpu (.start cpu none) where
  toInStep := inStep_start cpu
  program := .refl cpu
  consecutive := consecutive_of_empty rfl
  staged := ⟨0, 0, 0, 0, ⟨⟨rfl, rfl, rfl, rfl, sequentialView_start cpu⟩, occupies_nothing rfl 0,
    occupies_nothing rfl 0, occupies_nothing rfl 0⟩, rfl⟩

lemma InStages.next {s : Simulation} (h : InStages start s) :
    InStages start (simulateCycle s) := by
  obtain ⟨a, b, c', d, hs, hparity⟩ := h.staged
  have hprogram := h.program.trans h.toScheduled.sameProgram
  obtain ⟨c, e, t, rfl, hready | hidle⟩ := h.toScheduled.shape
  · rw [if_pos hready.cycle] at hparity
    subst hparity
    obtain ⟨d', hs'⟩ := hready.staged h.toInStep hs
    have hodd := hready.next_odd
    refine ⟨h.toInStep.next, hprogram, hready.consecutive_next h.order, b, b, d, d', hs', ?_⟩
    rw [simulateCycle_cycle, if_neg (by dsimp only; omega)]
  · have hcycle := hidle.cycle
    rw [if_neg (by dsimp only; omega)] at hparity
    subst hparity
    refine ⟨h.toInStep.next, hprogram, hidle.consecutive_next h.consecutive, a, c', c', d,
      hidle.staged hs, ?_⟩
    rw [simulateCycle_cycle, if_pos (by dsimp only; omega)]

lemma inStages_simulate (cpu : CPU) (n : ℕ) : InStages cpu (simulate n cpu none) :=
  boundedWhile_invariant (fun _ h _ => h.next) n (inStages_start cpu)

/-! ### The program counter -/

/-- The program counter is behind what ID and IF hold. -/
lemma FetchedInOrder.pc_near (h : FetchedInOrder c e) :
    ∃ j ≤ 2, c.pc =
      (if e.idStage.reg.valid then e.idStage.reg.pc
        else if e.ifStage.reg.valid then e.ifStage.reg.pc else c.pc) + UInt32.ofNat j := by
  cases hif : e.ifStage.reg.valid with
  | true =>
    have hlast := (h.ifs hif).2
    cases hid : e.idStage.reg.valid with
    | true =>
      have hnext := (h.id hid).2
      rw [if_pos hif] at hnext
      exact ⟨2, le_rfl, by rw [← hlast, ← hnext, if_pos rfl, UInt32.add_assoc]; rfl⟩
    | false => exact ⟨1, by decide, hlast.symm⟩
  | false =>
    cases hid : e.idStage.reg.valid with
    | true =>
      have hnext := (h.id hid).2
      rw [hif] at hnext
      exact ⟨1, by decide, hnext.symm⟩
    | false => exact ⟨0, by decide, (UInt32.add_zero _).symm⟩

lemma Latched.pc {reg reg' : PipelineRegister} (h : Latched reg reg') : reg.pc = reg'.pc := by
  rcases h with rfl | ⟨-, v, rfl⟩ <;> rfl

lemma valid_of_taken {slot : StageSlot} {target : UInt32} (h : takenTarget slot = some target) :
    slot.reg.valid = true := by
  by_contra hempty
  rw [takenTarget_of_empty (Bool.eq_false_iff.mpr hempty)] at h
  exact absurd h (by simp)

/-- The program counter is at most three addresses behind that of the sequential machine before the
instruction in EX, or behind it. -/
lemma InStages.pc_near {s : Simulation} (h : InStages start s) {a b c d : ℕ}
    (hs : Staged start s a b c d) :
    ∃ i j, (i = c ∨ i = d) ∧ j ≤ 3 ∧
      s.cpu.pc = (machineAt start i).cpu.pc + UInt32.ofNat j := by
  obtain ⟨j, hj, hpc⟩ := h.order.pc_near
  have hview : resumePc s.cpu s.engine = (machineAt start d).cpu.pc := by
    rw [← hs.view]
    rfl
  cases htaken : takenTarget s.engine.exStage with
  | none =>
    refine ⟨d, j, Or.inr rfl, by omega, ?_⟩
    rw [← hview]
    simp only [resumePc, htaken]
    exact hpc
  | some target =>
    have hex := valid_of_taken htaken
    have hexPc : s.engine.exStage.reg.pc = (machineAt start c).cpu.pc := by
      obtain ⟨reg, hlatched, hreg⟩ := hs.exSlot.shown hex
      rw [hreg, inEx, hlatched.pc, instructionAt, sequentialInstruction_pc]
    obtain ⟨hbehind, -⟩ := h.consecutive hex
    cases hid : s.engine.idStage.reg.valid with
    | true =>
      rw [hid, if_pos rfl] at hbehind hpc
      refine ⟨c, 1 + j, Or.inl rfl, by omega, ?_⟩
      rw [hpc, ← hbehind, hexPc, UInt32.ofNat_add, UInt32.add_assoc]
      rfl
    | false =>
      rw [hid, if_neg Bool.false_ne_true] at hbehind
      exact ⟨c, 1, Or.inl rfl, by decide, by rw [← hbehind, hexPc]; rfl⟩

/-! ### Summaries -/

/-- The summary of the instruction between two steps. -/
def summaryBetween (start : CPU) (i j : ℕ) : List Char :=
  if i < j then printInstructionSummary (instructionAt start i) else "empty".toList

lemma Latched.summary {reg reg' : PipelineRegister} (h : Latched reg reg') :
    printInstructionSummary reg = printInstructionSummary reg' := by
  rcases h with rfl | ⟨-, v, rfl⟩ <;> rfl

lemma summary_inEx (cpu : CPU) (reg : PipelineRegister) :
    printInstructionSummary (inEx cpu reg) = printInstructionSummary reg := by
  rw [inEx]

lemma summary_inMem (cpu : CPU) (reg : PipelineRegister) :
    printInstructionSummary (inMem cpu reg) = printInstructionSummary reg := by
  simp only [inMem, exResult]
  split_ifs <;> rfl

lemma summary_inWb (cpu : CPU) (reg : PipelineRegister) :
    printInstructionSummary (inWb cpu reg) = printInstructionSummary reg := by
  rw [← summary_inMem cpu reg]
  simp only [inWb, inMem, memResult]
  split_ifs <;> rfl

lemma Occupies.summary {slot : StageSlot} {shape : CPU → PipelineRegister → PipelineRegister}
    {i j : ℕ} (h : Occupies start slot shape i j)
    (hshape : ∀ cpu reg, printInstructionSummary (shape cpu reg) = printInstructionSummary reg) :
    printInstructionSummary slot.reg = summaryBetween start i j := by
  cases hv : slot.reg.valid with
  | true =>
    obtain ⟨reg, hlatched, hreg⟩ := h.shown hv
    have hvalid := h.valid.symm.trans hv
    rw [Bool.and_eq_true, decide_eq_true_iff] at hvalid
    rw [summaryBetween, if_pos hvalid.1, hreg, hshape, hlatched.summary]
  | false =>
    have hempty : ∀ reg : PipelineRegister, reg.valid = false →
        printInstructionSummary reg = "empty".toList := by
      intro reg hreg
      rw [printInstructionSummary, hreg]
      rfl
    have hvalid := h.valid.symm.trans hv
    rw [hempty _ hv, summaryBetween]
    split_ifs with hlt
    · rw [decide_eq_true hlt, Bool.true_and] at hvalid
      exact (hempty _ hvalid).symm
    · rfl

/-! ### Headers -/

/-- The headers of the cycles. -/
def Message.heads : Message → Bool
  | .cycleHeader _ _ _ => true
  | _ => false

def cycleHeaders (messages : List Message) : List Message :=
  messages.filter Message.heads

lemma cycleHeaders_append (messages messages' : List Message) :
    cycleHeaders (messages ++ messages') = cycleHeaders messages ++ cycleHeaders messages' :=
  List.filter_append ..

lemma cycleHeaders_cycle (s : Simulation) :
    cycleHeaders (cycleOutput s) = cycleHeaderOutput (beginCycle s) := by
  obtain ⟨rest, houtput, hrest⟩ := topics_cycle s
  have hnothing : cycleHeaders rest = [] := by
    rw [cycleHeaders, List.filter_eq_nil_iff]
    intro m hm hheads
    cases m with
    | cycleHeader => exact absurd (hrest _ hm) (by simp [Message.topic])
    | _ => exact absurd hheads Bool.false_ne_true
  rw [houtput, cycleHeaders_append, hnothing]
  rfl

/-- What the stages show between two cycles. WB, MEM and EX hold consecutive instructions of the
sequential run, behind those whose results are in the registers; ID holds the one that follows, or
what follows a taken branch in the program, and IF the word behind that. -/
structure Shown (start : CPU) (s : Simulation) (a b c d : ℕ) : Prop where
  registers : s.cpu.registers = (machineAt start a).cpu.registers
  retired : s.trace.retired.map Prod.snd = (machineAt start a).retired
  wb : Occupies start s.engine.wbStage inWb a b
  mem : Occupies start s.engine.memStage inMem b c
  ex : Occupies start s.engine.exStage inEx c d
  id : s.engine.idStage.reg.valid = true → FetchedFrom start s.engine.idStage.reg ∧
    s.engine.idStage.reg.pc =
      if (takenTarget s.engine.exStage).isSome then s.engine.exStage.reg.pc + 1
      else (machineAt start d).cpu.pc
  ifs : s.engine.ifStage.reg.valid = true → FetchedFrom start s.engine.ifStage.reg ∧
    s.engine.idStage.reg.valid = true ∧
    s.engine.ifStage.reg.pc = s.engine.idStage.reg.pc + 1
  table : printPipelineState s.engine =
    "  IF : ".toList ++ printInstructionSummary s.engine.ifStage.reg ++
      "\n  ID : ".toList ++ printInstructionSummary s.engine.idStage.reg ++
      "\n  EX : ".toList ++ summaryBetween start c d ++
      "\n  MEM: ".toList ++ summaryBetween start b c ++
      "\n  WB : ".toList ++ summaryBetween start a b ++ ['\n']

/-- The table of the stages is made of their summaries. -/
lemma printPipelineState_of_summaries {ex mem wb : List Char}
    (hex : printInstructionSummary e.exStage.reg = ex)
    (hmem : printInstructionSummary e.memStage.reg = mem)
    (hwb : printInstructionSummary e.wbStage.reg = wb) :
    printPipelineState e =
      "  IF : ".toList ++ printInstructionSummary e.ifStage.reg ++
        "\n  ID : ".toList ++ printInstructionSummary e.idStage.reg ++
        "\n  EX : ".toList ++ ex ++ "\n  MEM: ".toList ++ mem ++ "\n  WB : ".toList ++ wb ++
        ['\n'] := by
  subst hex hmem hwb
  rfl

lemma InStages.shown {s : Simulation} (h : InStages start s) :
    ∃ a b c d, Shown start s a b c d := by
  obtain ⟨a, b, c', d, hs, -⟩ := h.staged
  refine ⟨a, b, c', d, hs.registers, hs.retired, hs.wbSlot, hs.memSlot, hs.exSlot, ?_, ?_, ?_⟩
  · intro hid
    refine ⟨(h.order.id hid).1.sameProgram h.program.symm, ?_⟩
    cases htaken : takenTarget s.engine.exStage with
    | none =>
      rw [if_neg (by simp), ← hs.view]
      exact (resumePc_of_id htaken hid).symm
    | some target =>
      have hbehind := (h.consecutive (valid_of_taken htaken)).1
      rw [if_pos hid] at hbehind
      rw [Option.isSome_some, if_pos rfl, hbehind]
  · intro hif
    have hid := (h.toScheduled.ifs hif).1
    have hnext := (h.order.id hid).2
    rw [if_pos hif] at hnext
    exact ⟨(h.order.ifs hif).1.sameProgram h.program.symm, hid, hnext.symm⟩
  · have hex := hs.exSlot.summary summary_inEx
    have hmem := hs.memSlot.summary summary_inMem
    have hwb := hs.wbSlot.summary summary_inWb
    exact printPipelineState_of_summaries hex hmem hwb

/-- A run prints one header for each cycle, with the stages as the cycle finds them. Whatever words
memory holds, WB, MEM and EX show consecutive instructions of the sequential run, with the values of
the sequential machine up to a second operand that the instruction does not use. -/
theorem shown_stages (cpu : CPU) (n : ℕ) :
    cycleHeaders (simulateOutput n cpu none) =
      (List.range (simulate n cpu none).engine.cycle).flatMap
        (fun i => cycleHeaderOutput (beginCycle (simulate i cpu none))) ∧
    ∃ a b c d, Shown cpu (simulate n cpu none) a b c d := by
  refine ⟨?_, (inStages_simulate cpu n).shown⟩
  rw [simulateOutput, image_boundedLog rfl cycleHeaders_append,
    boundedLog_eq_flatMap (fun s : Simulation => s.engine.cycle) simulateCycle_cycle]
  simp only [cycleHeaders_cycle]
  rfl

end Fillet
