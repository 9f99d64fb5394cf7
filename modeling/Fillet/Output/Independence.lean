import Fillet.Output.Control
import Fillet.Pipeline.Timing

/-!
# Timing that does not depend on data

Without JEQ nothing that a program computes has an influence on how its instructions move: on two
CPUs with the same program and the same program counter, whatever their registers and their data,
the stages complete in the same cycles and the control lines are the same.
-/

namespace Fillet

open BoundedLoop

variable {cpu cpu' : CPU} {e e' : PipelineEngine} {t t' : Trace}

/-- No word of the program is a JEQ. -/
def BranchFree (cpu : CPU) : Prop :=
  ∀ a, a < cpu.instructionCount.toUInt32 → rawOpcode (memoryFetchInstruction cpu a) ≠ .jeq

lemma BranchFree.sameProgram (h : BranchFree cpu) (hsame : SameProgram cpu cpu') :
    BranchFree cpu' := by
  intro a ha
  rw [hsame.count] at ha
  rw [memoryFetchInstruction_congr hsame.memory]
  exact h a ha

/-! ### The shape of an instruction -/

/-- Two registers that hold the same instruction, with any operands and results. -/
structure SameShape (reg reg' : PipelineRegister) : Prop where
  valid : reg'.valid = reg.valid
  pc : reg'.pc = reg.pc
  rawInstruction : reg'.rawInstruction = reg.rawInstruction
  opcode : reg'.opcode = reg.opcode
  r1 : reg'.r1 = reg.r1
  address : reg.opcode = .jmp → reg'.address = reg.address

section Shape

variable {reg reg' : PipelineRegister} {slot slot' : StageSlot}

lemma SameShape.refl (reg : PipelineRegister) : SameShape reg reg :=
  ⟨rfl, rfl, rfl, rfl, rfl, fun _ => rfl⟩

/-- Whatever operands an instruction latches, it stays the same instruction. -/
lemma sameShape_latchOperands (read read' : Int → Int32) (reg : PipelineRegister) :
    SameShape (latchOperands read reg) (latchOperands read' reg) := by
  simp only [latchOperands]
  split <;> exact ⟨rfl, rfl, rfl, rfl, rfl, fun _ => rfl⟩

lemma SameShape.exResult (h : SameShape reg reg') :
    SameShape (exResult reg) (Fillet.exResult reg') where
  valid := by simpa using h.valid
  pc := by simpa using h.pc
  rawInstruction := by simpa using h.rawInstruction
  opcode := by simpa using h.opcode
  r1 := by simpa using h.r1
  address hop := by
    rw [exResult_opcode] at hop
    simp only [Fillet.exResult, h.opcode, hop, reduceCtorEq, or_self, if_false]
    exact h.address hop

lemma SameShape.memResult (h : SameShape reg reg') (cpu cpu' : CPU) :
    SameShape (memResult cpu reg).1 (Fillet.memResult cpu' reg').1 := by
  have hkept : ∀ (cpu : CPU) (reg : PipelineRegister), SameShape reg (Fillet.memResult cpu reg).1 ∧
      SameShape (Fillet.memResult cpu reg).1 reg := by
    intro cpu reg
    simp only [Fillet.memResult]
    split_ifs <;> exact ⟨⟨rfl, rfl, rfl, rfl, rfl, fun _ => rfl⟩,
      ⟨rfl, rfl, rfl, rfl, rfl, fun _ => rfl⟩⟩
  have hfirst := (hkept cpu reg).2
  have hlast := (hkept cpu' reg').1
  refine ⟨hlast.valid.trans (h.valid.trans hfirst.valid), hlast.pc.trans (h.pc.trans hfirst.pc),
    hlast.rawInstruction.trans (h.rawInstruction.trans hfirst.rawInstruction),
    hlast.opcode.trans (h.opcode.trans hfirst.opcode), hlast.r1.trans (h.r1.trans hfirst.r1), ?_⟩
  intro hop
  have hop' : reg.opcode = .jmp := by simpa using hop
  exact (hlast.address (h.opcode.trans hop')).trans ((h.address hop').trans (hfirst.address hop))

lemma SameShape.decode (h : SameShape reg reg') :
    decodeRawInstruction reg' = decodeRawInstruction reg :=
  decodeRawInstruction_congr h.valid h.rawInstruction h.pc

lemma SameShape.ifValid {α : Type*} (h : SameShape slot.reg slot'.reg) (events : List α) :
    ifValid slot' events = ifValid slot events := by
  simp only [Fillet.ifValid, h.valid]

lemma SameShape.vacated (h : SameShape slot.reg slot'.reg) :
    SameShape (vacated slot).reg (Fillet.vacated slot').reg := by
  simp only [Fillet.vacated, h.valid]
  split_ifs
  · exact .refl _
  · exact h

lemma SameShape.departed {latched latched' : PipelineRegister} (h : SameShape slot.reg slot'.reg)
    (hlatched : SameShape latched latched') :
    SameShape (departed slot latched).reg (Fillet.departed slot' latched').reg := by
  simp only [Fillet.departed, finished, h.valid, hlatched.valid]
  split_ifs
  · exact .refl _
  · exact hlatched
  · exact h

/-- A branch that is decided without operands is decided alike. -/
lemma SameShape.takenTarget (h : SameShape slot.reg slot'.reg)
    (hplain : slot.reg.valid = true → slot.reg.opcode ≠ .jeq) :
    takenTarget slot' = takenTarget slot := by
  simp only [Fillet.takenTarget, h.valid]
  split_ifs with hv
  · simp only [calculateBranchTarget, h.opcode, h.pc]
    cases hop : slot.reg.opcode with
    | jeq => exact absurd hop (hplain hv)
    | jmp => rw [h.address hop]
    | _ => rfl
  · rfl

end Shape

/-! ### Runs on the same course -/

/-- Two runs whose instructions are in the same places. -/
structure SameCourse (s s' : Simulation) : Prop where
  left : InStep s
  right : InStep s'
  program : SameProgram s.cpu s'.cpu
  free : BranchFree s.cpu
  pc : s'.cpu.pc = s.cpu.pc
  cycle : s'.engine.cycle = s.engine.cycle
  ifs : SameShape s.engine.ifStage.reg s'.engine.ifStage.reg
  id : SameShape s.engine.idStage.reg s'.engine.idStage.reg
  ex : SameShape s.engine.exStage.reg s'.engine.exStage.reg
  mem : SameShape s.engine.memStage.reg s'.engine.memStage.reg
  wb : SameShape s.engine.wbStage.reg s'.engine.wbStage.reg
  plain : s.engine.exStage.reg.valid = true → s.engine.exStage.reg.opcode ≠ .jeq
  completed : s'.trace.completed = s.trace.completed

lemma sameCourse_start (hsame : SameProgram cpu cpu') (hpc : cpu'.pc = cpu.pc)
    (hfree : BranchFree cpu) : SameCourse (.start cpu none) (.start cpu' none) where
  left := inStep_start cpu
  right := inStep_start cpu'
  program := hsame
  free := hfree
  pc := hpc
  cycle := rfl
  ifs := .refl _
  id := .refl _
  ex := .refl _
  mem := .refl _
  wb := .refl _
  plain hv := absurd hv (by simp [Simulation.start, PipelineEngine.zeroed, clearSlot,
    PipelineRegister.zeroed])
  completed := rfl

lemma SameCourse.hasWork {s s' : Simulation} (h : SameCourse s s') : s'.hasWork = s.hasWork := by
  simp only [Simulation.hasWork, h.left.target, h.right.target, pipelineHasWork, slotIsEmpty,
    h.pc, h.program.count, h.ifs.valid, h.id.valid, h.ex.valid, h.mem.valid, h.wb.valid]

/-- A cycle leaves both programs alone. -/
lemma SameCourse.program_next {s s' : Simulation} (h : SameCourse s s') :
    SameProgram (simulateCycle s).cpu (simulateCycle s').cpu ∧
      BranchFree (simulateCycle s).cpu := by
  have hleft := h.left.toScheduled.sameProgram
  have hright := h.right.toScheduled.sameProgram
  exact ⟨hleft.symm.trans (h.program.trans hright), h.free.sameProgram hleft⟩

section Cycle

variable (h : SameCourse ⟨cpu, none, e, t⟩ ⟨cpu', none, e', t'⟩)
include h

lemma SameCourse.program_counter :
    cpu'.pc = cpu.pc ∧ cpu'.instructionCount = cpu.instructionCount :=
  ⟨h.pc, h.program.count⟩

lemma SameCourse.running : running cpu' = running cpu := by
  obtain ⟨hpc, hcount⟩ := h.program_counter
  simp only [Fillet.running, hpc, hcount]

lemma SameCourse.fetches : fetches cpu' e' = fetches cpu e := by
  have hif : e'.ifStage.reg.valid = e.ifStage.reg.valid := h.ifs.valid
  simp only [Fillet.fetches, h.running, hif]

lemma SameCourse.word : memoryFetchInstruction cpu' cpu.pc = memoryFetchInstruction cpu cpu.pc :=
  memoryFetchInstruction_congr h.program.memory _

lemma SameCourse.fetchedPc : (fetchedCpu cpu' e').pc = (fetchedCpu cpu e).pc := by
  have hpc := h.program_counter.1
  simp only [fetchedCpu, h.fetches]
  split_ifs
  · rw [CPU.setPc_pc, CPU.setPc_pc, hpc]
  · exact hpc

lemma SameCourse.arrived : SameShape (arrivedSlot cpu e).reg (arrivedSlot cpu' e').reg := by
  simp only [arrivedSlot, h.fetches, h.program_counter.1, h.word]
  split_ifs
  · exact .refl _
  · exact h.ifs

lemma SameCourse.fetchLine : fetchLine cpu' e' = fetchLine cpu e := by
  simp only [Fillet.fetchLine, h.fetches, h.program_counter.1, h.word, h.running]

lemma SameCourse.latched : SameShape (latchedId cpu e) (latchedId cpu' e') := by
  have hdecode : decodeRawInstruction e'.idStage.reg = decodeRawInstruction e.idStage.reg :=
    h.id.decode
  simp only [latchedId, latchDecodeOperands]
  rw [hdecode]
  exact sameShape_latchOperands _ _ _

lemma SameCourse.taken : takenTarget e'.exStage = takenTarget e.exStage :=
  h.ex.takenTarget h.plain

/-- The hazard unit decides alike, and prints the same line. -/
lemma SameCourse.stalled (hid : e.idStage.reg.valid = true → e.idStage.completed = false)
    (hid' : e'.idStage.reg.valid = true → e'.idStage.completed = false) :
    (evaluateIdHazard e').stalled = (evaluateIdHazard e).stalled ∧
      hazardOutput (evaluateIdHazard e') = hazardOutput (evaluateIdHazard e) := by
  have hdecode : decodeRawInstruction e'.idStage.reg = decodeRawInstruction e.idStage.reg :=
    h.id.decode
  have hidv : e'.idStage.reg.valid = e.idStage.reg.valid := h.id.valid
  have hexv : e'.exStage.reg.valid = e.exStage.reg.valid := h.ex.valid
  have hop : e'.exStage.reg.opcode = e.exStage.reg.opcode := h.ex.opcode
  have hr1 : e'.exStage.reg.r1 = e.exStage.reg.r1 := h.ex.r1
  have hstalled : (evaluateIdHazard e').stalled = (evaluateIdHazard e).stalled := by
    rw [Bool.eq_iff_iff, stalled_iff, stalled_iff, hdecode, hexv, hop, hr1]
    rw [hidv] at hid' ⊢
    refine and_congr ?_ Iff.rfl
    exact ⟨fun hv => ⟨hv.1, hid hv.1⟩, fun hv => ⟨hv.1, hid' hv.1⟩⟩
  refine ⟨hstalled, ?_⟩
  cases hs : (evaluateIdHazard e).stalled with
  | true =>
    rw [hazardOutput_of_stalled hs, hazardOutput_of_stalled (hstalled.trans hs), stallLine,
      stallLine, hr1]
  | false => rw [hazardOutput_of_not_stalled hs, hazardOutput_of_not_stalled (hstalled.trans hs)]

/-- What leaves ID is no JEQ. -/
lemma SameCourse.plain_latched (hid : e.idStage.reg.valid = true) :
    (latchedId cpu e).opcode ≠ .jeq := by
  have hfrom := (h.left.order.id hid).1
  have hword := h.free _ hfrom.inside
  rw [← hfrom.raw] at hword
  rw [latchedId, latchDecodeOperands, latchOperands_opcode, decodeRawInstruction_opcode]
  exact hword

lemma SameCourse.next_ready (hready : FetchReady e) (hready' : FetchReady e') :
    SameCourse (simulateCycle ⟨cpu, none, e, t⟩) (simulateCycle ⟨cpu', none, e', t'⟩) := by
  have hleft := h.left.next
  have hright := h.right.next
  obtain ⟨hprogram, hfree⟩ := h.program_next
  have hstalled := (h.stalled (fun hv => (hready.id hv).2) (fun hv => (hready'.id hv).2)).1
  have htaken := h.taken
  have hcycle : e'.cycle = e.cycle := h.cycle
  have hcompleted : t'.completed = t.completed := h.completed
  have hexv : e'.exStage.reg.valid = e.exStage.reg.valid := h.ex.valid
  have hidv : e'.idStage.reg.valid = e.idStage.reg.valid := h.id.valid
  have hwb : ∀ events : List (ℕ × StageKind),
      ifValid e'.wbStage events = ifValid e.wbStage events := h.wb.ifValid
  have hex : ∀ events : List (ℕ × StageKind),
      ifValid e'.exStage events = ifValid e.exStage events := h.ex.ifValid
  have hid : ∀ events : List (ℕ × StageKind),
      ifValid e'.idStage events = ifValid e.idStage events := h.id.ifValid
  have hpc : (idCpu cpu' e').pc = (idCpu cpu e).pc := by
    rw [idCpu_pc, idCpu_pc, h.fetchedPc]
  rcases odd_cycle_cases e with ⟨hv, a, hbranch⟩ | hstall | ⟨hstall, hnone⟩
  · have hv' : e'.exStage.reg.valid = true := hexv.trans hv
    have hbranch' : calculateBranchTarget e'.exStage.reg = some a := by
      rw [takenTarget, takenTarget, if_pos hv', if_pos hv] at htaken
      exact htaken.trans hbranch
    rw [odd_cycle_taken hready hv hbranch] at hleft hprogram hfree ⊢
    rw [odd_cycle_taken hready' hv' hbranch'] at hright hprogram ⊢
    refine ⟨hleft, hright, hprogram, hfree, rfl, congrArg (· + 1) hcycle, .refl _, .refl _,
      .refl _, h.ex.exResult, h.wb.vacated, fun hv => absurd hv (by simp), ?_⟩
    dsimp only
    rw [hcompleted, hwb, hcycle]
  · rw [odd_cycle_stalled hready hstall] at hleft hprogram hfree ⊢
    rw [odd_cycle_stalled hready' (hstalled.trans hstall)] at hright hprogram ⊢
    refine ⟨hleft, hright, hprogram, hfree, hpc, congrArg (· + 1) hcycle, h.arrived, h.id,
      .refl _, h.ex.exResult, h.wb.vacated, fun hv => absurd hv (by simp), ?_⟩
    dsimp only
    rw [hcompleted, hwb, hcycle, h.fetches]
  · rw [odd_cycle_flow hready hstall hnone] at hleft hprogram hfree ⊢
    rw [odd_cycle_flow hready' (hstalled.trans hstall) (htaken.trans hnone)]
      at hright hprogram ⊢
    refine ⟨hleft, hright, hprogram, hfree, hpc, congrArg (· + 1) hcycle, h.arrived.vacated, ?_, ?_,
      ?_, h.wb.vacated, ?_, ?_⟩
    · dsimp only
      rw [h.arrived.valid]
      split_ifs
      · exact h.arrived
      · exact h.id.departed h.latched
    · dsimp only
      rw [hidv, h.latched.valid]
      split_ifs
      · exact h.latched
      · exact h.ex.vacated
    · dsimp only
      rw [hexv]
      split_ifs
      · exact h.ex.exResult
      · exact h.mem
    · dsimp only
      split_ifs with hmoved
      · rw [Bool.and_eq_true] at hmoved
        exact fun _ => h.plain_latched hmoved.1
      · exact fun hv => absurd hv (by simp)
    · dsimp only
      rw [hcompleted, hwb, hex, hid, hcycle, h.fetches]

lemma SameCourse.controlLines_ready (hready : FetchReady e) (hready' : FetchReady e') :
    controlLines (cycleOutput ⟨cpu', none, e', t'⟩) =
      controlLines (cycleOutput ⟨cpu, none, e, t⟩) := by
  have hline := (h.stalled (fun hv => (hready.id hv).2) (fun hv => (hready'.id hv).2)).2
  rw [hready.controlLines, hready'.controlLines, hline, h.fetchLine, redirectLines,
    redirectLines, h.taken]

lemma SameCourse.next_idle (hidle : FetchIdle e) (hidle' : FetchIdle e') :
    SameCourse (simulateCycle ⟨cpu, none, e, t⟩) (simulateCycle ⟨cpu', none, e', t'⟩) := by
  have hcycle : e'.cycle = e.cycle := h.cycle
  have hcompleted : t'.completed = t.completed := h.completed
  have hmemv : e'.memStage.reg.valid = e.memStage.reg.valid := h.mem.valid
  have hmem : ∀ events : List (ℕ × StageKind),
      ifValid e'.memStage events = ifValid e.memStage events := h.mem.ifValid
  have hleft := h.left.next
  have hright := h.right.next
  obtain ⟨hprogram, hfree⟩ := h.program_next
  rw [even_cycle hidle] at hleft hprogram hfree ⊢
  rw [even_cycle hidle'] at hright hprogram ⊢
  refine ⟨hleft, hright, hprogram, hfree, ?_, congrArg (· + 1) hcycle, h.ifs, ?_, ?_,
    h.mem.vacated, ?_, ?_, ?_⟩
  · rw [memAccessed_pc, memAccessed_pc]
    exact h.pc
  · dsimp only
    rw [countedUnless_reg, countedUnless_reg]
    exact h.id
  · dsimp only
    rw [counted_reg, counted_reg]
    exact h.ex
  · dsimp only
    rw [hmemv]
    split_ifs
    · exact h.mem.memResult cpu cpu'
    · exact h.wb
  · dsimp only
    rw [counted_reg]
    exact h.plain
  · dsimp only
    rw [hcompleted, hmem, hcycle]

lemma SameCourse.controlLines_idle (hidle : FetchIdle e) (hidle' : FetchIdle e') :
    controlLines (cycleOutput ⟨cpu', none, e', t'⟩) =
      controlLines (cycleOutput ⟨cpu, none, e, t⟩) := by
  have hline := (h.stalled (fun hv => (hidle.id hv).2) (fun hv => (hidle'.id hv).2)).2
  rw [hidle.controlLines, hidle'.controlLines, hline]

end Cycle

/-- One cycle of both runs. -/
lemma SameCourse.next {s s' : Simulation} (h : SameCourse s s') :
    SameCourse (simulateCycle s) (simulateCycle s') ∧
      controlLines (cycleOutput s') = controlLines (cycleOutput s) := by
  have hcycle := h.cycle
  obtain ⟨cpu, e, t, rfl, hready | hidle⟩ := h.left.toScheduled.shape
  · obtain ⟨cpu', e', t', rfl, hready' | hidle'⟩ := h.right.toScheduled.shape
    · exact ⟨h.next_ready hready hready', h.controlLines_ready hready hready'⟩
    · have heven := hready.cycle
      have hodd := hidle'.cycle
      dsimp only at hcycle
      omega
  · obtain ⟨cpu', e', t', rfl, hready' | hidle'⟩ := h.right.toScheduled.shape
    · have heven := hready'.cycle
      have hodd := hidle.cycle
      dsimp only at hcycle
      omega
    · exact ⟨h.next_idle hidle hidle', h.controlLines_idle hidle hidle'⟩

/-- Without JEQ the timing of a run does not depend on registers and data: on any CPU with the same
program and program counter the same stages complete in the same cycles, the run is equally long and
prints the same lines about fetches, stalls and jumps. -/
theorem branch_free_timing {cpu cpu' : CPU} (hsame : SameProgram cpu cpu') (hpc : cpu'.pc = cpu.pc)
    (hfree : BranchFree cpu) (n : ℕ) :
    (simulate n cpu' none).trace.completed = (simulate n cpu none).trace.completed ∧
    (simulate n cpu' none).engine.cycle = (simulate n cpu none).engine.cycle ∧
    controlLines (simulateOutput n cpu' none) = controlLines (simulateOutput n cpu none) := by
  have hstart := sameCourse_start hsame hpc hfree
  have hrun : SameCourse (simulate n cpu none) (simulate n cpu' none) :=
    boundedWhile_related (fun _ _ h => h.hasWork) (fun _ _ h _ => h.next.1) n hstart
  refine ⟨hrun.completed, hrun.cycle, ?_⟩
  rw [simulateOutput, simulateOutput, image_boundedLog rfl controlLines_append,
    image_boundedLog rfl controlLines_append]
  exact boundedLog_related (R := SameCourse) (fun _ _ h => h.hasWork) (fun _ _ h _ => h.next.1)
    (fun _ _ h _ => h.next.2) n hstart

/-- A load and its consumer, with other registers. -/
def otherRegisters : CPU :=
  { loadUseProgram with registers := fun _ => 7 }

lemma branchFree_loadUseProgram : BranchFree loadUseProgram := by
  intro a ha
  have hlt : a.toNat < 2 := UInt32.lt_iff_toNat_lt.mp ha
  have hcases : a = 0 ∨ a = 1 := by
    rw [← UInt32.toNat_inj, ← UInt32.toNat_inj]
    show a.toNat = 0 ∨ a.toNat = 1
    omega
  rcases hcases with rfl | rfl <;> decide

theorem branch_free_timing_loadUseProgram :
    (simulate 100 otherRegisters none).trace.completed =
      (simulate 100 loadUseProgram none).trace.completed ∧
    otherRegisters.registers ≠ loadUseProgram.registers := by
  have hsame : SameProgram loadUseProgram otherRegisters := ⟨fun _ _ => rfl, rfl⟩
  have htiming := branch_free_timing hsame rfl branchFree_loadUseProgram 100
  exact ⟨htiming.1, fun hregisters => absurd (congrFun hregisters 1) (by decide)⟩

end Fillet
