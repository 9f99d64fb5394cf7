import Fillet.Assembler.Meaning
import Fillet.Library.Wrapping
import Fillet.Pipeline.Isolation
import Fillet.Pipeline.Timing

/-!
# Signed arithmetic in EX

`complete_ex_stage` adds, subtracts, multiplies and forms addresses in `int32_t`, without the
detour over `uint32_t` that its shifts take. In every run EX computes with the operands of the
sequential run, two cycles before the instruction completes, so the operands of the sequential run
tell whether one of these expressions overflows. A program that only moves, shifts, compares and
jumps, and addresses memory from R0, is free of overflow by its text.
-/

namespace Fillet

open Wrapping BoundedLoop

variable {cpu : CPU} {e : PipelineEngine} {t : Trace}

/-! ### The expressions -/

/-- The exact values of the signed expressions that `complete_ex_stage` evaluates. -/
def exExpressions (reg : PipelineRegister) : List Int :=
  (match reg.control.aluOp with
    | .add => [reg.operand1.toInt + reg.operand2.toInt]
    | .sub => [reg.operand1.toInt - reg.operand2.toInt]
    | .mul => [reg.operand1.toInt * reg.operand2.toInt]
    | .and | .xor | .shiftLeft | .shiftRight | .passB | .none => []) ++
  if reg.opcode = .movr ∨ reg.opcode = .movm then [reg.operand1.toInt + reg.immediate.toInt]
  else []

/-- All of them are values of an `int32_t`. -/
def NoSignedOverflow (reg : PipelineRegister) : Prop :=
  ∀ v ∈ exExpressions reg, Fits 2147483648 v

/-! ### What the operands tell -/

/-- The distance from `a` to the end of the range on its side is not less than `b`. -/
def RoomToAdd (a b : Int) : Prop :=
  if 0 ≤ a then b ≤ 2147483647 - a else -2147483648 - a ≤ b

def RoomToSubtract (a b : Int) : Prop :=
  if 0 ≤ b then b - 2147483648 ≤ a else a ≤ 2147483647 + b

/-- `a` is at most the quotient of the end of the range on the side of the product by `b`. -/
def RoomToMultiply (a b : Int) : Prop :=
  b = 0 ∨ a.natAbs ≤ (if 0 ≤ a ↔ 0 ≤ b then 2147483647 else 2147483648) / b.natAbs

/-- The operands of an instruction leave each other room. -/
def OperandsFit (reg : PipelineRegister) : Prop :=
  match reg.opcode with
  | .add => RoomToAdd reg.operand1.toInt reg.operand2.toInt
  | .sub => RoomToSubtract reg.operand1.toInt reg.operand2.toInt
  | .mul => RoomToMultiply reg.operand1.toInt reg.operand2.toInt
  | .movr | .movm => RoomToAdd reg.operand1.toInt reg.immediate.toInt
  | .movi | .jeq | .and | .ori | .jmp | .lsl | .lsr | .reserved _ => True

lemma fits_add_iff_room (a b : Int32) :
    Fits 2147483648 (a.toInt + b.toInt) ↔ RoomToAdd a.toInt b.toInt :=
  fits_add_iff (fits_toInt a) (fits_toInt b)

lemma fits_sub_iff_room (a b : Int32) :
    Fits 2147483648 (a.toInt - b.toInt) ↔ RoomToSubtract a.toInt b.toInt :=
  fits_sub_iff (fits_toInt a) (fits_toInt b)

lemma fits_mul_iff_room (a b : Int32) :
    Fits 2147483648 (a.toInt * b.toInt) ↔ RoomToMultiply a.toInt b.toInt := by
  by_cases hb : b.toInt = 0
  · rw [hb, mul_zero]
    exact iff_of_true (by decide) (Or.inl rfl)
  · rw [fits_mul_iff (by decide) hb, RoomToMultiply, or_iff_right hb]

/-- Without an overflow exactly when the operands leave each other room. -/
lemma Decoded.noSignedOverflow_iff {reg : PipelineRegister} (h : Decoded reg) :
    NoSignedOverflow reg ↔ OperandsFit reg := by
  simp only [NoSignedOverflow, exExpressions, OperandsFit, h.control, generateControlSignals_aluOp]
  cases hop : reg.opcode with
  | add => simp [opcodeAluOperation, fits_add_iff_room]
  | sub => simp [opcodeAluOperation, fits_sub_iff_room]
  | mul => simp [opcodeAluOperation, fits_mul_iff_room]
  | movr | movm => simp [opcodeAluOperation, fits_add_iff_room]
  | movi | jeq | and | ori | jmp | lsl | lsr | reserved k => simp [opcodeAluOperation]

/-- An operand that is latched but not read is in none of the expressions. -/
lemma exExpressions_operand2 {reg : PipelineRegister} (hreg : Decoded reg)
    (hop : ignoresOperand2 reg.opcode = true) (v : Int32) :
    exExpressions { reg with operand2 := v } = exExpressions reg := by
  have hcontrol := hreg.control
  rcases (ignoresOperand2_iff reg.opcode).mp hop with hcode | hcode | hcode | hcode <;>
    simp [exExpressions, hcontrol, hcode, opcodeAluOperation]

lemma exExpressions_latchOperands_congr {reg : PipelineRegister} (hreg : Decoded reg)
    (hvalid : reg.valid = true) {f g : Int → Int32} (hzero : f 0 = g 0)
    (hread : ∀ r, instructionReadsRegister reg r = true → f r = g r) :
    exExpressions (latchOperands f reg) = exExpressions (latchOperands g reg) := by
  rcases latchOperands_congr hvalid hzero hread with heq | ⟨hop, heq⟩
  · rw [heq]
  · rw [heq]
    apply exExpressions_operand2 (hreg.latchOperands g)
    rwa [latchOperands_opcode]

/-! ### The moment in which EX is ticked -/

/-- The next cycle up to the tick of EX. -/
def atExTick (s : Simulation) : Simulation :=
  tickSlot (tickSlot (hazardPhase (fetchPhase (beginCycle s))) .stageWb true) .stageMem true

/-- The instruction that `complete_ex_stage` is called with in the next cycle, if it is. -/
def executing (s : Simulation) : Option PipelineRegister :=
  let slot := (atExTick s).engine.exStage
  if !slotIsEmpty slot && !slot.completed && decide (slot.cyclesLeft - 1 ≤ 0) then some slot.reg
  else none

/-- `complete_ex_stage` is called with it, ... -/
lemma completeExStage_of_executing {s : Simulation} {reg : PipelineRegister}
    (h : executing s = some reg) :
    ∃ s', backPhase (hazardPhase (fetchPhase (beginCycle s))) = completeExStage s' ∧
      s'.engine.exStage.reg = reg := by
  simp only [executing] at h
  split_ifs at h with hready
  simp only [Bool.and_eq_true, Bool.not_eq_true', decide_eq_true_eq] at hready
  obtain ⟨⟨hfull, hcompleted⟩, hleft⟩ := hready
  show ∃ s', tickSlot (atExTick s) .stageEx true = completeExStage s' ∧ _
  simp only [tickSlot, PipelineEngine.stage, hfull, hcompleted, Bool.not_true, Bool.or_self,
    Bool.false_eq_true, if_false, gt_iff_lt, not_lt.mpr hleft]
  exact ⟨_, rfl, Option.some.inj h⟩

/-- ... and without it EX keeps its instruction as it is. -/
lemma exStage_of_not_executing {s : Simulation} (h : executing s = none) :
    (backPhase (hazardPhase (fetchPhase (beginCycle s)))).engine.exStage.reg =
      (atExTick s).engine.exStage.reg := by
  show (tickSlot (atExTick s) .stageEx true).engine.exStage.reg = _
  cases hv : (atExTick s).engine.exStage.reg.valid with
  | false => rw [tickSlot_of_empty _ .stageEx true hv]
  | true =>
    cases hcompleted : (atExTick s).engine.exStage.completed with
    | true =>
      have hstage : ((atExTick s).engine.stage .stageEx).completed = true := hcompleted
      rw [tickSlot_of_completed true hstage]
    | false =>
      have hcount : 0 < (atExTick s).engine.exStage.cyclesLeft - 1 := by
        by_contra hlast
        simp [executing, slotIsEmpty, hv, hcompleted, not_lt.mp hlast] at h
      simp only [tickSlot, PipelineEngine.stage, slotIsEmpty, hv, hcompleted, Bool.not_true,
        Bool.or_self, Bool.false_eq_true, if_false, gt_iff_lt, hcount, if_true]
      rfl

/-- EX completes when the cycle is its last one. -/
lemma executing_of_pending {s : Simulation} {slot : StageSlot} {n : Int}
    (hslot : (atExTick s).engine.exStage = slot) (hpending : Pending slot n) :
    executing s = if slot.reg.valid = true ∧ n ≤ 1 then some slot.reg else none := by
  simp only [executing]
  rw [hslot]
  cases hv : slot.reg.valid with
  | false => simp [slotIsEmpty, hv]
  | true =>
    obtain ⟨hleft, hcompleted⟩ := hpending hv
    simp [slotIsEmpty, hv, hleft, hcompleted]

/-- In an odd cycle EX completes what it holds. -/
lemma FetchReady.executing (h : FetchReady e) :
    executing ⟨cpu, none, e, t⟩ =
      if e.exStage.reg.valid then some e.exStage.reg else none := by
  have hslot : (atExTick ⟨cpu, none, e, t⟩).engine.exStage = e.exStage := by
    rw [atExTick, h.fetchPhase]
    simp only [hazardPhase]
    rw [tickSlot_wb, tickSlot_of_empty _ .stageMem true]
    · exact h.mem
    · exact h.wb
  rw [executing_of_pending hslot h.ex]
  simp

/-- In an even cycle it counts down. -/
lemma FetchIdle.executing (h : FetchIdle e) : executing ⟨cpu, none, e, t⟩ = none := by
  have hslot : (atExTick ⟨cpu, none, e, t⟩).engine.exStage = e.exStage := by
    rw [atExTick, h.fetchPhase]
    simp only [hazardPhase]
    rw [tickSlot_of_empty _ .stageWb true, tickSlot_mem]
    · exact h.mem
    · exact h.wb
  rw [executing_of_pending hslot h.ex]
  simp

/-- EX completes in odd cycles, whatever it holds. -/
lemma Scheduled.executing_iff {s : Simulation} (h : Scheduled s) (reg : PipelineRegister) :
    executing s = some reg ↔
      s.engine.cycle % 2 = 0 ∧ s.engine.exStage.reg.valid = true ∧ s.engine.exStage.reg = reg := by
  obtain ⟨cpu, e, t, rfl, hready | hidle⟩ := h.shape
  · rw [hready.executing]
    simp [hready.cycle]
  · rw [hidle.executing]
    simp [hidle.cycle]

/-! ### What EX computes in a run -/

/-- What ID latches has the expressions of the sequential machine's next instruction. -/
lemma FetchReady.latched_expressions (h : FetchReady e) (cpu : CPU) (t : Trace)
    (hstall : (evaluateIdHazard e).stalled = false)
    (hvalid : (decodeRawInstruction e.idStage.reg).valid = true) :
    exExpressions (latchedId cpu e) =
      exExpressions (latchOperands (readRegister (Fillet.drained ⟨cpu, none, e, t⟩).cpu)
        (decodeRawInstruction e.idStage.reg)) := by
  apply exExpressions_latchOperands_congr (decoded_decodeRawInstruction _) hvalid
  · exact forwarded_operand_current h hstall (Or.inl rfl)
  · exact fun r hr => forwarded_operand_current h hstall (Or.inr hr)

/-- A run on time whose EX computes with the operands of the last instruction that left ID. -/
structure Computing (cpu : CPU) (k : ℕ) (s : Simulation) : Prop extends OnTime cpu k s where
  ex : s.engine.exStage.reg.valid = true → ∃ i, k = i + 1 ∧
    exExpressions s.engine.exStage.reg = exExpressions (instructionAt cpu i)

lemma Computing.next {k : ℕ} {s : Simulation} (h : Computing cpu k s) :
    ∃ k', Computing cpu k' (simulateCycle s) := by
  rcases h.toOnTime.next_cases with ⟨hnext, hkeep⟩ | ⟨hnext, hready, hstall, hnone, hid, hex⟩
  · refine ⟨k, hnext, ?_⟩
    intro hv
    have hsame := hkeep hv
    rw [hsame] at hv ⊢
    exact h.ex hv
  · refine ⟨k + 1, hnext, fun _ => ⟨k, rfl, ?_⟩⟩
    obtain ⟨c, e, t, rfl, -⟩ := h.toScheduled.shape
    rw [hex, hready.latched_expressions c t hstall (h.order.id_valid h.program hid),
      instructionAt, ← h.view, sequentialInstruction_view _ h.order hnone hid]

lemma computing_simulate (hprogram : Formatted cpu) (n : ℕ) :
    ∃ k, Computing cpu k (simulate n cpu none) :=
  boundedWhile_invariant (P := fun s => ∃ k, Computing cpu k s) (fun _ ⟨_, h⟩ _ => h.next) n
    ⟨0, onTime_start hprogram, fun hv => absurd hv Bool.false_ne_true⟩

/-- While something is behind ID every round has been a cycle. -/
lemma OnTime.cycle_eq {k n : ℕ} (h : OnTime cpu k (simulate n cpu none))
    (hpending : pendingCycles (simulate n cpu none).engine ≠ []) :
    (simulate n cpu none).engine.cycle = n := by
  rcases simulate_exit n cpu with hdone | hcycle
  · rw [h.toInStep.hasWork_iff.mpr (Or.inl hpending)] at hdone
    exact absurd hdone Bool.noConfusion
  · exact hcycle

lemma getLast?_timeline {s : Simulation} (hv : s.engine.exStage.reg.valid = true) :
    (timeline s).getLast? = some (s.engine.cycle + 3 + s.engine.cycle % 2) := by
  have hex : ∀ c : ℕ, ifValid s.engine.exStage [c] = [c] := fun c => if_pos hv
  rw [timeline, pendingCycles, hex, ← List.append_assoc, List.getLast?_concat]

/-- EX completes in cycle `n + 1` what retires in cycle `n + 3`. -/
lemma Computing.due {k n : ℕ} (h : Computing cpu k (simulate n cpu none))
    {reg : PipelineRegister} (hreg : executing (simulate n cpu none) = some reg) :
    ∃ i, running (machineAt cpu i).cpu = true ∧ completionCycle cpu i = n + 3 ∧
      exExpressions reg = exExpressions (instructionAt cpu i) := by
  obtain ⟨heven, hv, rfl⟩ := (h.toScheduled.executing_iff reg).mp hreg
  obtain ⟨i, rfl, hexpressions⟩ := h.ex hv
  refine ⟨i, h.ran i (Nat.lt_succ_self i), ?_, hexpressions⟩
  have hcycle := h.toOnTime.cycle_eq (by simp [pendingCycles, ifValid, hv])
  have hlast := getLast?_timeline hv
  rw [h.due_cycles, List.range_succ, List.map_append, List.map_singleton, List.getLast?_concat,
    heven, hcycle] at hlast
  exact Option.some.inj hlast

lemma issueDelay_pos (e : PipelineEngine) : 0 < issueDelay e := by
  simp only [issueDelay]
  split_ifs <;> exact Nat.add_pos_left (by decide) _

/-- What completes within three cycles has left ID. -/
lemma OnTime.left_id {k n i : ℕ} (h : OnTime cpu k (simulate n cpu none))
    (hrun : running (machineAt cpu i).cpu = true) (hdue : completionCycle cpu i ≤ n + 3) :
    i < k := by
  by_contra hik
  have hki : k ≤ i := not_lt.mp hik
  have hrunk := running_of_running_later hki hrun
  have hnext := h.next_due hrunk
  have hmono := (completionCycle_strictMono cpu).monotone hki
  have hdelay := issueDelay_pos (simulate n cpu none).engine
  rcases simulate_exit n cpu with hdone | hcycle
  · rw [h.toInStep.hasWork_iff.mpr (Or.inr (by rwa [h.view]))] at hdone
    exact absurd hdone Bool.noConfusion
  · simp only [dueCycle] at hnext
    omega

/-- What completes in three cycles is in EX. -/
lemma valid_ex_of_mem_pendingCycles (h : e.cycle + 3 ∈ pendingCycles e) :
    e.cycle % 2 = 0 ∧ e.exStage.reg.valid = true := by
  rcases mem_pendingCycles h with hwb | hmem | ⟨hex, hv⟩
  · omega
  · omega
  · exact ⟨by omega, hv⟩

/-- An instruction of the sequential run is in EX two cycles before it retires. -/
lemma Computing.exists_executing {k n i : ℕ} (h : Computing cpu k (simulate n cpu none))
    (hrun : running (machineAt cpu i).cpu = true) (hdue : completionCycle cpu i = n + 3) :
    ∃ reg, executing (simulate n cpu none) = some reg := by
  have hik := h.toOnTime.left_id hrun hdue.le
  have hmem : completionCycle cpu i ∈ timeline (simulate n cpu none) := by
    rw [h.due_cycles]
    exact List.mem_map_of_mem (List.mem_range.mpr hik)
  rcases List.mem_append.mp hmem with hretired | hpending
  · have hpast := h.past _ hretired
    have hle := simulate_cycle_le n cpu
    omega
  · have hcycle := h.toOnTime.cycle_eq (List.ne_nil_of_mem hpending)
    have hthree : completionCycle cpu i = (simulate n cpu none).engine.cycle + 3 := by
      rw [hcycle, hdue]
    rw [hthree] at hpending
    obtain ⟨heven, hv⟩ := valid_ex_of_mem_pendingCycles hpending
    exact ⟨_, (h.toScheduled.executing_iff _).mpr ⟨heven, hv, rfl⟩⟩

/-! ### Every run of an assembled program -/

lemma decoded_instructionAt (cpu : CPU) (i : ℕ) : Decoded (instructionAt cpu i) :=
  (decoded_decodeRawInstruction _).latchOperands _

/-- A run of an assembled program is free of signed overflow in EX exactly when the operands of each
instruction that it executes leave each other room. -/
theorem no_signed_overflow_iff (filepath : List Char) (content : Option (List Char))
    (options : PipelineSimOptions) :
    (∀ n < options.cycleBound, ∀ reg,
      executing (simulate n (loadedCpu filepath content) none) = some reg →
        NoSignedOverflow reg) ↔
    ∀ i, running (machineAt (loadedCpu filepath content) i).cpu = true →
      completionCycle (loadedCpu filepath content) i ≤ options.cycleBound + 2 →
        OperandsFit (instructionAt (loadedCpu filepath content) i) := by
  have hprogram := (loaded_parse filepath content).formatted
  constructor
  · intro hrun i hi hdue
    have hseven : 7 ≤ completionCycle (loadedCpu filepath content) i :=
      (completionCycle_strictMono _).monotone (Nat.zero_le i)
    obtain ⟨n, hn⟩ := Nat.exists_eq_add_of_le' (Nat.le_trans (by decide : 3 ≤ 7) hseven)
    obtain ⟨k, hk⟩ := computing_simulate hprogram n
    obtain ⟨reg, hreg⟩ := hk.exists_executing hi hn
    obtain ⟨j, -, hj, hexpressions⟩ := hk.due hreg
    obtain rfl : j = i := (completionCycle_strictMono _).injective (hj.trans hn.symm)
    rw [← (decoded_instructionAt _ j).noSignedOverflow_iff, NoSignedOverflow, ← hexpressions]
    exact hrun n (by omega) reg hreg
  · intro hfit n hn reg hreg
    obtain ⟨k, hk⟩ := computing_simulate hprogram n
    obtain ⟨i, hi, hdue, hexpressions⟩ := hk.due hreg
    rw [NoSignedOverflow, hexpressions]
    apply (decoded_instructionAt _ i).noSignedOverflow_iff.mpr
    exact hfit i hi (by omega)

/-- The product of two 18-bit immediates. -/
def productText : List Char :=
  "MOVI R1 131071\nMUL R2 R1 R1\n".toList

/-- In cycle 7 MUL computes 131071 * 131071. -/
theorem product_overflows :
    ¬ ∀ n < (⟨true, 0⟩ : PipelineSimOptions).cycleBound, ∀ reg,
      executing (simulate n (loadedCpu [] (some productText)) none) = some reg →
        NoSignedOverflow reg := by
  have hexpressions : (executing (simulate 6 (loadedCpu [] (some productText)) none)).map
      exExpressions = some [17179607041] := by decide
  obtain ⟨reg, hreg, hvalue⟩ := Option.map_eq_some_iff.mp hexpressions
  intro hrun
  have hfits := hrun 6 (by decide) reg hreg
  rw [NoSignedOverflow, hvalue] at hfits
  exact absurd (hfits 17179607041 List.mem_cons_self) (by decide)

/-! ### Programs without arithmetic -/

/-- The line is no addition, subtraction or multiplication, and the base register of a load or a
store is R0. -/
def WithoutArithmetic (line : List Char) : Prop :=
  ∀ tokens ∈ instructionTokens line, ∀ opcode ∈ opcodeFromString tokens.opcodeToken,
    (opcode ≠ .add ∧ opcode ≠ .sub ∧ opcode ≠ .mul) ∧
      (opcode = .movr ∨ opcode = .movm → parseRegister tokens.arg2 = .ok 0)

instance (line : List Char) : Decidable (WithoutArithmetic line) :=
  inferInstanceAs (Decidable (∀ tokens ∈ instructionTokens line,
    ∀ opcode ∈ opcodeFromString tokens.opcodeToken,
      (opcode ≠ .add ∧ opcode ≠ .sub ∧ opcode ≠ .mul) ∧
        (opcode = .movr ∨ opcode = .movm → parseRegister tokens.arg2 = .ok 0)))

lemma roomToAdd_zero (b : Int32) : RoomToAdd 0 b.toInt := by
  have hlt := b.toInt_lt
  rw [RoomToAdd, if_pos le_rfl]
  omega

lemma latchOperands_base {reg : PipelineRegister} (h : reg.opcode = .movr ∨ reg.opcode = .movm)
    (read : Int → Int32) : (latchOperands read reg).operand1 = read reg.r2 := by
  rcases h with h | h <;> simp [latchOperands, h]

/-- Whatever the registers hold, the operands of such a line fit. -/
lemma operandsFit_of_withoutArithmetic {line : List Char} {word : UInt32}
    (hline : WithoutArithmetic line) (hword : assembledWord line = some word) (cpu : CPU)
    (pc : UInt32) :
    OperandsFit (latchOperands (readRegister cpu)
      (decodeRawInstruction (fetchedRegister pc word))) := by
  obtain ⟨tokens, opcode, htokens, hopcode, hassembles⟩ := assembledWord_iff.mp hword
  obtain ⟨⟨hadd, hsub, hmul⟩, hbase⟩ := hline tokens htokens opcode hopcode
  have hdecoded := (hassembles.decoded pc).2
  have hr0 : opcode = .movr ∨ opcode = .movm →
      (decodeRawInstruction (fetchedRegister pc word)).r2 = 0 := by
    intro hmemory
    cases hassembles with
    | immediate hop h1 h2 _ _ hrange =>
      obtain ⟨-, hr2, -⟩ := fields_immediate h1 pc hop h2 hrange
      rw [hr2, Except.ok.inj (h2.symm.trans (hbase hmemory))]
      rfl
    | arithmetic hop => rcases hop with rfl | rfl | rfl | rfl <;> simp at hmemory
    | movi => simp at hmemory
    | shift hop => rcases hop with rfl | rfl <;> simp at hmemory
    | jump => simp at hmemory
  have haddress : ∀ reg, reg = decodeRawInstruction (fetchedRegister pc word) →
      opcode = .movr ∨ opcode = .movm →
      RoomToAdd (latchOperands (readRegister cpu) reg).operand1.toInt
        (latchOperands (readRegister cpu) reg).immediate.toInt := by
    rintro reg rfl hmemory
    rw [latchOperands_base (hdecoded.symm ▸ hmemory), hr0 hmemory, readRegister_zero]
    exact roomToAdd_zero _
  simp only [OperandsFit, latchOperands_opcode, hdecoded]
  cases opcode with
  | add => exact absurd rfl hadd
  | sub => exact absurd rfl hsub
  | mul => exact absurd rfl hmul
  | movr => exact haddress _ rfl (Or.inl rfl)
  | movm => exact haddress _ rfl (Or.inr rfl)
  | movi | jeq | and | ori | jmp | lsl | lsr | reserved k => trivial

/-- A program without arithmetic runs without signed overflow in EX. -/
theorem no_overflow_without_arithmetic (filepath : List Char) {text : List Char}
    (h : ∀ line ∈ acceptedLines text, WithoutArithmetic line) (n : ℕ) {reg : PipelineRegister}
    (hreg : executing (simulate n (loadedCpu filepath (some text)) none) = some reg) :
    NoSignedOverflow reg := by
  have hloaded := loaded_parse filepath (some text)
  obtain ⟨k, hk⟩ := computing_simulate hloaded.formatted n
  obtain ⟨i, hi, -, hexpressions⟩ := hk.due hreg
  rw [NoSignedOverflow, hexpressions]
  apply (decoded_instructionAt _ i).noSignedOverflow_iff.mpr
  have hsame := sameProgram_machineAt (loadedCpu filepath (some text)) i
  have hpc := of_decide_eq_true hi
  rw [hsame.count] at hpc
  obtain ⟨line, hline, hword⟩ := accepted_word cpuReset filepath text (hloaded.address_lt hpc).1
  rw [instructionAt, sequentialInstruction, memoryFetchInstruction_congr hsame.memory]
  exact operandsFit_of_withoutArithmetic (h line (List.mem_of_getElem? hline)) hword _ _

/-- A shift and a store. -/
def shiftText : List Char :=
  "MOVI R1 3\nLSL R2 R1 31\nMOVM R2 R0 1024".toList

/-- In cycle 9 the store computes its address. -/
theorem no_overflow_without_arithmetic_shifts :
    ∃ reg, executing (simulate 8 (loadedCpu [] (some shiftText)) none) = some reg ∧
      reg.opcode = .movm ∧ NoSignedOverflow reg := by
  have hopcode : (executing (simulate 8 (loadedCpu [] (some shiftText)) none)).map
      PipelineRegister.opcode = some .movm := by decide
  obtain ⟨reg, hreg, hmovm⟩ := Option.map_eq_some_iff.mp hopcode
  exact ⟨reg, hreg, hmovm, no_overflow_without_arithmetic [] (by decide) 8 hreg⟩

end Fillet
