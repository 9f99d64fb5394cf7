import Fillet.Encoding
import Fillet.Library.Wrapping
import Fillet.Model.Execute

/-!
# Exact and wrapped arithmetic

What the 32-bit results of the execute stages say about the integers they stand for: the flags of
`executeALU` against exact sums and differences, and effective addresses against exact ones.
-/

namespace Fillet

open Wrapping

/-! ### Flags -/

/-- The test of `add_overflow` on the integers behind the words. -/
lemma addOverflow_iff (a b result : Int32) :
    addOverflow a b result = true ↔
      (0 < a.toInt ∧ 0 < b.toInt ∧ result.toInt < 0) ∨
        (a.toInt < 0 ∧ b.toInt < 0 ∧ 0 < result.toInt) := by
  simp [addOverflow, Int32.lt_iff_toInt_lt, and_assoc]

lemma subOverflow_iff (a b result : Int32) :
    subOverflow a b result = true ↔
      (0 < a.toInt ∧ b.toInt < 0 ∧ result.toInt < 0) ∨
        (a.toInt < 0 ∧ 0 < b.toInt ∧ 0 < result.toInt) := by
  simp [subOverflow, Int32.lt_iff_toInt_lt, and_assoc]

/-- A sum that wraps to 0 is missed. -/
lemma addOverflow_exact_iff (a b : Int32) :
    (addOverflow a b (a + b) = true ↔ ¬ Fits 2147483648 (a.toInt + b.toInt)) ↔
      ¬ (a.toInt = -2147483648 ∧ b.toInt = -2147483648) := by
  obtain ⟨ha1, ha2⟩ := fits_toInt a
  obtain ⟨hb1, hb2⟩ := fits_toInt b
  have hcases := wrap_cases 2147483648 (x := a.toInt + b.toInt) (by omega)
  rw [addOverflow_iff, toInt_add]
  generalize wrap 2147483648 (a.toInt + b.toInt) = result at hcases ⊢
  simp only [Fits] at hcases ⊢
  omega

/-- So is a difference whose minuend is 0. -/
lemma subOverflow_exact_iff (a b : Int32) :
    (subOverflow a b (a - b) = true ↔ ¬ Fits 2147483648 (a.toInt - b.toInt)) ↔
      ¬ (a.toInt = 0 ∧ b.toInt = -2147483648) := by
  obtain ⟨ha1, ha2⟩ := fits_toInt a
  obtain ⟨hb1, hb2⟩ := fits_toInt b
  have hcases := wrap_cases 2147483648 (x := a.toInt - b.toInt) (by omega)
  rw [subOverflow_iff, toInt_sub]
  generalize wrap 2147483648 (a.toInt - b.toInt) = result at hcases ⊢
  simp only [Fits] at hcases ⊢
  omega

/-- The 64-bit sum of two 32-bit words never wraps. -/
lemma carry_iff (a b : UInt32) :
    decide (a.toUInt64 + b.toUInt64 > 0xFFFFFFFF) = true ↔ 2 ^ 32 ≤ a.toNat + b.toNat := by
  have ha := a.toNat_lt
  have hb := b.toNat_lt
  have hsum : (a.toUInt64 + b.toUInt64).toNat = a.toNat + b.toNat := by
    rw [UInt64.toNat_add, UInt32.toNat_toUInt64, UInt32.toNat_toUInt64, Nat.mod_eq_of_lt]
    omega
  have hmax : (0xFFFFFFFF : UInt64).toNat = 4294967295 := rfl
  rw [decide_eq_true_iff, gt_iff_lt, UInt64.lt_iff_toNat_lt, hsum, hmax]
  omega

/-- The flags describe the exact sum and the exact difference of `a` and `b`. -/
structure FlagsExact (a b imm : Int32) (shamt : Int) : Prop where
  add_result : (executeALU .add a b imm shamt).result.toInt = wrap 2147483648 (a.toInt + b.toInt)
  add_overflow : (executeALU .add a b imm shamt).overflow = true ↔
    ¬ Fits 2147483648 (a.toInt + b.toInt)
  add_carry : (executeALU .add a b imm shamt).carry = true ↔
    2 ^ 32 ≤ a.toUInt32.toNat + b.toUInt32.toNat
  add_zero : (executeALU .add a b imm shamt).zero = true ↔
    (executeALU .add a b imm shamt).result.toInt = 0
  add_negative : (executeALU .add a b imm shamt).negative = true ↔
    (executeALU .add a b imm shamt).result.toInt < 0
  sub_result : (executeALU .sub a b imm shamt).result.toInt = wrap 2147483648 (a.toInt - b.toInt)
  sub_overflow : (executeALU .sub a b imm shamt).overflow = true ↔
    ¬ Fits 2147483648 (a.toInt - b.toInt)
  sub_zero : (executeALU .sub a b imm shamt).zero = true ↔
    (executeALU .sub a b imm shamt).result.toInt = 0
  sub_negative : (executeALU .sub a b imm shamt).negative = true ↔
    (executeALU .sub a b imm shamt).result.toInt < 0

lemma beq_zero_iff (v : Int32) : (v == 0) = true ↔ v.toInt = 0 := by
  rw [beq_iff_eq, ← Int32.toInt_inj]
  rfl

lemma lt_zero_iff (v : Int32) : decide (v < 0) = true ↔ v.toInt < 0 := by
  rw [decide_eq_true_iff, Int32.lt_iff_toInt_lt]
  rfl

/-- The flags are exact for all operands but two pairs: the overflow of `INT_MIN + INT_MIN`, which
wraps to 0, and of `0 - INT_MIN` is not reported. -/
theorem alu_flags_exact_iff (a b imm : Int32) (shamt : Int) :
    FlagsExact a b imm shamt ↔
      (b.toInt = -2147483648 → a.toInt ≠ -2147483648 ∧ a.toInt ≠ 0) := by
  constructor
  · intro h hb
    constructor
    · intro ha
      exact (addOverflow_exact_iff a b).mp h.add_overflow ⟨ha, hb⟩
    · intro ha
      exact (subOverflow_exact_iff a b).mp h.sub_overflow ⟨ha, hb⟩
  · intro h
    constructor
    case add_result => exact toInt_add a b
    case add_overflow =>
      apply (addOverflow_exact_iff a b).mpr
      rintro ⟨ha, hb⟩
      exact (h hb).1 ha
    case add_carry => exact carry_iff _ _
    case add_zero => exact beq_zero_iff _
    case add_negative => exact lt_zero_iff _
    case sub_result => exact toInt_sub a b
    case sub_overflow =>
      apply (subOverflow_exact_iff a b).mpr
      rintro ⟨ha, hb⟩
      exact (h hb).2 ha
    case sub_zero => exact beq_zero_iff _
    case sub_negative => exact lt_zero_iff _

/-- `INT_MIN + INT_MIN` is 0 with a carry, without an overflow. -/
theorem flags_miss_min_plus_min : ¬ FlagsExact (-2147483648) (-2147483648) 0 0 := by
  intro h
  exact absurd (h.add_overflow.mpr (by decide)) (by decide)

/-! ### Effective addresses -/

/-- An immediate of a decoded instruction has 18 bits. -/
lemma decodeRawInstruction_immediate (reg : PipelineRegister) :
    -131072 ≤ (decodeRawInstruction reg).immediate.toInt ∧
      (decodeRawInstruction reg).immediate.toInt ≤ 131071 := by
  have hzero : (0 : Int32).toInt = 0 := rfl
  have hfield := toInt_signExtend reg.rawInstruction
  simp only [decodeRawInstruction]
  split
  case h_4 =>
    rw [hfield]
    split_ifs <;> omega
  all_goals
    simp only [PipelineRegister.zeroed, hzero]
    omega

/-- The address that `complete_ex_stage` leaves for a load or a store. -/
lemma exResult_address {reg : PipelineRegister} (hop : reg.opcode = .movr ∨ reg.opcode = .movm) :
    (exResult reg).address = reg.operand1 + reg.immediate := by
  simp [exResult, hop]

/-- Wrapping does not bring the address of a load or a store into the data segment, nor out of it:
an 18-bit offset is too short to cross the range of `int32_t`. -/
theorem effective_address_exact (reg : PipelineRegister) (base : Int32) :
    ((decodeRawInstruction reg).opcode = .movr ∨ (decodeRawInstruction reg).opcode = .movm →
      (exResult { decodeRawInstruction reg with operand1 := base }).address =
        base + (decodeRawInstruction reg).immediate) ∧
    (isDataAddress (base + (decodeRawInstruction reg).immediate) = true ↔
      1024 ≤ base.toInt + (decodeRawInstruction reg).immediate.toInt ∧
        base.toInt + (decodeRawInstruction reg).immediate.toInt ≤ 2047) ∧
    (isDataAddress (base + (decodeRawInstruction reg).immediate) = true →
      (base + (decodeRawInstruction reg).immediate).toInt =
        base.toInt + (decodeRawInstruction reg).immediate.toInt) := by
  refine ⟨fun hop => exResult_address hop, ?_⟩
  obtain ⟨hlow, hhigh⟩ := decodeRawInstruction_immediate reg
  obtain ⟨hbase, hbase'⟩ := fits_toInt base
  generalize (decodeRawInstruction reg).immediate = offset at hlow hhigh ⊢
  obtain ⟨hwindow, hexact⟩ := wrap_mem_window_iff 2147483648 131072 1024 2047
    (x := base.toInt + offset.toInt) (by omega) (by decide) (by decide) (by decide)
  have hdata : isDataAddress (base + offset) = true ↔
      1024 ≤ base.toInt + offset.toInt ∧ base.toInt + offset.toInt ≤ 2047 := by
    rw [isDataAddress_iff, toInt_add, ← hwindow]
    exact and_congr_right fun _ => Int.lt_add_one_iff (b := 2047)
  refine ⟨hdata, ?_⟩
  intro h
  rw [toInt_add]
  exact hexact (hdata.mp h)

end Fillet
