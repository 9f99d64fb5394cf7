import Mathlib.Algebra.Order.Ring.Int
import Mathlib.Tactic.Common

/-!
# Signed words that wrap around

A signed word takes the values from `-half` to `half - 1`; an operation that leaves this range is
off by a multiple of `2 * half`. The rules say by how much a sum or a difference is off, when a
result that was wrapped is the exact one, and how two operands tell in advance that the result fits.
-/

namespace Wrapping

variable {half : ℕ} {a b x : Int}

/-- The values of a signed word. -/
def Fits (half : ℕ) (x : Int) : Prop :=
  -half ≤ x ∧ x < half

instance : Decidable (Fits half x) :=
  inferInstanceAs (Decidable (-half ≤ x ∧ x < half))

/-- What a signed word keeps of an integer. -/
def wrap (half : ℕ) (x : Int) : Int :=
  x.bmod (2 * half)

lemma wrap_of_fits (h : Fits half x) : wrap half x = x := by
  obtain ⟨hlow, hhigh⟩ := h
  apply Int.bmod_eq_of_le
  · push_cast
    omega
  · push_cast
    omega

lemma wrap_sub_modulus (x : Int) : wrap half (x - 2 * half) = wrap half x := by
  have hcancel := Int.sub_mul_bmod_self_right x 1 (2 * half)
  rw [one_mul] at hcancel
  push_cast at hcancel
  exact hcancel

lemma wrap_add_modulus (x : Int) : wrap half (x + 2 * half) = wrap half x := by
  rw [← wrap_sub_modulus, add_sub_cancel_right]

/-- An integer that is at most one modulus away is wrapped at most once. -/
lemma wrap_cases (half : ℕ) (hx : -(3 * half) ≤ x ∧ x < 3 * half) :
    Fits half x ∧ wrap half x = x ∨
    half ≤ x ∧ wrap half x = x - 2 * half ∨
    x < -half ∧ wrap half x = x + 2 * half := by
  rcases lt_or_ge x half with hhigh | habove
  · rcases lt_or_ge x (-half) with hbelow | hlow
    · right; right
      refine ⟨hbelow, ?_⟩
      rw [← wrap_add_modulus, wrap_of_fits]
      exact ⟨by omega, by omega⟩
    · left
      exact ⟨⟨hlow, hhigh⟩, wrap_of_fits ⟨hlow, hhigh⟩⟩
  · right; left
    refine ⟨habove, ?_⟩
    rw [← wrap_sub_modulus, wrap_of_fits]
    exact ⟨by omega, by omega⟩

/-- A value that leaves the range by at most `slack` does not wrap into a window that keeps this
distance from both ends of the range. -/
theorem wrap_mem_window_iff (half : ℕ) (slack low high : Int)
    (hx : -half - slack ≤ x ∧ x < half + slack) (hslack : slack ≤ half)
    (hlow : -half + slack ≤ low) (hhigh : high < half - slack) :
    (low ≤ wrap half x ∧ wrap half x ≤ high ↔ low ≤ x ∧ x ≤ high) ∧
      (low ≤ x ∧ x ≤ high → wrap half x = x) := by
  have hcases : -(3 * (half : Int)) ≤ x ∧ x < 3 * half := ⟨by omega, by omega⟩
  rcases wrap_cases half hcases with ⟨-, heq⟩ | ⟨hout, heq⟩ | ⟨hout, heq⟩
  · rw [heq]
    exact ⟨Iff.rfl, fun _ => rfl⟩
  · rw [heq]
    omega
  · rw [heq]
    omega

/-! ### Operands that fit together -/

/-- A sum fits exactly when the second operand leaves the room that the first one needs. -/
lemma fits_add_iff (ha : Fits half a) (hb : Fits half b) :
    Fits half (a + b) ↔ if 0 ≤ a then b ≤ half - 1 - a else -half - a ≤ b := by
  obtain ⟨ha1, ha2⟩ := ha
  obtain ⟨hb1, hb2⟩ := hb
  simp only [Fits]
  split_ifs
  · omega
  · omega

lemma fits_sub_iff (ha : Fits half a) (hb : Fits half b) :
    Fits half (a - b) ↔ if 0 ≤ b then b - half ≤ a else a ≤ half - 1 + b := by
  obtain ⟨ha1, ha2⟩ := ha
  obtain ⟨hb1, hb2⟩ := hb
  simp only [Fits]
  split_ifs
  · omega
  · omega

/-- A product fits exactly when the quotient of the largest result leaves room for the other
factor. -/
lemma fits_mul_iff (hhalf : 0 < half) (hb : b ≠ 0) :
    Fits half (a * b) ↔
      a.natAbs ≤ (if 0 ≤ a ↔ 0 ≤ b then half - 1 else half) / b.natAbs := by
  rw [Nat.le_div_iff_mul_le (Int.natAbs_pos.mpr hb), ← Int.natAbs_mul]
  simp only [Fits]
  split_ifs with hsign
  · have hpos : 0 ≤ a * b := by
      rcases lt_or_ge a 0 with ha | ha
      · have hneg : b < 0 := by omega
        exact (Int.mul_pos_of_neg_of_neg ha hneg).le
      · exact Int.mul_nonneg ha (hsign.mp ha)
    omega
  · have hneg : a * b ≤ 0 := by
      rcases lt_or_ge a 0 with ha | ha
      · have hpos : 0 ≤ b := by omega
        exact Int.mul_nonpos_of_nonpos_of_nonneg ha.le hpos
      · have hneg : b ≤ 0 := by omega
        exact Int.mul_nonpos_of_nonneg_of_nonpos ha hneg
    omega

/-! ### `Int32` -/

lemma fits_toInt (v : Int32) : Fits 2147483648 v.toInt :=
  ⟨v.le_toInt, v.toInt_lt⟩

lemma toInt_add (v w : Int32) : (v + w).toInt = wrap 2147483648 (v.toInt + w.toInt) := by
  rw [Int32.toInt_add]
  rfl

lemma toInt_sub (v w : Int32) : (v - w).toInt = wrap 2147483648 (v.toInt - w.toInt) := by
  rw [Int32.toInt_sub]
  rfl

end Wrapping
