import Mathlib.Tactic.Common
import Mathlib.Tactic.Linarith

/-!
# Fields of a 32-bit word

Reading a field with a shift and a mask is a quotient and a remainder; writing one with a shift and
an OR above free bits is a sum. With these rules an encoder and a decoder become linear arithmetic.
-/

namespace BitField

/-! ### Reading -/

/-- A mask of `k` low bits. -/
lemma toNat_and_mask (w m : UInt32) {k : ℕ} (hm : m.toNat = 2 ^ k - 1) :
    (w &&& m).toNat = w.toNat % 2 ^ k := by
  rw [UInt32.toNat_and, hm, Nat.and_two_pow_sub_one_eq_mod]

lemma toNat_shiftRight (w s : UInt32) (hs : s.toNat < 32) :
    (w >>> s).toNat = w.toNat / 2 ^ s.toNat := by
  rw [UInt32.toNat_shiftRight, Nat.mod_eq_of_lt hs, Nat.shiftRight_eq_div_pow]

/-- The field of `k` bits that starts at bit `s`. -/
lemma toNat_field (w s m : UInt32) {k : ℕ} (hs : s.toNat < 32) (hm : m.toNat = 2 ^ k - 1) :
    ((w >>> s) &&& m).toNat = w.toNat / 2 ^ s.toNat % 2 ^ k := by
  rw [toNat_and_mask _ _ hm, toNat_shiftRight _ _ hs]

/-! ### Writing -/

lemma toNat_shiftLeft (x s : UInt32) {k : ℕ} (hx : x.toNat < 2 ^ k) (hs : s.toNat + k ≤ 32)
    (hs' : s.toNat < 32) : (x <<< s).toNat = x.toNat * 2 ^ s.toNat := by
  have hlt : x.toNat * 2 ^ s.toNat < 2 ^ 32 := by
    calc x.toNat * 2 ^ s.toNat
        < 2 ^ k * 2 ^ s.toNat := Nat.mul_lt_mul_of_pos_right hx (Nat.two_pow_pos _)
      _ = 2 ^ (s.toNat + k) := by rw [← Nat.pow_add, Nat.add_comm]
      _ ≤ 2 ^ 32 := Nat.pow_le_pow_right (by decide) hs
  rw [UInt32.toNat_shiftLeft, Nat.mod_eq_of_lt hs', Nat.shiftLeft_eq, Nat.mod_eq_of_lt hlt]

/-- An OR with a word that only has bits below those of `w`. -/
lemma toNat_or_low (w x : UInt32) {k : ℕ} (hw : 2 ^ k ∣ w.toNat) (hx : x.toNat < 2 ^ k) :
    (w ||| x).toNat = w.toNat + x.toNat := by
  obtain ⟨q, hq⟩ := hw
  rw [UInt32.toNat_or, hq, Nat.two_pow_add_eq_or_of_lt hx]

/-- A field of `k` bits written at bit `s`, above which `w` has all its bits. -/
lemma toNat_or_shiftLeft (w x s : UInt32) {k : ℕ} (hw : 2 ^ (s.toNat + k) ∣ w.toNat)
    (hx : x.toNat < 2 ^ k) (hs : s.toNat + k ≤ 32) (hs' : s.toNat < 32) :
    (w ||| (x <<< s)).toNat = w.toNat + x.toNat * 2 ^ s.toNat := by
  have hshift := toNat_shiftLeft x s hx hs hs'
  have hlt : (x <<< s).toNat < 2 ^ (s.toNat + k) := by
    rw [hshift, Nat.pow_add, Nat.mul_comm]
    exact Nat.mul_lt_mul_of_pos_left hx (Nat.two_pow_pos _)
  rw [toNat_or_low w _ hw hlt, hshift]

/-! ### Signed words -/

/-- The two's complement reading of a word. -/
lemma toInt_toInt32 (w : UInt32) :
    w.toInt32.toInt = if w.toNat < 2 ^ 31 then (w.toNat : Int) else w.toNat - 2 ^ 32 := by
  have hlt := w.toNat_lt
  show w.toBitVec.toInt = _
  rw [BitVec.toInt_eq_toNat_cond, UInt32.toNat_toBitVec]
  split_ifs <;> omega

/-- A signed word and its two's complement are congruent. -/
lemma toNat_toUInt32 (v : Int32) : (v.toUInt32.toNat : Int) = v.toInt % 2 ^ 32 := by
  have hle := v.le_toInt
  have hlt := v.toInt_lt
  have hround := toInt_toInt32 v.toUInt32
  rw [Int32.toInt32_toUInt32] at hround
  have hword := v.toUInt32.toNat_lt
  split_ifs at hround <;> omega

end BitField
