import Mathlib.Logic.Function.Iterate
import Mathlib.Tactic.Common

/-!
# Reaching a condition in bounded time

A machine that takes steps while it is live. `Reaches step live Q n s` says that from `s` it gets to
a state of `Q` within `n` steps, which is total correctness with a bound on the time. The rules are
those of consequence and sequence, the rule for a ranking function and the rule for a loop with an
invariant and a variant.
-/

namespace Reaching

variable {σ : Type*} {step : σ → σ} {live : σ → Bool} {Q R : σ → Prop} {n m : ℕ} {s : σ}

/-- From a state the machine gets to a state of `Q` within so many steps. -/
inductive Reaches (step : σ → σ) (live : σ → Bool) (Q : σ → Prop) : ℕ → σ → Prop
  | here {n : ℕ} {s : σ} (h : Q s) : Reaches step live Q n s
  | onward {n : ℕ} {s : σ} (hlive : live s = true) (h : Reaches step live Q n (step s)) :
      Reaches step live Q (n + 1) s

lemma Reaches.weaken (h : Reaches step live Q n s) (hnm : n ≤ m) : Reaches step live Q m s := by
  induction h generalizing m with
  | here h => exact .here h
  | onward hlive _ ih =>
    obtain ⟨m, rfl⟩ := Nat.exists_eq_add_of_le' (Nat.one_le_of_lt hnm)
    exact .onward hlive (ih (Nat.le_of_succ_le_succ hnm))

/-- The rule of sequence. -/
theorem Reaches.trans (h : Reaches step live Q n s)
    (hQ : ∀ s, Q s → Reaches step live R m s) : Reaches step live R (n + m) s := by
  induction h with
  | @here n _ h => exact (hQ _ h).weaken (Nat.le_add_left m n)
  | @onward n _ hlive _ ih =>
    rw [Nat.add_right_comm]
    exact .onward hlive ih

/-- A function that every step makes smaller bounds the time. -/
theorem reaches_of_rank {I : σ → Prop} (rank : σ → ℕ)
    (hstep : ∀ s, I s → Q s ∨ live s = true ∧ I (step s) ∧ rank (step s) < rank s) (hs : I s) :
    Reaches step live Q (rank s) s := by
  induction hrank : rank s using Nat.strongRecOn generalizing s with
  | ind r ih =>
    subst hrank
    rcases hstep s hs with hdone | ⟨hlive, hnext, hless⟩
    · exact .here hdone
    · exact (Reaches.onward hlive (ih _ hless hnext rfl)).weaken hless

/-- The rule for a loop: each turn takes at most `c` steps, and either leaves the loop or keeps its
invariant and lowers its variant. -/
theorem reaches_of_loop {I : σ → Prop} (variant : σ → ℕ) (c : ℕ)
    (hturn : ∀ s, I s →
      Reaches step live (fun s' => R s' ∨ I s' ∧ variant s' < variant s) c s) (hs : I s) :
    Reaches step live R (c * (variant s + 1)) s := by
  induction hvariant : variant s using Nat.strongRecOn generalizing s with
  | ind v ih =>
    subst hvariant
    rw [Nat.mul_succ, Nat.add_comm]
    refine (hturn s hs).trans ?_
    rintro s' (hout | ⟨hin, hless⟩)
    · exact .here hout
    · exact (ih _ hless hin rfl).weaken (Nat.mul_le_mul_left c hless)

/-- What the rules derive is true of the run. -/
theorem Reaches.run (h : Reaches step live Q n s) :
    ∃ k ≤ n, (∀ i < k, live (step^[i] s) = true) ∧ Q (step^[k] s) := by
  induction h with
  | here h => exact ⟨0, Nat.zero_le _, fun i hi => absurd hi (Nat.not_lt_zero i), h⟩
  | onward hlive _ ih =>
    obtain ⟨k, hk, hran, hQ⟩ := ih
    refine ⟨k + 1, Nat.succ_le_succ hk, ?_, hQ⟩
    intro i hi
    cases i with
    | zero => exact hlive
    | succ i => exact hran i (Nat.lt_of_succ_lt_succ hi)

end Reaching
