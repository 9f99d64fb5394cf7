import Mathlib.Logic.Function.Iterate
import Mathlib.Tactic.Common

/-!
# Guarded loops with a bound on the number of rounds

`boundedWhile guard body n s` runs `body` while `guard` holds, at most `n` times. The rules are the
invariant rule, the exit rule, the rule for two loops in step, a forward simulation in which a
round either stutters or performs one step of an abstract machine, and such a simulation with a
deadline, which bounds the rounds the loop needs. `boundedLog` is what the rounds emit, with its own
invariant rule and with a forward simulation in which the abstract machine keeps a log.
-/

namespace BoundedLoop

variable {α β : Type*} {guard : α → Bool} {body : α → α}

/-- `while (guard && rounds < n) body`. -/
def boundedWhile (guard : α → Bool) (body : α → α) : ℕ → α → α
  | 0, s => s
  | n + 1, s => if guard s then boundedWhile guard body n (body s) else s

@[simp] lemma boundedWhile_zero (s : α) : boundedWhile guard body 0 s = s := rfl

lemma boundedWhile_succ_of_guard {s : α} (n : ℕ) (h : guard s = true) :
    boundedWhile guard body (n + 1) s = boundedWhile guard body n (body s) := by
  rw [boundedWhile, if_pos h]

lemma boundedWhile_of_not_guard {s : α} (n : ℕ) (h : guard s = false) :
    boundedWhile guard body n s = s := by
  cases n with
  | zero => rfl
  | succ n => simp [boundedWhile, h]

/-- The last round can be split off instead of the first. -/
lemma boundedWhile_succ' (n : ℕ) (s : α) :
    boundedWhile guard body (n + 1) s =
      if guard (boundedWhile guard body n s) then body (boundedWhile guard body n s)
      else boundedWhile guard body n s := by
  induction n generalizing s with
  | zero => rfl
  | succ n ih =>
    by_cases h : guard s = true
    · rw [boundedWhile_succ_of_guard _ h, ih, boundedWhile_succ_of_guard _ h]
    · simp only [Bool.not_eq_true] at h
      simp [boundedWhile_of_not_guard _ h, h]

lemma boundedWhile_add (m n : ℕ) (s : α) :
    boundedWhile guard body (m + n) s =
      boundedWhile guard body n (boundedWhile guard body m s) := by
  induction m generalizing s with
  | zero => simp
  | succ m ih =>
    by_cases h : guard s = true
    · rw [Nat.add_right_comm, boundedWhile_succ_of_guard _ h, ih, boundedWhile_succ_of_guard _ h]
    · simp only [Bool.not_eq_true] at h
      simp [boundedWhile_of_not_guard _ h]

/-- The invariant rule. -/
theorem boundedWhile_invariant {P : α → Prop}
    (hbody : ∀ s, P s → guard s = true → P (body s)) (n : ℕ) {s : α} (hs : P s) :
    P (boundedWhile guard body n s) := by
  induction n generalizing s with
  | zero => exact hs
  | succ n ih =>
    by_cases h : guard s = true
    · rw [boundedWhile_succ_of_guard _ h]
      exact ih (hbody s hs h)
    · simp only [Bool.not_eq_true] at h
      rwa [boundedWhile_of_not_guard _ h]

/-- The exit rule, for a loop that counts its rounds: it ended because the guard failed, or all its
rounds were used up. -/
theorem boundedWhile_exit (count : α → ℕ) (hcount : ∀ s, count (body s) = count s + 1) (n : ℕ)
    (s : α) :
    guard (boundedWhile guard body n s) = false ∨
      count (boundedWhile guard body n s) = count s + n := by
  induction n with
  | zero => exact Or.inr rfl
  | succ n ih =>
    rw [boundedWhile_succ']
    rcases ih with hexit | hall
    · exact Or.inl (by simp [hexit])
    · by_cases h : guard (boundedWhile guard body n s) = true
      · exact Or.inr (by rw [if_pos h, hcount, hall, Nat.add_assoc])
      · exact Or.inl (by simp [h])

lemma boundedWhile_count_le (count : α → ℕ) (hcount : ∀ s, count (body s) = count s + 1)
    (n : ℕ) (s : α) : count (boundedWhile guard body n s) ≤ count s + n := by
  induction n with
  | zero => exact Nat.le_refl _
  | succ n ih =>
    rw [boundedWhile_succ']
    split_ifs
    · rw [hcount]
      exact Nat.succ_le_succ ih
    · exact Nat.le_succ_of_le ih

/-- Once the guard has failed, further rounds change nothing. -/
lemma boundedWhile_of_exit {m n : ℕ} {s : α} (hmn : m ≤ n)
    (hexit : guard (boundedWhile guard body m s) = false) :
    boundedWhile guard body n s = boundedWhile guard body m s := by
  obtain ⟨d, rfl⟩ := Nat.exists_eq_add_of_le hmn
  rw [boundedWhile_add, boundedWhile_of_not_guard d hexit]

/-- Two loops in step: a relation that makes the guards agree and that the bodies keep. -/
theorem boundedWhile_related {guard' : β → Bool} {body' : β → β} {R : α → β → Prop}
    (hguard : ∀ s t, R s t → guard' t = guard s)
    (hbody : ∀ s t, R s t → guard s = true → R (body s) (body' t)) (n : ℕ) {s : α} {t : β}
    (h : R s t) : R (boundedWhile guard body n s) (boundedWhile guard' body' n t) := by
  induction n generalizing s t with
  | zero => exact h
  | succ n ih =>
    have hsame := hguard s t h
    cases hs : guard s with
    | false =>
      rw [hs] at hsame
      rwa [boundedWhile_of_not_guard _ hs, boundedWhile_of_not_guard _ hsame]
    | true =>
      rw [hs] at hsame
      rw [boundedWhile_succ_of_guard _ hs, boundedWhile_succ_of_guard _ hsame]
      exact ih (hbody s t h hs)

/-- Forward simulation with stuttering: on states satisfying `inv`, a round of the loop keeps the
abstraction or takes it one step of `next` further. -/
structure StutteringSimulation (inv : α → Prop) (guard : α → Bool) (body : α → α) (next : β → β)
    (abs : α → β) : Prop where
  preserves : ∀ s, inv s → guard s = true → inv (body s)
  matched : ∀ s, inv s → guard s = true → abs (body s) = abs s ∨ abs (body s) = next (abs s)

/-- A run of at most `n` rounds performs at most `n` abstract steps. -/
theorem StutteringSimulation.run {inv : α → Prop} {next : β → β} {abs : α → β}
    (sim : StutteringSimulation inv guard body next abs) (n : ℕ) {s : α} (hs : inv s) :
    ∃ k ≤ n, abs (boundedWhile guard body n s) = next^[k] (abs s) := by
  induction n with
  | zero => exact ⟨0, Nat.le_refl 0, rfl⟩
  | succ n ih =>
    obtain ⟨k, hk, habs⟩ := ih
    have hinv : inv (boundedWhile guard body n s) := boundedWhile_invariant sim.preserves n hs
    rw [boundedWhile_succ']
    by_cases h : guard (boundedWhile guard body n s) = true
    · rw [if_pos h]
      rcases sim.matched _ hinv h with hstutter | hstep
      · exact ⟨k, Nat.le_succ_of_le hk, hstutter.trans habs⟩
      · refine ⟨k + 1, Nat.succ_le_succ hk, ?_⟩
        rw [hstep, habs, Function.iterate_succ_apply']
    · rw [if_neg h]
      exact ⟨k, Nat.le_succ_of_le hk, habs⟩

/-- A stuttering simulation with a deadline for the number of rounds: only a step of the abstract
machine moves the deadline, by at most `cost`, and the loop goes on only before the deadline. The
abstract machine takes steps while it is `live`. -/
structure TimedSimulation (inv : α → Prop) (guard : α → Bool) (body : α → α) (live : β → Bool)
    (next : β → β) (abs : α → β) (count deadline : α → ℕ) (cost : ℕ) : Prop where
  preserves : ∀ s, inv s → guard s = true → inv (body s)
  matched : ∀ s, inv s → guard s = true →
    abs (body s) = abs s ∧ deadline (body s) ≤ deadline s ∨
      live (abs s) = true ∧ abs (body s) = next (abs s) ∧ deadline (body s) ≤ deadline s + cost
  early : ∀ s, inv s → guard s = true → count s < deadline s
  counts : ∀ s, count (body s) = count s + 1

section Timed

variable {inv : α → Prop} {live : β → Bool} {next : β → β} {abs : α → β} {count deadline : α → ℕ}
  {cost : ℕ}

/-- After `k` live steps the deadline has moved by at most `k` times the cost. -/
theorem TimedSimulation.run
    (sim : TimedSimulation inv guard body live next abs count deadline cost) (n : ℕ) {s : α}
    (hs : inv s) :
    ∃ k ≤ n, abs (boundedWhile guard body n s) = next^[k] (abs s) ∧
      (∀ i < k, live (next^[i] (abs s)) = true) ∧
      deadline (boundedWhile guard body n s) ≤ deadline s + cost * k := by
  induction n with
  | zero => exact ⟨0, Nat.le_refl 0, rfl, fun i hi => absurd hi (Nat.not_lt_zero i), Nat.le_refl _⟩
  | succ n ih =>
    obtain ⟨k, hk, habs, hlive, hdeadline⟩ := ih
    have hinv : inv (boundedWhile guard body n s) := boundedWhile_invariant sim.preserves n hs
    rw [boundedWhile_succ']
    by_cases h : guard (boundedWhile guard body n s) = true
    · rw [if_pos h]
      rcases sim.matched _ hinv h with ⟨hstutter, hkept⟩ | ⟨hnow, hstep, hmoved⟩
      · exact ⟨k, Nat.le_succ_of_le hk, hstutter.trans habs, hlive, Nat.le_trans hkept hdeadline⟩
      · refine ⟨k + 1, Nat.succ_le_succ hk, ?_, ?_, ?_⟩
        · rw [hstep, habs, Function.iterate_succ_apply']
        · intro i hi
          rcases Nat.lt_succ_iff_lt_or_eq.mp hi with hlt | rfl
          · exact hlive i hlt
          · rwa [← habs]
        · calc deadline (body (boundedWhile guard body n s))
              ≤ deadline (boundedWhile guard body n s) + cost := hmoved
            _ ≤ deadline s + cost * k + cost := Nat.add_le_add_right hdeadline cost
            _ = deadline s + cost * (k + 1) := by rw [Nat.mul_succ, Nat.add_assoc]
    · rw [if_neg h]
      exact ⟨k, Nat.le_succ_of_le hk, habs, hlive, hdeadline⟩

/-- If the abstract machine is not live any more after `k` steps, the loop has ended by its last
deadline. -/
theorem TimedSimulation.exits
    (sim : TimedSimulation inv guard body live next abs count deadline cost) {n k : ℕ} {s : α}
    (hs : inv s) (hdead : live (next^[k] (abs s)) = false)
    (hn : deadline s + cost * k ≤ count s + n) : guard (boundedWhile guard body n s) = false := by
  obtain ⟨j, -, -, hlive, hdeadline⟩ := sim.run n hs
  rcases boundedWhile_exit count sim.counts n s with hexit | hcount
  · exact hexit
  · by_contra hguard
    have hearly := sim.early _ (boundedWhile_invariant sim.preserves n hs) (by simpa using hguard)
    have hjk : j ≤ k := by
      by_contra hlt
      exact absurd (hlive k (Nat.not_le.mp hlt)) (by simp [hdead])
    have hcost : cost * j ≤ cost * k := Nat.mul_le_mul_left cost hjk
    omega

end Timed

/-! ### Output -/

section Log

variable {γ : Type*} {emit : α → List γ}

/-- What `while (guard && rounds < n) { emit; body }` emits. -/
def boundedLog (guard : α → Bool) (body : α → α) (emit : α → List γ) : ℕ → α → List γ
  | 0, _ => []
  | n + 1, s => if guard s then emit s ++ boundedLog guard body emit n (body s) else []

lemma boundedLog_of_not_guard {s : α} (n : ℕ) (h : guard s = false) :
    boundedLog guard body emit n s = [] := by
  cases n with
  | zero => rfl
  | succ n => simp [boundedLog, h]

lemma boundedLog_succ_of_guard {s : α} (n : ℕ) (h : guard s = true) :
    boundedLog guard body emit (n + 1) s = emit s ++ boundedLog guard body emit n (body s) := by
  rw [boundedLog, if_pos h]

/-- The invariant rule for output: the invariant may speak of the state and of what was emitted so
far. -/
theorem boundedLog_invariant {P : List γ → α → Prop}
    (hbody : ∀ log s, P log s → guard s = true → P (log ++ emit s) (body s)) (n : ℕ)
    {log : List γ} {s : α} (hs : P log s) :
    P (log ++ boundedLog guard body emit n s) (boundedWhile guard body n s) := by
  induction n generalizing log s with
  | zero =>
    rw [boundedLog, List.append_nil]
    exact hs
  | succ n ih =>
    by_cases h : guard s = true
    · rw [boundedLog_succ_of_guard _ h, boundedWhile_succ_of_guard _ h, ← List.append_assoc]
      exact ih (hbody log s hs h)
    · simp only [Bool.not_eq_true] at h
      rwa [boundedLog_of_not_guard _ h, boundedWhile_of_not_guard _ h, List.append_nil]

/-- What holds of the output of every round holds of the whole output. -/
theorem forall_mem_boundedLog {P : α → Prop} {Q : γ → Prop}
    (hbody : ∀ s, P s → guard s = true → P (body s))
    (hemit : ∀ s, P s → guard s = true → ∀ x ∈ emit s, Q x) (n : ℕ) {s : α} (hs : P s) :
    ∀ x ∈ boundedLog guard body emit n s, Q x := by
  have hboth : P (boundedWhile guard body n s) ∧
      ∀ x ∈ [] ++ boundedLog guard body emit n s, Q x := by
    refine boundedLog_invariant (P := fun log s => P s ∧ ∀ x ∈ log, Q x) ?_ n ⟨hs, ?_⟩
    · rintro log s ⟨hinv, hlog⟩ h
      exact ⟨hbody s hinv h, List.forall_mem_append.mpr ⟨hlog, hemit s hinv h⟩⟩
    · exact fun x hx => absurd hx List.not_mem_nil
  exact hboth.2

/-- A function that is compatible with concatenation may be applied round by round. -/
lemma image_boundedLog {δ : Type*} {f : List γ → List δ} (hnil : f [] = [])
    (happend : ∀ log log', f (log ++ log') = f log ++ f log') (n : ℕ) (s : α) :
    f (boundedLog guard body emit n s) = boundedLog guard body (fun s => f (emit s)) n s := by
  induction n generalizing s with
  | zero => exact hnil
  | succ n ih =>
    simp only [boundedLog]
    split_ifs
    · rw [happend, ih]
    · exact hnil

/-- The output of a loop that counts its rounds, round by round. -/
lemma boundedLog_eq_flatMap (count : α → ℕ) (hcount : ∀ s, count (body s) = count s + 1) (n : ℕ)
    (s : α) : boundedLog guard body emit n s =
      (List.range (count (boundedWhile guard body n s) - count s)).flatMap
        fun i => emit (boundedWhile guard body i s) := by
  induction n generalizing s with
  | zero =>
    rw [boundedWhile, Nat.sub_self]
    rfl
  | succ n ih =>
    cases hs : guard s with
    | false =>
      rw [boundedLog_of_not_guard _ hs, boundedWhile_of_not_guard _ hs, Nat.sub_self]
      rfl
    | true =>
      have hgrows : count (body s) ≤ count (boundedWhile guard body n (body s)) :=
        boundedWhile_invariant (P := fun s' => count (body s) ≤ count s')
          (fun s' hle _ => Nat.le_trans hle (by rw [hcount s']; exact Nat.le_succ _)) n
          (Nat.le_refl _)
      obtain ⟨m, hm⟩ := Nat.exists_eq_add_of_le hgrows
      have hrounds : count (boundedWhile guard body n (body s)) - count s = m + 1 := by
        rw [hm, hcount]
        omega
      have hround : ∀ i, boundedWhile guard body (i + 1) s = boundedWhile guard body i (body s) :=
        fun i => boundedWhile_succ_of_guard i hs
      rw [boundedLog_succ_of_guard _ hs, hround, hrounds, List.range_succ_eq_map,
        List.flatMap_cons, List.flatMap_map, ih, hm, Nat.add_sub_cancel_left]
      simp only [Nat.succ_eq_add_one, hround]
      rfl

/-- Two loops in step that emit the same. -/
theorem boundedLog_related {guard' : β → Bool} {body' : β → β} {emit' : β → List γ}
    {R : α → β → Prop} (hguard : ∀ s t, R s t → guard' t = guard s)
    (hbody : ∀ s t, R s t → guard s = true → R (body s) (body' t))
    (hemit : ∀ s t, R s t → guard s = true → emit' t = emit s) (n : ℕ) {s : α} {t : β}
    (h : R s t) : boundedLog guard' body' emit' n t = boundedLog guard body emit n s := by
  induction n generalizing s t with
  | zero => rfl
  | succ n ih =>
    have hsame := hguard s t h
    cases hs : guard s with
    | false =>
      rw [hs] at hsame
      rw [boundedLog_of_not_guard _ hs, boundedLog_of_not_guard _ hsame]
    | true =>
      rw [hs] at hsame
      rw [boundedLog_succ_of_guard _ hs, boundedLog_succ_of_guard _ hsame, hemit s t h hs,
        ih (hbody s t h hs)]

/-! A log with an entry for each step. -/

lemma log_of_silent {entry : ℕ → List γ} {j k : ℕ} (hsilent : ∀ i, k ≤ i → entry i = [])
    (hkj : k ≤ j) : (List.range j).flatMap entry = (List.range k).flatMap entry := by
  induction hkj with
  | refl => rfl
  | step hle ih =>
    rw [List.range_succ, List.flatMap_append, ih, List.flatMap_singleton, hsilent _ hle,
      List.append_nil]

/-- Forward simulation with output, along a path of the abstract machine: what a round emits and
what is pending behind it is what was pending before it and, if the round completes an abstract
step, the entry of that step. -/
structure PrintingSimulation (inv : α → Prop) (guard : α → Bool) (body : α → α)
    (emit : α → List γ) (abs : α → β) (path : ℕ → β) (pending : α → List γ)
    (entry : ℕ → List γ) : Prop where
  preserves : ∀ s, inv s → guard s = true → inv (body s)
  matched : ∀ s k, inv s → guard s = true → abs s = path k →
    abs (body s) = path k ∧ emit s ++ pending (body s) = pending s ∨
      abs (body s) = path (k + 1) ∧ emit s ++ pending (body s) = pending s ++ entry k

/-- What a run emits and what is pending at its end is the log of the abstract steps it has made. -/
theorem PrintingSimulation.run {inv : α → Prop} {abs : α → β} {path : ℕ → β}
    {pending : α → List γ} {entry : ℕ → List γ}
    (sim : PrintingSimulation inv guard body emit abs path pending entry) (n : ℕ) {s : α}
    (hs : inv s) (hpath : abs s = path 0) :
    ∃ k, inv (boundedWhile guard body n s) ∧ abs (boundedWhile guard body n s) = path k ∧
      boundedLog guard body emit n s ++ pending (boundedWhile guard body n s) =
        pending s ++ (List.range k).flatMap entry := by
  let reached := fun log s' => ∃ k, inv s' ∧ abs s' = path k ∧
    log ++ pending s' = pending s ++ (List.range k).flatMap entry
  have hstart : reached [] s := ⟨0, hs, hpath, by simp⟩
  refine boundedLog_invariant (P := reached) ?_ n hstart
  rintro log s' ⟨k, hinv, habs, hlog⟩ hguard
  rcases sim.matched s' k hinv hguard habs with ⟨hkept, hemit⟩ | ⟨hstep, hemit⟩
  · refine ⟨k, sim.preserves s' hinv hguard, hkept, ?_⟩
    rw [List.append_assoc, hemit, hlog]
  · refine ⟨k + 1, sim.preserves s' hinv hguard, hstep, ?_⟩
    rw [List.append_assoc, hemit, ← List.append_assoc, hlog, List.range_succ,
      List.flatMap_append, List.flatMap_singleton, List.append_assoc]

end Log

end BoundedLoop
