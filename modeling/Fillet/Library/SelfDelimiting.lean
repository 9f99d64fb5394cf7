import Mathlib.Data.List.Basic
import Mathlib.Tactic.Common

/-!
# Self-delimiting formats

A format is self-delimiting if a value can be read off the front of a text whatever follows it.
Formats of a fixed length and formats with a terminator are, and the property is kept when formats
are put one behind the other.
-/

variable {α β χ ι : Type*}

/-- The texts of a format tell where they end and what they stand for. -/
def SelfDelimiting (f : α → List χ) : Prop :=
  ∀ (a b : α) (r r' : List χ), f a ++ r = f b ++ r' → a = b ∧ r = r'

namespace SelfDelimiting

variable {f : α → List χ} {g : β → List χ}

/-- Texts of one length. -/
lemma of_length {n : ℕ} (hlength : ∀ a, (f a).length = n) (hf : Function.Injective f) :
    SelfDelimiting f := by
  intro a b r r' h
  obtain ⟨hab, hr⟩ := List.append_inj h ((hlength a).trans (hlength b).symm)
  exact ⟨hf hab, hr⟩

/-- Texts with a terminator that does not occur in them. -/
lemma of_terminator (c : χ) (hc : ∀ a, c ∉ f a) (hf : Function.Injective f) :
    SelfDelimiting fun a => f a ++ [c] := by
  intro a b r r' h
  rw [List.append_assoc, List.append_assoc, List.singleton_append, List.singleton_append] at h
  rcases List.append_eq_append_iff.mp h with ⟨d, hab, hr⟩ | ⟨d, hab, hr⟩
  · cases d with
    | nil => exact ⟨hf (by simpa using hab.symm), by simpa using hr⟩
    | cons x d =>
      obtain ⟨rfl, -⟩ := List.cons_eq_cons.mp hr
      exact absurd (hab ▸ List.mem_append_right _ List.mem_cons_self) (hc b)
  · cases d with
    | nil => exact ⟨hf (by simpa using hab), by simpa using hr.symm⟩
    | cons x d =>
      obtain ⟨rfl, -⟩ := List.cons_eq_cons.mp hr
      exact absurd (hab ▸ List.mem_append_right _ List.mem_cons_self) (hc a)

/-- A fixed text in front. -/
lemma literal (text : List χ) (h : SelfDelimiting f) : SelfDelimiting fun a => text ++ f a := by
  intro a b r r' hab
  rw [List.append_assoc, List.append_assoc] at hab
  exact h a b r r' (List.append_cancel_left hab)

/-- A text that repeats the value. -/
lemma repeated (h : SelfDelimiting f) (g : α → List χ) : SelfDelimiting fun a => f a ++ g a := by
  intro a b r r' hab
  rw [List.append_assoc, List.append_assoc] at hab
  obtain ⟨rfl, hrest⟩ := h a b _ _ hab
  exact ⟨rfl, List.append_cancel_left hrest⟩

/-- Two values. -/
lemma pair (hf : SelfDelimiting f) (hg : SelfDelimiting g) :
    SelfDelimiting fun x : α × β => f x.1 ++ g x.2 := by
  rintro ⟨a, b⟩ ⟨a', b'⟩ r r' h
  rw [List.append_assoc, List.append_assoc] at h
  obtain ⟨rfl, hrest⟩ := hf a a' _ _ h
  obtain ⟨rfl, hr⟩ := hg b b' _ _ hrest
  exact ⟨rfl, hr⟩

/-- A table: one value for each key of a list. -/
theorem table {u : ι → α → List χ} {keys : List ι}
    (h : ∀ i ∈ keys, SelfDelimiting (u i)) {v v' : ι → α} {r r' : List χ}
    (heq : (keys.flatMap fun i => u i (v i)) ++ r =
      (keys.flatMap fun i => u i (v' i)) ++ r') :
    (∀ i ∈ keys, v i = v' i) ∧ r = r' := by
  induction keys with
  | nil => exact ⟨fun i hi => absurd hi List.not_mem_nil, heq⟩
  | cons i keys ih =>
    rw [List.flatMap_cons, List.flatMap_cons, List.append_assoc, List.append_assoc] at heq
    obtain ⟨hi, hrest⟩ := h i List.mem_cons_self _ _ _ _ heq
    obtain ⟨hkeys, hr⟩ := ih (fun j hj => h j (List.mem_cons_of_mem i hj)) hrest
    exact ⟨List.forall_mem_cons.mpr ⟨hi, hkeys⟩, hr⟩

end SelfDelimiting
