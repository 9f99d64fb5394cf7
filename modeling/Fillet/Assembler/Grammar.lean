import Mathlib.Data.List.Induction
import Fillet.Assembler.Operands

/-!
# The syntax of the operands

The syntax that `parser.c` announces for registers and immediates against the one that `strtol`
gives them, which also has blanks before the number, signs before a register number and octal
constants.
-/

namespace Fillet

open CString

/-! ### The announced syntax -/

/-- `R` and decimal digits whose value is at most 31. -/
def RegisterToken (token : List Char) (n : ℕ) : Prop :=
  ∃ digits, token = 'R' :: digits ∧ IsNumeral 10 digits ∧ n = digitsValue 10 digits ∧ n ≤ 31

/-- Decimal digits, or `0x` and hexadecimal digits. -/
inductive IsMagnitude : List Char → ℕ → Prop
  | decimal {digits : List Char} (hdigits : IsNumeral 10 digits) :
    IsMagnitude digits (digitsValue 10 digits)
  | hexadecimal {x : Char} {digits : List Char} (hx : x = 'x' ∨ x = 'X')
    (hdigits : IsNumeral 16 digits) : IsMagnitude ('0' :: x :: digits) (digitsValue 16 digits)

/-- An optional sign and a magnitude. -/
def ImmediateToken (token : List Char) (v : Int) : Prop :=
  ∃ sign body s m, token = sign ++ body ∧ IsSign sign s ∧ IsMagnitude body m ∧ v = s * m

/-- Both functions accept what the announced syntax accepts, and read it as the syntax does. An
integer that is too large for the result is saturated to a `long` and cast to `int32_t`. -/
def SyntaxExact (token : List Char) : Prop :=
  (∀ value, parseRegister (some token) = .ok value ↔
    ∃ n, RegisterToken token n ∧ value = UInt32.ofNat n) ∧
  ∀ value, parseImmediate (some token) = .ok value ↔
    ∃ v, ImmediateToken token v ∧ value = Int32.ofInt (saturate v)

/-! ### The tokens outside of it -/

/-- A register number with blanks or a sign before its digits. -/
def PaddedRegister (token : List Char) : Prop :=
  ∃ spaces sign digits s, token = 'R' :: (spaces ++ (sign ++ digits)) ∧ spaces ++ sign ≠ [] ∧
    (∀ c ∈ spaces, isSpace c = true) ∧ IsSign sign s ∧ IsNumeral 10 digits ∧
    0 ≤ s * (digitsValue 10 digits : Int) ∧ s * (digitsValue 10 digits : Int) ≤ 31

/-- The octal and the decimal value of the digits are not the same `int32_t`. -/
def OctalDiffers (s : Int) (digits : List Char) : Prop :=
  ¬ (4294967296 : Int) ∣
    saturate (s * digitsValue 8 digits) - saturate (s * digitsValue 10 digits)

/-- Blanks before an immediate, and decimal digits after a `0`: they are refused when one of them
is an 8 or a 9, and read in base eight otherwise. -/
inductive MisreadImmediate : List Char → Prop
  | blanks {spaces sign body : List Char} {s : Int} {m : ℕ} (hne : spaces ≠ [])
    (hspaces : ∀ c ∈ spaces, isSpace c = true) (hsign : IsSign sign s)
    (hbody : IsConstant body m) : MisreadImmediate (spaces ++ (sign ++ body))
  | refused {sign digits : List Char} {s : Int} (hsign : IsSign sign s)
    (hdigits : IsNumeral 10 digits) (hoctal : ¬ IsNumeral 8 digits) :
    MisreadImmediate (sign ++ '0' :: digits)
  | octal {sign digits : List Char} {s : Int} (hsign : IsSign sign s)
    (hdigits : IsNumeral 8 digits) (hdiffers : OctalDiffers s digits) :
    MisreadImmediate (sign ++ '0' :: digits)

/-! ### Registers -/

/-- The register tokens that are accepted. -/
lemma parseRegister_iff {token : List Char} {value : UInt32} :
    parseRegister (some token) = .ok value ↔
      ∃ text v, token = 'R' :: text ∧ parseInteger 10 text = some (v, []) ∧ 0 ≤ v ∧ v ≤ 31 ∧
        value = UInt32.ofNat v.toNat := by
  constructor
  · intro h
    simp only [parseRegister] at h
    split_ifs at h with hhead
    rw [ne_eq, not_not] at hhead
    obtain ⟨text, rfl⟩ := List.head?_eq_some_iff.mp hhead
    rw [List.tail_cons] at h
    cases hread : parseInteger 10 text with
    | none => simp [strtol, hread] at h
    | some read =>
      obtain ⟨v, rest⟩ := read
      simp only [strtol, hread, Option.map_some] at h
      split_ifs at h with hrange
      simp only [not_or, ne_eq, not_not, not_lt] at hrange
      obtain ⟨rfl, hlow, hhigh⟩ := hrange
      have hv : saturate v = v := by
        simp only [saturate, longMin, longMax] at hlow hhigh ⊢
        omega
      rw [hv] at h hlow hhigh
      exact ⟨text, v, rfl, hread, hlow, hhigh, (Except.ok.inj h).symm⟩
  · rintro ⟨text, v, rfl, hread, hlow, hhigh, rfl⟩
    have hv : saturate v = v := by
      apply saturate_of_range
      simp only [longMin, longMax]
      omega
    simp [parseRegister, strtol, hread, hv, hlow, hhigh]

/-- Blanks and signs are no digits. -/
lemma not_isNumeral_padded {spaces sign rest : List Char} {s : Int} (hne : spaces ++ sign ≠ [])
    (hspaces : ∀ c ∈ spaces, isSpace c = true) (hsign : IsSign sign s) :
    ¬ IsNumeral 10 (spaces ++ (sign ++ rest)) := by
  rintro ⟨-, hdigits⟩
  obtain ⟨c, hc⟩ := List.exists_mem_of_ne_nil _ hne
  have hdigit : c.isDigit = true := by
    apply isDigit_of_isDigitIn le_rfl
    apply hdigits
    rw [← List.append_assoc]
    exact List.mem_append_left _ hc
  rcases List.mem_append.mp hc with hc | hc
  · exact absurd (hspaces c hc) (by simp [not_isSpace_of_isDigit hdigit])
  · rcases hsign.mem hc with rfl | rfl <;> exact absurd hdigit (by decide)

lemma registers_exact_iff (token : List Char) :
    (∀ value, parseRegister (some token) = .ok value ↔
      ∃ n, RegisterToken token n ∧ value = UInt32.ofNat n) ↔ ¬ PaddedRegister token := by
  constructor
  · rintro hexact ⟨spaces, sign, digits, s, rfl, hne, hspaces, hsign, hdigits, hlow, hhigh⟩
    have hread := parseInteger_ten_iff.mpr
      ⟨spaces, sign, digits, s, rfl, hspaces, hsign, hdigits, rfl⟩
    have haccept := parseRegister_iff.mpr ⟨_, _, rfl, hread, hlow, hhigh, rfl⟩
    obtain ⟨n, ⟨digits', hsplit, hnumeral, -⟩, -⟩ := (hexact _).mp haccept
    rw [← (List.cons.inj hsplit).2] at hnumeral
    exact not_isNumeral_padded hne hspaces hsign hnumeral
  · intro hpadded value
    rw [parseRegister_iff]
    constructor
    · rintro ⟨text, v, rfl, hread, hlow, hhigh, rfl⟩
      obtain ⟨spaces, sign, digits, s, rfl, hspaces, hsign, hdigits, rfl⟩ :=
        parseInteger_ten_iff.mp hread
      by_cases hne : spaces ++ sign = []
      · obtain ⟨rfl, rfl⟩ := List.append_eq_nil_iff.mp hne
        cases hsign
        rw [one_mul] at hhigh ⊢
        exact ⟨digitsValue 10 digits, ⟨digits, rfl, hdigits, rfl, Int.ofNat_le.mp hhigh⟩, rfl⟩
      · exact absurd ⟨spaces, sign, digits, s, rfl, hne, hspaces, hsign, hdigits, hlow, hhigh⟩
          hpadded
    · rintro ⟨n, ⟨digits, rfl, hdigits, rfl, hhigh⟩, rfl⟩
      refine ⟨digits, digitsValue 10 digits, rfl, ?_, Int.natCast_nonneg _, Int.ofNat_le.mpr hhigh,
        rfl⟩
      rw [parseInteger_ten_iff]
      exact ⟨[], [], digits, 1, rfl, by simp, IsSign.none, hdigits, (one_mul _).symm⟩

/-! ### Immediates -/

/-- The immediate tokens that are accepted. -/
lemma parseImmediate_iff {token : List Char} {value : Int32} :
    parseImmediate (some token) = .ok value ↔
      ∃ v, parseInteger 0 token = some (v, []) ∧ value = Int32.ofInt (saturate v) := by
  constructor
  · intro h
    cases hread : parseInteger 0 token with
    | none => simp [parseImmediate, strtol, hread] at h
    | some read =>
      obtain ⟨v, rest⟩ := read
      simp only [parseImmediate, strtol, hread, Option.map_some] at h
      split_ifs at h with hrest
      rw [ne_eq, not_not] at hrest
      exact ⟨v, by rw [hrest], (Except.ok.inj h).symm⟩
  · rintro ⟨v, hread, rfl⟩
    exact parseImmediate_of_integer hread

/-- Two integers are cast to the same `int32_t` when they agree in the low 32 bits. -/
lemma int32_ofInt_eq_iff (a b : Int) :
    Int32.ofInt a = Int32.ofInt b ↔ (4294967296 : Int) ∣ a - b := by
  rw [← Int32.toInt_inj, Int32.toInt_ofInt, Int32.toInt_ofInt]
  constructor
  · intro h
    have ha : ((4294967296 : ℕ) : Int) ∣ a - a.bmod 4294967296 := Int.dvd_self_sub_bmod
    have hb : ((4294967296 : ℕ) : Int) ∣ b - b.bmod 4294967296 := Int.dvd_self_sub_bmod
    have hdiff := Int.dvd_sub ha hb
    rw [show Int32.size = 4294967296 from rfl] at h
    rw [h, sub_sub_sub_cancel_right] at hdiff
    exact hdiff
  · rintro ⟨k, hk⟩
    have ha : a = b + ((4294967296 : ℕ) : Int) * k := by
      rw [← sub_eq_iff_eq_add']
      exact hk
    rw [ha]
    exact Int.add_mul_bmod_self_left ..

lemma IsMagnitude.exists_head {body : List Char} {m : ℕ} (h : IsMagnitude body m) :
    ∃ c, body.head? = some c ∧ c.isDigit = true := by
  cases h with
  | decimal hdigits => exact hdigits.exists_head le_rfl
  | hexadecimal => exact ⟨'0', rfl, rfl⟩

/-- An immediate does not start with a blank. -/
lemma not_immediateToken_of_blank {c : Char} (hc : isSpace c = true) (rest : List Char) (v : Int) :
    ¬ ImmediateToken (c :: rest) v := by
  rintro ⟨sign, body, s, m, hsplit, hsign, hbody, -⟩
  have hmem : ∀ d, (sign ++ body).head? = some d → isSpace d = true := by
    intro d hd
    rw [← hsplit] at hd
    rwa [← Option.some.inj hd]
  cases hsign with
  | plus => exact absurd (hmem '+' rfl) (by decide)
  | minus => exact absurd (hmem '-' rfl) (by decide)
  | none =>
    obtain ⟨d, hhead, hd⟩ := hbody.exists_head
    exact absurd (hmem d hhead) (by simp [not_isSpace_of_isDigit hd])

/-- Decimal digits after a `0` are a constant when they are octal ones. -/
lemma isConstant_zero_cons {digits : List Char} {m : ℕ} (hdigits : IsNumeral 10 digits)
    (h : IsConstant ('0' :: digits) m) : IsNumeral 8 digits := by
  cases h with
  | decimal hnumeral hhead => exact absurd rfl hhead
  | octal hoctal => exact ⟨hdigits.1, hoctal⟩
  | hexadecimal hx hhex =>
    have hdigit := isDigit_of_isDigitIn le_rfl (hdigits.2 _ List.mem_cons_self)
    rcases hx with rfl | rfl <;> exact absurd hdigit (by decide)

/-- The announced reading of decimal digits after a `0`. -/
lemma immediateToken_zero_cons {sign digits : List Char} {s : Int} (hsign : IsSign sign s)
    (hdigits : ∀ c ∈ digits, isDigitIn 10 c = true) :
    ImmediateToken (sign ++ '0' :: digits) (s * digitsValue 10 digits) := by
  refine ⟨sign, '0' :: digits, s, _, rfl, hsign,
    IsMagnitude.decimal ((isNumeral_zero_cons (by decide)).mpr hdigits), ?_⟩
  rw [digitsValue_zero_cons]

lemma isDigitIn_ten_of_eight {digits : List Char} (h : ∀ c ∈ digits, isDigitIn 8 c = true) :
    ∀ c ∈ digits, isDigitIn 10 c = true := by
  intro c hc
  exact isDigitIn_mono (by decide) (h c hc)

/-- Each misread token is accepted against the syntax, refused against it, or read otherwise. -/
lemma not_exact_of_misread {token : List Char} (h : MisreadImmediate token) :
    ¬ ∀ value, parseImmediate (some token) = .ok value ↔
      ∃ v, ImmediateToken token v ∧ value = Int32.ofInt (saturate v) := by
  intro hexact
  cases h with
  | @blanks spaces sign body s m hne hspaces hsign hbody =>
    have hread := parseInteger_zero_iff.mpr
      ⟨spaces, sign, body, s, m, rfl, hspaces, hsign, hbody, rfl⟩
    obtain ⟨v, htoken, -⟩ := (hexact _).mp (parseImmediate_of_integer hread)
    obtain ⟨c, rest, rfl⟩ := List.exists_cons_of_ne_nil hne
    exact not_immediateToken_of_blank (hspaces c List.mem_cons_self) _ v htoken
  | @refused sign digits s hsign hdigits hoctal =>
    have haccept := (hexact _).mpr ⟨_, immediateToken_zero_cons hsign hdigits.2, rfl⟩
    obtain ⟨v, hread, -⟩ := parseImmediate_iff.mp haccept
    have happend : parseInteger 0 ([] ++ (sign ++ '0' :: digits)) = _ :=
      parseInteger_append 0 (by simp) hsign ⟨'0', rfl, rfl⟩
    rw [List.nil_append, hread, eq_comm, Option.map_eq_some_iff] at happend
    obtain ⟨⟨m, rest⟩, hmagnitude, heq⟩ := happend
    rw [(Prod.mk.inj heq).2, readMagnitude_zero_iff] at hmagnitude
    exact hoctal (isConstant_zero_cons hdigits hmagnitude)
  | @octal sign digits s hsign hdigits hdiffers =>
    have hread := parseInteger_zero_iff.mpr
      ⟨[], sign, '0' :: digits, s, _, rfl, by simp, hsign, IsConstant.octal hdigits.2, rfl⟩
    have haccept := (hexact _).mpr
      ⟨_, immediateToken_zero_cons hsign (isDigitIn_ten_of_eight hdigits.2), rfl⟩
    have hsame := (parseImmediate_of_integer hread).symm.trans haccept
    exact hdiffers ((int32_ofInt_eq_iff _ _).mp (Except.ok.inj hsame))

section Correct

variable {token : List Char} (hcorrect : ¬ MisreadImmediate token)
include hcorrect

/-- Octal and decimal digits after a `0` give the same `int32_t`. -/
lemma octal_eq_decimal {sign digits : List Char} {s : Int} (htoken : token = sign ++ '0' :: digits)
    (hsign : IsSign sign s) (hdigits : ∀ c ∈ digits, isDigitIn 8 c = true) :
    Int32.ofInt (saturate (s * digitsValue 8 digits)) =
      Int32.ofInt (saturate (s * digitsValue 10 digits)) := by
  by_cases hnil : digits = []
  · rw [hnil]
    rfl
  · rw [int32_ofInt_eq_iff]
    by_contra hdiffers
    apply hcorrect
    rw [htoken]
    exact MisreadImmediate.octal hsign ⟨hnil, hdigits⟩ hdiffers

/-- What `strtol` reads is announced. -/
lemma announced_of_read {v : Int} (h : parseInteger 0 token = some (v, [])) :
    ∃ v', ImmediateToken token v' ∧ Int32.ofInt (saturate v) = Int32.ofInt (saturate v') := by
  obtain ⟨spaces, sign, body, s, m, htoken, hspaces, hsign, hbody, rfl⟩ :=
    parseInteger_zero_iff.mp h
  by_cases hne : spaces = []
  · rw [hne, List.nil_append] at htoken
    cases hbody with
    | decimal hdigits =>
      exact ⟨_, ⟨sign, _, s, _, htoken, hsign, IsMagnitude.decimal hdigits, rfl⟩, rfl⟩
    | hexadecimal hx hdigits =>
      exact ⟨_, ⟨sign, _, s, _, htoken, hsign, IsMagnitude.hexadecimal hx hdigits, rfl⟩, rfl⟩
    | octal hdigits =>
      have hannounced := immediateToken_zero_cons hsign (isDigitIn_ten_of_eight hdigits)
      rw [← htoken] at hannounced
      exact ⟨_, hannounced, octal_eq_decimal hcorrect htoken hsign hdigits⟩
  · rw [htoken] at hcorrect
    exact absurd (MisreadImmediate.blanks hne hspaces hsign hbody) hcorrect

/-- What is announced is read by `strtol`. -/
lemma read_of_announced {v : Int} (h : ImmediateToken token v) :
    ∃ v', parseInteger 0 token = some (v', []) ∧
      Int32.ofInt (saturate v) = Int32.ofInt (saturate v') := by
  obtain ⟨sign, body, s, m, htoken, hsign, hbody, rfl⟩ := h
  have hread : ∀ {m'}, IsConstant body m' → parseInteger 0 token = some (s * (m' : Int), []) := by
    intro m' hconstant
    rw [parseInteger_zero_iff]
    exact ⟨[], sign, body, s, m', htoken, by simp, hsign, hconstant, rfl⟩
  cases hbody with
  | hexadecimal hx hdigits => exact ⟨_, hread (IsConstant.hexadecimal hx hdigits), rfl⟩
  | decimal hdigits =>
    by_cases hhead : body.head? = some '0'
    · obtain ⟨digits, rfl⟩ := List.head?_eq_some_iff.mp hhead
      have hten := (isNumeral_zero_cons (by decide)).mp hdigits
      by_cases hoctal : ∀ c ∈ digits, isDigitIn 8 c = true
      · refine ⟨_, hread (IsConstant.octal hoctal), ?_⟩
        rw [digitsValue_zero_cons]
        exact (octal_eq_decimal hcorrect htoken hsign hoctal).symm
      · have hne : digits ≠ [] := by
          rintro rfl
          exact hoctal (by simp)
        rw [htoken] at hcorrect
        exact absurd (MisreadImmediate.refused hsign ⟨hne, hten⟩ fun h => hoctal h.2) hcorrect
    · exact ⟨_, hread (IsConstant.decimal hdigits hhead), rfl⟩

end Correct

lemma immediates_exact_iff (token : List Char) :
    (∀ value, parseImmediate (some token) = .ok value ↔
      ∃ v, ImmediateToken token v ∧ value = Int32.ofInt (saturate v)) ↔
      ¬ MisreadImmediate token := by
  constructor
  · intro hexact hmisread
    exact not_exact_of_misread hmisread hexact
  · intro hcorrect value
    rw [parseImmediate_iff]
    constructor
    · rintro ⟨v, hread, rfl⟩
      exact announced_of_read hcorrect hread
    · rintro ⟨v, htoken, rfl⟩
      exact read_of_announced hcorrect htoken

/-! ### Octal constants -/

lemma digitsValue_append (base : ℕ) (digits : List Char) (c : Char) :
    digitsValue base (digits ++ [c]) = base * digitsValue base digits + digitValue c := by
  rw [digitsValue, List.foldl_append]
  rfl

/-- The octal value of digits is smaller than the decimal one, except below 8. -/
lemma octal_value_le {digits : List Char} (hdigits : ∀ c ∈ digits, isDigitIn 8 c = true) :
    digitsValue 8 digits ≤ digitsValue 10 digits ∧
      (digitsValue 8 digits = digitsValue 10 digits ↔ digitsValue 10 digits < 8) := by
  induction digits using List.reverseRecOn with
  | nil => exact ⟨le_rfl, iff_of_true rfl (by decide)⟩
  | append_singleton digits c ih =>
    obtain ⟨hle, -⟩ := ih fun d hd => hdigits d (List.mem_append_left _ hd)
    have hc : digitValue c < 8 :=
      of_decide_eq_true (hdigits c (List.mem_append_right _ List.mem_cons_self))
    rw [digitsValue_append, digitsValue_append]
    constructor
    · omega
    · omega

/-- Below 2^32 the octal value of an immediate is another one exactly from 8 on. -/
theorem octalDiffers_iff {sign digits : List Char} {s : Int} (hsign : IsSign sign s)
    (hdigits : ∀ c ∈ digits, isDigitIn 8 c = true)
    (hsmall : digitsValue 10 digits < 4294967296) :
    OctalDiffers s digits ↔ 8 ≤ digitsValue 10 digits := by
  obtain ⟨hle, heq⟩ := octal_value_le hdigits
  have hs : s = 1 ∨ s = -1 := by
    cases hsign with
    | none => exact Or.inl rfl
    | plus => exact Or.inl rfl
    | minus => exact Or.inr rfl
  have hkeep : ∀ n : ℕ, n < 4294967296 → saturate (s * n) = s * n := by
    intro n hn
    apply saturate_of_range
    simp only [longMin, longMax]
    rcases hs with rfl | rfl <;> omega
  rw [OctalDiffers, hkeep _ (lt_of_le_of_lt hle hsmall), hkeep _ hsmall, ← not_lt, ← heq]
  rcases hs with rfl | rfl <;> omega

/-! ### Both functions -/

/-- A token is treated as the announced syntax says except for a register number with blanks or a
sign, an immediate after blanks, and an immediate with a `0` before digits that are not octal or
whose octal value is another one. -/
theorem operand_syntax_exact_iff (token : List Char) :
    SyntaxExact token ↔ ¬ PaddedRegister token ∧ ¬ MisreadImmediate token := by
  rw [SyntaxExact, registers_exact_iff, immediates_exact_iff]

/-- `010` has no separators and is read as 8. -/
theorem leading_zero_is_octal :
    (∀ c ∈ ['0', '1', '0'], delimiter c = false) ∧
      parseImmediate (some ['0', '1', '0']) = .ok 8 ∧ ¬ SyntaxExact ['0', '1', '0'] := by
  have height : parseImmediate (some ['0', '1', '0']) = .ok 8 := rfl
  refine ⟨by simp [delimiter], height, ?_⟩
  intro hexact
  have hnumeral : IsNumeral 10 ['0', '1', '0'] :=
    ⟨List.cons_ne_nil _ _, List.all_eq_true.mp rfl⟩
  have haccept := (hexact.2 _).mpr
    ⟨_, ⟨[], _, 1, _, rfl, IsSign.none, IsMagnitude.decimal hnumeral, rfl⟩, rfl⟩
  rw [height] at haccept
  exact absurd (Except.ok.inj haccept) (by decide)

end Fillet
