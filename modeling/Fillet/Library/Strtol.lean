import Mathlib.Algebra.Group.Nat.Defs
import Mathlib.Data.List.Basic
import Mathlib.Tactic.Common
import Fillet.Library.CString

/-!
# Numbers in C text

`strtol` for a 64-bit `long` and the `%d` conversion of `printf`. `parseInteger` is `strtol` before
saturation: the integer that the text denotes, whatever its size.
-/

namespace CString

/-! ### `strtol` -/

/-- The value of a digit or letter, 36 for any other character. -/
def digitValue (c : Char) : ℕ :=
  if '0' ≤ c ∧ c ≤ '9' then c.toNat - 48
  else if 'a' ≤ c ∧ c ≤ 'z' then c.toNat - 87
  else if 'A' ≤ c ∧ c ≤ 'Z' then c.toNat - 55
  else 36

def isDigitIn (base : ℕ) (c : Char) : Bool :=
  digitValue c < base

/-- The value of a string of digits. -/
def digitsValue (base : ℕ) (digits : List Char) : ℕ :=
  digits.foldl (fun value c => base * value + digitValue c) 0

/-- The optional sign. -/
def readSign (text : List Char) : Int × List Char :=
  match text with
  | '-' :: text => (-1, text)
  | '+' :: text => (1, text)
  | text => (1, text)

/-- The base that base 0 stands for, and the prefix of base 16. `0x` is only a prefix when a
hexadecimal digit follows it. -/
def readBase (base : ℕ) (text : List Char) : ℕ × List Char :=
  match text with
  | '0' :: x :: d :: rest =>
    if (base = 0 ∨ base = 16) ∧ (x = 'x' ∨ x = 'X') ∧ isDigitIn 16 d = true then (16, d :: rest)
    else (if base = 0 then 8 else base, text)
  | '0' :: _ => (if base = 0 then 8 else base, text)
  | _ => (if base = 0 then 10 else base, text)

/-- The integer at the start of a text and the text after it; `none` when there are no digits. -/
def parseInteger (base : ℕ) (text : List Char) : Option (Int × List Char) :=
  let (sign, text) := readSign (text.dropWhile isSpace)
  let (base, text) := readBase base text
  let digits := text.takeWhile (isDigitIn base)
  if digits = [] then none
  else some (sign * digitsValue base digits, text.dropWhile (isDigitIn base))

def longMin : Int := -9223372036854775808
def longMax : Int := 9223372036854775807

/-- Saturation at the ends of `long`. -/
def saturate (value : Int) : Int :=
  max longMin (min longMax value)

/-- `strtol`; `none` stands for `endptr == text`. -/
def strtol (text : List Char) (base : ℕ) : Option (Int × List Char) :=
  (parseInteger base text).map fun (value, rest) => (saturate value, rest)

lemma saturate_of_range {value : Int} (h : longMin ≤ value ∧ value ≤ longMax) :
    saturate value = value := by
  simp only [saturate]
  omega

lemma saturate_of_lt {value : Int} (h : value < longMin) : saturate value = longMin := by
  have hends : longMin ≤ longMax := by decide
  simp only [saturate]
  omega

lemma saturate_of_gt {value : Int} (h : longMax < value) : saturate value = longMax := by
  have hends : longMin ≤ longMax := by decide
  simp only [saturate]
  omega

/-! ### `%d` -/

/-- The `%d` conversion. -/
def decimal (value : Int) : List Char :=
  if value < 0 then '-' :: Nat.toDigits 10 value.natAbs else Nat.toDigits 10 value.natAbs

lemma digitValue_of_isDigit {c : Char} (h : c.isDigit = true) :
    digitValue c = c.toNat - 48 ∧ digitValue c < 10 := by
  obtain ⟨hlow, hhigh⟩ := Char.isDigit_iff_toNat.mp h
  have hrange : '0' ≤ c ∧ c ≤ '9' :=
    ⟨UInt32.le_iff_toNat_le.mpr hlow, UInt32.le_iff_toNat_le.mpr hhigh⟩
  have hvalue : digitValue c = c.toNat - 48 := if_pos hrange
  have hnine : c.toNat ≤ 57 := hhigh
  exact ⟨hvalue, by omega⟩

lemma not_isSpace_of_isDigit {c : Char} (h : c.isDigit = true) : isSpace c = false := by
  obtain ⟨hlow, hhigh⟩ := Char.isDigit_iff_toNat.mp h
  have hblank : c ≠ ' ' := by
    rintro rfl
    exact absurd hlow (by decide)
  have htab : ¬ c ≤ '\r' := by
    intro hle
    exact absurd (hlow.trans (UInt32.le_iff_toNat_le.mp hle)) (by decide)
  simp [isSpace, hblank, htab]

/-- The digits of a number: the first is not `0` unless it is the only one. -/
lemma toDigits_head {n : ℕ} (hn : 0 < n) : (Nat.toDigits 10 n).head? ≠ some '0' := by
  induction n using Nat.strong_induction_on with
  | _ n ih =>
    rw [Nat.toDigits_eq_if (by decide)]
    split_ifs with hten
    · simp [hn.ne']
    · rw [List.head?_append_of_ne_nil _ Nat.toDigits_ne_nil]
      exact ih (n / 10) (by omega) (by omega)

lemma isDigit_of_mem_toDigits {n : ℕ} {c : Char} (h : c ∈ Nat.toDigits 10 n) :
    c.isDigit = true :=
  Nat.isDigit_of_mem_toDigits (by decide) (by decide) h

lemma digitsValue_toDigits (n : ℕ) : digitsValue 10 (Nat.toDigits 10 n) = n := by
  have hfold : ∀ (digits : List Char) (value : ℕ), (∀ c ∈ digits, c.isDigit = true) →
      digits.foldl (fun value c => 10 * value + digitValue c) value =
        Nat.ofDigitChars 10 digits value := by
    intro digits
    induction digits with
    | nil => intro value _; rfl
    | cons c digits ih =>
      intro value hdigits
      rw [List.foldl_cons, Nat.ofDigitChars_cons,
        ih _ fun d hd => hdigits d (List.mem_cons_of_mem _ hd),
        (digitValue_of_isDigit (hdigits c List.mem_cons_self)).1]
      rfl
  rw [digitsValue, hfold _ _ fun c => isDigit_of_mem_toDigits, Nat.ofDigitChars_ten_toDigits]

/-- Decimal digits are read in base 10, or in base 8 when they are the single digit 0. -/
lemma readBase_toDigits {base : ℕ} (hbase : base = 0 ∨ base = 10) (n : ℕ) :
    readBase base (Nat.toDigits 10 n) =
      (if base = 0 ∧ n = 0 then 8 else 10, Nat.toDigits 10 n) := by
  rcases Nat.eq_zero_or_pos n with rfl | hn
  · rcases hbase with rfl | rfl <;> rfl
  · have hhead := toDigits_head hn
    obtain ⟨c, rest, hdigits⟩ := List.exists_cons_of_ne_nil (Nat.toDigits_ne_nil (n := n) (b := 10))
    rw [hdigits] at hhead ⊢
    have hc : c ≠ '0' := fun h => hhead (by rw [h]; rfl)
    rcases hbase with rfl | rfl <;> simp [readBase, hc, hn.ne']

lemma readSign_decimal (value : Int) :
    readSign ((decimal value).dropWhile isSpace) =
      (if value < 0 then -1 else 1, Nat.toDigits 10 value.natAbs) := by
  obtain ⟨c, rest, hdigits⟩ :=
    List.exists_cons_of_ne_nil (Nat.toDigits_ne_nil (n := value.natAbs) (b := 10))
  have hc : c.isDigit = true := isDigit_of_mem_toDigits (n := value.natAbs) (by simp [hdigits])
  simp only [decimal]
  split_ifs
  · rfl
  · have hminus : c ≠ '-' := by
      rintro rfl
      exact absurd hc (by decide)
    have hplus : c ≠ '+' := by
      rintro rfl
      exact absurd hc (by decide)
    rw [hdigits, List.dropWhile_cons_of_neg (by simp [not_isSpace_of_isDigit hc])]
    simp [readSign, hminus, hplus]

/-- Reading a printed number gives the number back, in the bases 0 and 10. -/
theorem parseInteger_decimal {base : ℕ} (hbase : base = 0 ∨ base = 10) (value : Int) :
    parseInteger base (decimal value) = some (value, []) := by
  have hall : ∀ c ∈ Nat.toDigits 10 value.natAbs,
      isDigitIn (if base = 0 ∧ value.natAbs = 0 then 8 else 10) c = true := by
    intro c hc
    split_ifs with hzero
    · rw [hzero.2, Nat.toDigits_zero, List.mem_singleton] at hc
      rw [hc]
      rfl
    · exact decide_eq_true (digitValue_of_isDigit (isDigit_of_mem_toDigits hc)).2
  have hvalue : digitsValue (if base = 0 ∧ value.natAbs = 0 then 8 else 10)
      (Nat.toDigits 10 value.natAbs) = value.natAbs := by
    split_ifs with hzero
    · rw [hzero.2]
      rfl
    · exact digitsValue_toDigits _
  simp only [parseInteger, readSign_decimal, readBase_toDigits hbase,
    List.takeWhile_eq_self_iff.mpr hall, List.dropWhile_eq_nil_iff.mpr hall, hvalue,
    if_neg Nat.toDigits_ne_nil]
  congr 2
  split_ifs <;> omega

/-- The characters of a printed number. -/
lemma mem_decimal {value : Int} {c : Char} (h : c ∈ decimal value) :
    c = '-' ∨ c.isDigit = true := by
  simp only [decimal] at h
  split_ifs at h
  · rcases List.mem_cons.mp h with rfl | h
    · exact Or.inl rfl
    · exact Or.inr (isDigit_of_mem_toDigits h)
  · exact Or.inr (isDigit_of_mem_toDigits h)

lemma decimal_ne_nil (value : Int) : decimal value ≠ [] := by
  simp only [decimal]
  split_ifs
  · exact List.cons_ne_nil _ _
  · exact Nat.toDigits_ne_nil

lemma length_decimal (value : Int) {k : ℕ} (hk : 0 < k) (h : value.natAbs < 10 ^ k) :
    (decimal value).length ≤ k + 1 := by
  have hlength := (Nat.length_toDigits_le_iff (b := 10) (by decide) hk).mpr h
  simp only [decimal]
  split_ifs
  · exact Nat.succ_le_succ hlength
  · exact hlength.trans (Nat.le_succ k)

/-! ### The grammar of `strtol` -/

/-- The optional sign and its value. -/
inductive IsSign : List Char → Int → Prop
  | none : IsSign [] 1
  | plus : IsSign ['+'] 1
  | minus : IsSign ['-'] (-1)

/-- One or more digits of a base. -/
def IsNumeral (base : ℕ) (digits : List Char) : Prop :=
  digits ≠ [] ∧ ∀ c ∈ digits, isDigitIn base c = true

/-- The constants of C and their values: base 0 recognizes the base of a constant by its start. -/
inductive IsConstant : List Char → ℕ → Prop
  | decimal {digits : List Char} (hdigits : IsNumeral 10 digits) (hhead : digits.head? ≠ some '0') :
    IsConstant digits (digitsValue 10 digits)
  | octal {digits : List Char} (hdigits : ∀ c ∈ digits, isDigitIn 8 c = true) :
    IsConstant ('0' :: digits) (digitsValue 8 digits)
  | hexadecimal {x : Char} {digits : List Char} (hx : x = 'x' ∨ x = 'X')
    (hdigits : IsNumeral 16 digits) : IsConstant ('0' :: x :: digits) (digitsValue 16 digits)

/-- The number after the blanks and the sign, and the text after it. -/
def readMagnitude (base : ℕ) (text : List Char) : Option (ℕ × List Char) :=
  let (base, text) := readBase base text
  let digits := text.takeWhile (isDigitIn base)
  if digits = [] then none
  else some (digitsValue base digits, text.dropWhile (isDigitIn base))

lemma parseInteger_eq (base : ℕ) (text : List Char) :
    parseInteger base text =
      (readMagnitude base (readSign (text.dropWhile isSpace)).2).map fun (value, rest) =>
        ((readSign (text.dropWhile isSpace)).1 * (value : Int), rest) := by
  simp only [parseInteger, readMagnitude]
  split_ifs <;> rfl

lemma isDigit_of_isDigitIn {base : ℕ} (hbase : base ≤ 10) {c : Char}
    (h : isDigitIn base c = true) : c.isDigit = true := by
  have hlt : digitValue c < 10 := lt_of_lt_of_le (of_decide_eq_true h) hbase
  simp only [digitValue] at hlt
  split_ifs at hlt with hdigit hlower hupper
  · exact Char.isDigit_iff_toNat.mpr
      ⟨UInt32.le_iff_toNat_le.mp hdigit.1, UInt32.le_iff_toNat_le.mp hdigit.2⟩
  · have hle : 97 ≤ c.toNat := UInt32.le_iff_toNat_le.mp hlower.1
    omega
  · have hle : 65 ≤ c.toNat := UInt32.le_iff_toNat_le.mp hupper.1
    omega
  · exact absurd hlt (by decide)

lemma isDigitIn_mono {base base' : ℕ} (hbase : base ≤ base') {c : Char}
    (h : isDigitIn base c = true) : isDigitIn base' c = true :=
  decide_eq_true (lt_of_lt_of_le (of_decide_eq_true h) hbase)

lemma IsSign.mem {sign : List Char} {s : Int} (h : IsSign sign s) {c : Char}
    (hc : c ∈ sign) : c = '+' ∨ c = '-' := by
  cases h with
  | none => simp at hc
  | plus => exact Or.inl (List.mem_singleton.mp hc)
  | minus => exact Or.inr (List.mem_singleton.mp hc)

/-- The sign that is read and what is left of the text. -/
lemma readSign_spec (text : List Char) :
    ∃ sign, text = sign ++ (readSign text).2 ∧ IsSign sign (readSign text).1 := by
  match text with
  | '-' :: rest => exact ⟨['-'], rfl, IsSign.minus⟩
  | '+' :: rest => exact ⟨['+'], rfl, IsSign.plus⟩
  | [] => exact ⟨[], rfl, IsSign.none⟩
  | c :: rest =>
    by_cases hminus : c = '-'
    · rw [hminus]
      exact ⟨['-'], rfl, IsSign.minus⟩
    by_cases hplus : c = '+'
    · rw [hplus]
      exact ⟨['+'], rfl, IsSign.plus⟩
    have hread : readSign (c :: rest) = (1, c :: rest) := by
      simp only [readSign]
      split <;> simp_all
    rw [hread]
    exact ⟨[], rfl, IsSign.none⟩

/-- Blanks and a sign before a digit. -/
lemma readSign_dropWhile {spaces sign body : List Char} {s : Int} {c : Char}
    (hspaces : ∀ c ∈ spaces, isSpace c = true) (hsign : IsSign sign s)
    (hhead : body.head? = some c) (hc : c.isDigit = true) :
    readSign ((spaces ++ (sign ++ body)).dropWhile isSpace) = (s, body) := by
  rw [List.dropWhile_append_of_pos hspaces]
  obtain ⟨rest, rfl⟩ := List.head?_eq_some_iff.mp hhead
  cases hsign with
  | plus => rfl
  | minus => rfl
  | none =>
    have hminus : c ≠ '-' := by
      rintro rfl
      exact absurd hc (by decide)
    have hplus : c ≠ '+' := by
      rintro rfl
      exact absurd hc (by decide)
    rw [List.nil_append, List.dropWhile_cons_of_neg (by simp [not_isSpace_of_isDigit hc])]
    simp [readSign, hminus, hplus]

/-- A sequence of digits that are not all read leaves a rest. -/
lemma takeWhile_eq_some_nil_iff {base : ℕ} {text : List Char} {m : ℕ} :
    (if text.takeWhile (isDigitIn base) = [] then none
      else some (digitsValue base (text.takeWhile (isDigitIn base)),
        text.dropWhile (isDigitIn base))) = some (m, []) ↔
      IsNumeral base text ∧ m = digitsValue base text := by
  constructor
  · intro h
    split_ifs at h with hnil
    simp only [Option.some.injEq, Prod.mk.injEq] at h
    have hall := List.dropWhile_eq_nil_iff.mp h.2
    have htake := List.takeWhile_eq_self_iff.mpr hall
    rw [htake] at hnil h
    exact ⟨⟨hnil, hall⟩, h.1.symm⟩
  · rintro ⟨⟨hne, hall⟩, rfl⟩
    rw [List.takeWhile_eq_self_iff.mpr hall, if_neg hne, List.dropWhile_eq_nil_iff.mpr hall]

/-- Base ten reads decimal digits. -/
lemma readMagnitude_ten_iff {text : List Char} {m : ℕ} :
    readMagnitude 10 text = some (m, []) ↔ IsNumeral 10 text ∧ m = digitsValue 10 text := by
  have hbase : readBase 10 text = (10, text) := by
    simp only [readBase]
    split <;> simp
  simp only [readMagnitude, hbase]
  exact takeWhile_eq_some_nil_iff

@[simp] lemma digitsValue_zero_cons (base : ℕ) (digits : List Char) :
    digitsValue base ('0' :: digits) = digitsValue base digits := by
  have hzero : base * 0 + digitValue '0' = 0 := by
    rw [Nat.mul_zero]
    rfl
  rw [digitsValue, List.foldl_cons, hzero, digitsValue]

lemma isNumeral_zero_cons {base : ℕ} (hbase : 0 < base) {digits : List Char} :
    IsNumeral base ('0' :: digits) ↔ ∀ c ∈ digits, isDigitIn base c = true := by
  have hzero : isDigitIn base '0' = true := decide_eq_true hbase
  simp [IsNumeral, hzero]

lemma readBase_of_head {text : List Char} (hhead : text.head? ≠ some '0') :
    readBase 0 text = (10, text) := by
  simp only [readBase]
  split <;> simp_all

/-- The prefix of a hexadecimal constant, with the first digit after it. -/
def IsHexPrefix (text : List Char) : Prop :=
  ∃ x d rest, text = x :: d :: rest ∧ (x = 'x' ∨ x = 'X') ∧ isDigitIn 16 d = true

lemma readBase_hexadecimal {x d : Char} {rest : List Char} (hx : x = 'x' ∨ x = 'X')
    (hd : isDigitIn 16 d = true) : readBase 0 ('0' :: x :: d :: rest) = (16, d :: rest) := by
  simp only [readBase]
  rw [if_pos ⟨Or.inl trivial, hx, hd⟩]

lemma readBase_octal {text : List Char} (h : ¬ IsHexPrefix text) :
    readBase 0 ('0' :: text) = (8, '0' :: text) := by
  match text with
  | [] => rfl
  | [x] => rfl
  | x :: d :: rest =>
    simp only [readBase]
    rw [if_neg fun hx => h ⟨x, d, rest, rfl, hx.2⟩]
    rfl

lemma not_isHexPrefix {text : List Char} (h : ∀ c ∈ text, c.isDigit = true) :
    ¬ IsHexPrefix text := by
  rintro ⟨x, d, rest, rfl, hx, -⟩
  have hdigit := h x List.mem_cons_self
  rcases hx with rfl | rfl <;> exact absurd hdigit (by decide)

/-- Base zero reads the constants of C. -/
lemma readMagnitude_zero_iff {text : List Char} {m : ℕ} :
    readMagnitude 0 text = some (m, []) ↔ IsConstant text m := by
  constructor
  · intro h
    by_cases hhead : text.head? = some '0'
    · obtain ⟨digits, rfl⟩ := List.head?_eq_some_iff.mp hhead
      by_cases hhex : IsHexPrefix digits
      · obtain ⟨x, d, rest, rfl, hx, hd⟩ := hhex
        simp only [readMagnitude, readBase_hexadecimal hx hd] at h
        obtain ⟨hdigits, rfl⟩ := takeWhile_eq_some_nil_iff.mp h
        exact IsConstant.hexadecimal hx hdigits
      · simp only [readMagnitude, readBase_octal hhex] at h
        obtain ⟨hdigits, rfl⟩ := takeWhile_eq_some_nil_iff.mp h
        rw [digitsValue_zero_cons]
        exact IsConstant.octal ((isNumeral_zero_cons (by decide)).mp hdigits)
    · simp only [readMagnitude, readBase_of_head hhead] at h
      obtain ⟨hdigits, rfl⟩ := takeWhile_eq_some_nil_iff.mp h
      exact IsConstant.decimal hdigits hhead
  · intro h
    cases h with
    | decimal hdigits hhead =>
      simp only [readMagnitude, readBase_of_head hhead]
      exact takeWhile_eq_some_nil_iff.mpr ⟨hdigits, rfl⟩
    | octal hdigits =>
      have hhex := not_isHexPrefix fun c hc => isDigit_of_isDigitIn (by decide) (hdigits c hc)
      simp only [readMagnitude, readBase_octal hhex]
      exact takeWhile_eq_some_nil_iff.mpr
        ⟨(isNumeral_zero_cons (by decide)).mpr hdigits, (digitsValue_zero_cons 8 _).symm⟩
    | @hexadecimal x digits hx hdigits =>
      obtain ⟨d, rest, rfl⟩ := List.exists_cons_of_ne_nil hdigits.1
      simp only [readMagnitude, readBase_hexadecimal hx (hdigits.2 d List.mem_cons_self)]
      exact takeWhile_eq_some_nil_iff.mpr ⟨hdigits, rfl⟩

lemma IsNumeral.exists_head {base : ℕ} (hbase : base ≤ 10) {digits : List Char}
    (h : IsNumeral base digits) : ∃ c, digits.head? = some c ∧ c.isDigit = true := by
  obtain ⟨c, rest, rfl⟩ := List.exists_cons_of_ne_nil h.1
  exact ⟨c, rfl, isDigit_of_isDigitIn hbase (h.2 c List.mem_cons_self)⟩

lemma IsConstant.exists_head {text : List Char} {m : ℕ} (h : IsConstant text m) :
    ∃ c, text.head? = some c ∧ c.isDigit = true := by
  cases h with
  | decimal hdigits => exact hdigits.exists_head le_rfl
  | octal => exact ⟨'0', rfl, rfl⟩
  | hexadecimal => exact ⟨'0', rfl, rfl⟩

/-- Blanks and a sign before a number that starts with a digit. -/
lemma parseInteger_append (base : ℕ) {spaces sign body : List Char} {s : Int}
    (hspaces : ∀ c ∈ spaces, isSpace c = true) (hsign : IsSign sign s)
    (hbody : ∃ c, body.head? = some c ∧ c.isDigit = true) :
    parseInteger base (spaces ++ (sign ++ body)) =
      (readMagnitude base body).map fun (value, rest) => (s * (value : Int), rest) := by
  obtain ⟨c, hhead, hc⟩ := hbody
  rw [parseInteger_eq, readSign_dropWhile hspaces hsign hhead hc]

/-- A text that is read to its end is blanks, a sign and a number. -/
lemma parseInteger_split {base : ℕ} {text : List Char} {v : Int}
    (h : parseInteger base text = some (v, [])) :
    ∃ spaces sign body s m, text = spaces ++ (sign ++ body) ∧ (∀ c ∈ spaces, isSpace c = true) ∧
      IsSign sign s ∧ readMagnitude base body = some (m, []) ∧ v = s * m := by
  rw [parseInteger_eq, Option.map_eq_some_iff] at h
  obtain ⟨⟨m, rest⟩, hread, heq⟩ := h
  simp only [Prod.mk.injEq] at heq
  obtain ⟨rfl, rfl⟩ := heq
  obtain ⟨sign, hsplit, hsign⟩ := readSign_spec (text.dropWhile isSpace)
  refine ⟨text.takeWhile isSpace, sign, _, _, m, ?_, ?_, hsign, hread, rfl⟩
  · rw [← hsplit, List.takeWhile_append_dropWhile]
  · intro c hc
    exact List.mem_takeWhile_imp hc

/-- Base ten reads blanks, a sign and decimal digits. -/
theorem parseInteger_ten_iff {text : List Char} {v : Int} :
    parseInteger 10 text = some (v, []) ↔
      ∃ spaces sign digits s, text = spaces ++ (sign ++ digits) ∧
        (∀ c ∈ spaces, isSpace c = true) ∧ IsSign sign s ∧ IsNumeral 10 digits ∧
        v = s * digitsValue 10 digits := by
  constructor
  · intro h
    obtain ⟨spaces, sign, body, s, m, rfl, hspaces, hsign, hread, rfl⟩ := parseInteger_split h
    obtain ⟨hdigits, rfl⟩ := readMagnitude_ten_iff.mp hread
    exact ⟨spaces, sign, body, s, rfl, hspaces, hsign, hdigits, rfl⟩
  · rintro ⟨spaces, sign, digits, s, rfl, hspaces, hsign, hdigits, rfl⟩
    rw [parseInteger_append 10 hspaces hsign (hdigits.exists_head le_rfl),
      readMagnitude_ten_iff.mpr ⟨hdigits, rfl⟩]
    rfl

/-- Base zero reads blanks, a sign and a constant. -/
theorem parseInteger_zero_iff {text : List Char} {v : Int} :
    parseInteger 0 text = some (v, []) ↔
      ∃ spaces sign body s m, text = spaces ++ (sign ++ body) ∧
        (∀ c ∈ spaces, isSpace c = true) ∧ IsSign sign s ∧ IsConstant body m ∧ v = s * m := by
  constructor
  · intro h
    obtain ⟨spaces, sign, body, s, m, htext, hspaces, hsign, hread, hv⟩ := parseInteger_split h
    exact ⟨spaces, sign, body, s, m, htext, hspaces, hsign, readMagnitude_zero_iff.mp hread, hv⟩
  · rintro ⟨spaces, sign, body, s, m, rfl, hspaces, hsign, hbody, rfl⟩
    rw [parseInteger_append 0 hspaces hsign hbody.exists_head, readMagnitude_zero_iff.mpr hbody]
    rfl

end CString
