import Mathlib.Data.List.Basic
import Mathlib.Data.List.TakeWhile
import Mathlib.Tactic.Common

/-!
# Reading and tokenizing text the way C does

`fgets` and `strtok` on lists of characters (none of which is the terminating NUL), and how the
pieces that `fgets` returns relate to the lines of a text.
-/

namespace CString

/-- `isspace` in the "C" locale: the blank and the characters from tab to carriage return. -/
def isSpace (c : Char) : Bool :=
  c = ' ' || ('\t' ≤ c && c ≤ '\r')

/-! ### `strtok` -/

/-- `strtok`: the next token, if there is one, and the text after the delimiter that ends it. -/
def strtok (delimiter : Char → Bool) (text : List Char) : Option (List Char) × List Char :=
  let start := text.dropWhile delimiter
  if start = [] then (none, [])
  else (some (start.takeWhile (!delimiter ·)), (start.dropWhile (!delimiter ·)).drop 1)

variable {delimiter : Char → Bool}

@[simp] lemma strtok_nil : strtok delimiter [] = (none, []) := rfl

lemma strtok_skip {c : Char} (hc : delimiter c = true) (text : List Char) :
    strtok delimiter (c :: text) = strtok delimiter text := by
  simp only [strtok, List.dropWhile_cons_of_pos hc]

/-- A text that starts with a character of a token. -/
lemma strtok_start {d : Char} (hd : delimiter d = false) (text : List Char) :
    strtok delimiter (d :: text) =
      (some ((d :: text).takeWhile (!delimiter ·)),
        ((d :: text).dropWhile (!delimiter ·)).drop 1) := by
  rw [strtok, List.dropWhile_cons_of_neg (by simp [hd]), if_neg (List.cons_ne_nil _ _)]

/-- A text that starts with a token. -/
lemma strtok_token {token : List Char} (hne : token ≠ [])
    (htoken : ∀ c ∈ token, delimiter c = false) {c : Char} (hc : delimiter c = true)
    (rest : List Char) : strtok delimiter (token ++ c :: rest) = (some token, rest) := by
  obtain ⟨d, token, rfl⟩ := List.exists_cons_of_ne_nil hne
  have hall : ∀ x ∈ d :: token, (!delimiter x) = true := by
    intro x hx
    rw [htoken x hx, Bool.not_false]
  rw [List.cons_append, strtok_start (htoken d List.mem_cons_self), ← List.cons_append,
    List.takeWhile_append_of_pos hall, List.dropWhile_append_of_pos hall,
    List.takeWhile_cons_of_neg (by simp [hc]), List.dropWhile_cons_of_neg (by simp [hc]),
    List.append_nil]
  rfl

/-- A delimiter at the end of a text ends its last token and nothing else. -/
lemma strtok_append_delimiter {c : Char} (hc : delimiter c = true) (text : List Char) :
    (strtok delimiter (text ++ [c])).1 = (strtok delimiter text).1 ∧
      ((strtok delimiter (text ++ [c])).2 = (strtok delimiter text).2 ∨
        (strtok delimiter (text ++ [c])).2 = (strtok delimiter text).2 ++ [c]) := by
  induction text with
  | nil =>
    rw [List.nil_append, strtok_skip hc]
    exact ⟨rfl, Or.inl rfl⟩
  | cons d text ih =>
    by_cases hd : delimiter d = true
    · rw [List.cons_append, strtok_skip hd, strtok_skip hd]
      exact ih
    · simp only [Bool.not_eq_true] at hd
      rw [List.cons_append, strtok_start hd, strtok_start hd, ← List.cons_append]
      by_cases hall : ∀ x ∈ d :: text, (!delimiter x) = true
      · rw [List.takeWhile_append_of_pos hall, List.dropWhile_append_of_pos hall,
          List.takeWhile_cons_of_neg (by simp [hc]), List.dropWhile_cons_of_neg (by simp [hc]),
          List.takeWhile_eq_self_iff.mpr hall, List.dropWhile_eq_nil_iff.mpr hall]
        simp
      · have hrest : (d :: text).dropWhile (!delimiter ·) ≠ [] := by
          rwa [Ne, List.dropWhile_eq_nil_iff]
        obtain ⟨x, rest, hx⟩ := List.exists_cons_of_ne_nil hrest
        have hshort : ¬ ((d :: text).takeWhile (!delimiter ·)).length = (d :: text).length := by
          intro hlength
          apply hall
          rw [← List.takeWhile_eq_self_iff]
          exact (List.takeWhile_prefix _).eq_of_length hlength
        rw [List.takeWhile_append, if_neg hshort, List.dropWhile_append, hx]
        simp

/-- A token at the end of a text. -/
lemma strtok_last_token {token : List Char} (hne : token ≠ [])
    (htoken : ∀ c ∈ token, delimiter c = false) : strtok delimiter token = (some token, []) := by
  obtain ⟨d, token, rfl⟩ := List.exists_cons_of_ne_nil hne
  have hall : ∀ x ∈ d :: token, (!delimiter x) = true := by
    intro x hx
    rw [htoken x hx, Bool.not_false]
  rw [strtok_start (htoken d List.mem_cons_self), List.takeWhile_eq_self_iff.mpr hall,
    List.dropWhile_eq_nil_iff.mpr hall, List.drop_nil]

/-- The tokens of a text: its longest pieces without a delimiter. -/
def tokens (delimiter : Char → Bool) (text : List Char) : List (List Char) :=
  (text.splitOnP delimiter).filter (· ≠ [])

lemma tokens_append_delimiter {c : Char} (hc : delimiter c = true) (text rest : List Char) :
    tokens delimiter (text ++ c :: rest) = tokens delimiter text ++ tokens delimiter rest := by
  rw [tokens, List.splitOnP_append_cons _ _ hc, List.filter_append, tokens, tokens]

lemma tokens_of_token {token : List Char} (hne : token ≠ [])
    (htoken : ∀ c ∈ token, delimiter c = false) : tokens delimiter token = [token] := by
  rw [tokens, List.splitOnP_eq_singleton htoken]
  simp [hne]

/-- `strtok` takes off the first token. -/
theorem strtok_tokens (text : List Char) :
    (strtok delimiter text).1 = (tokens delimiter text).head? ∧
      tokens delimiter (strtok delimiter text).2 = (tokens delimiter text).tail := by
  induction text with
  | nil => exact ⟨rfl, rfl⟩
  | cons d text ih =>
    by_cases hd : delimiter d = true
    · have hskip : tokens delimiter (d :: text) = tokens delimiter text :=
        tokens_append_delimiter hd [] text
      rw [strtok_skip hd, hskip]
      exact ih
    · have hne : (d :: text).takeWhile (!delimiter ·) ≠ [] := by
        rw [List.takeWhile_cons_of_pos (by simp [hd])]
        exact List.cons_ne_nil _ _
      have htoken : ∀ c ∈ (d :: text).takeWhile (!delimiter ·), delimiter c = false := by
        intro c hc
        simpa using List.mem_takeWhile_imp hc
      have htext := List.takeWhile_append_dropWhile (p := (!delimiter ·)) (l := d :: text)
      cases hrest : (d :: text).dropWhile (!delimiter ·) with
      | nil =>
        rw [hrest, List.append_nil] at htext
        rw [htext] at hne htoken
        rw [strtok_last_token hne htoken, tokens_of_token hne htoken]
        exact ⟨rfl, rfl⟩
      | cons c rest =>
        have hc : delimiter c = true := by
          have hhead := List.head?_dropWhile_not (!delimiter ·) (d :: text)
          rw [hrest] at hhead
          simpa using hhead
        rw [hrest] at htext
        rw [← htext, strtok_token hne htoken hc, tokens_append_delimiter hc,
          tokens_of_token hne htoken]
        exact ⟨rfl, rfl⟩

lemma strtok_fst (text : List Char) : (strtok delimiter text).1 = (tokens delimiter text).head? :=
  (strtok_tokens text).1

lemma tokens_strtok_snd (text : List Char) :
    tokens delimiter (strtok delimiter text).2 = (tokens delimiter text).tail :=
  (strtok_tokens text).2

/-- Tokens with one delimiter between them are read back one by one. -/
theorem strtok_intercalate {c : Char} (hc : delimiter c = true) {tokens : List (List Char)}
    (htokens : ∀ token ∈ tokens, token ≠ [] ∧ ∀ x ∈ token, delimiter x = false) :
    strtok delimiter ([c].intercalate tokens) = (tokens.head?, [c].intercalate tokens.tail) := by
  match tokens with
  | [] => rfl
  | [token] =>
    obtain ⟨hne, htoken⟩ := htokens token List.mem_cons_self
    rw [List.intercalate_singleton, strtok_last_token hne htoken]
    rfl
  | token :: token' :: rest =>
    obtain ⟨hne, htoken⟩ := htokens token List.mem_cons_self
    rw [List.intercalate_cons_cons, List.append_assoc, List.singleton_append,
      strtok_token hne htoken hc]
    rfl

lemma mem_intercalate {c x : Char} {tokens : List (List Char)} (h : x ∈ [c].intercalate tokens) :
    x = c ∨ ∃ token ∈ tokens, x ∈ token := by
  induction tokens with
  | nil => simp at h
  | cons token rest ih =>
    cases rest with
    | nil =>
      rw [List.intercalate_singleton] at h
      exact Or.inr ⟨token, List.mem_cons_self, h⟩
    | cons token' rest =>
      rw [List.intercalate_cons_cons, List.mem_append, List.mem_append, List.mem_singleton] at h
      rcases h with (h | h) | h
      · exact Or.inr ⟨token, List.mem_cons_self, h⟩
      · exact Or.inl h
      · rcases ih h with hx | ⟨token'', hmem, hx⟩
        · exact Or.inl hx
        · exact Or.inr ⟨token'', List.mem_cons_of_mem _ hmem, hx⟩

lemma length_intercalate_le {c : Char} {k : ℕ} {tokens : List (List Char)}
    (h : ∀ token ∈ tokens, token.length ≤ k) :
    ([c].intercalate tokens).length ≤ tokens.length * (k + 1) := by
  induction tokens with
  | nil => simp
  | cons token rest ih =>
    have htoken := h token List.mem_cons_self
    have hrest := ih fun t ht => h t (List.mem_cons_of_mem _ ht)
    rw [List.length_cons, Nat.add_mul, Nat.one_mul]
    cases rest with
    | nil =>
      rw [List.intercalate_singleton]
      omega
    | cons token' rest =>
      rw [List.intercalate_cons_cons, List.length_append, List.length_append, List.length_singleton]
      omega

/-! ### `fgets` -/

/-- `fgets` with room for `n` characters: up to the first newline, which it keeps, or until the room
is used up. The second component is what is left in the file. -/
def fgets : ℕ → List Char → List Char × List Char
  | 0, text => ([], text)
  | _ + 1, [] => ([], [])
  | n + 1, c :: text =>
    if c = '\n' then ([c], text) else (c :: (fgets n text).1, (fgets n text).2)

/-- The buffers of `while (fgets(..) != NULL)`. -/
def readBuffers (n : ℕ) : ℕ → List Char → List (List Char)
  | 0, _ => []
  | fuel + 1, text =>
    if text = [] then []
    else (fgets n text).1 :: readBuffers n fuel (fgets n text).2

/-- All buffers of a file. Each call consumes a character, so that many calls are enough. -/
def buffers (n : ℕ) (text : List Char) : List (List Char) :=
  readBuffers n text.length text

/-- The lines of a text. -/
def lines (text : List Char) : List (List Char) :=
  text.splitOn '\n'

/-- A line cut into pieces of at most `n` characters. -/
def cut (n : ℕ) : ℕ → List Char → List (List Char)
  | 0, line => [line]
  | fuel + 1, line =>
    if line.length ≤ n then [line] else line.take n :: cut n fuel (line.drop n)

/-- The pieces of a line. -/
def pieces (n : ℕ) (line : List Char) : List (List Char) :=
  cut n line.length line

lemma fgets_line {n : ℕ} {line : List Char} (hline : '\n' ∉ line) (rest : List Char) :
    fgets n (line ++ '\n' :: rest) =
      if line.length < n then (line ++ ['\n'], rest)
      else (line.take n, line.drop n ++ '\n' :: rest) := by
  induction line generalizing n with
  | nil => cases n <;> simp [fgets]
  | cons c line ih =>
    obtain ⟨hc, hline⟩ := not_or.mp (List.mem_cons.not.mp hline)
    cases n with
    | zero => simp [fgets]
    | succ n =>
      simp only [List.cons_append, fgets, if_neg (Ne.symm hc), ih hline, List.length_cons,
        Nat.add_lt_add_iff_right]
      split_ifs <;> rfl

lemma fgets_last {n : ℕ} {line : List Char} (hline : '\n' ∉ line) :
    fgets n line = (line.take n, line.drop n) := by
  induction line generalizing n with
  | nil => cases n <;> rfl
  | cons c line ih =>
    obtain ⟨hc, hline⟩ := not_or.mp (List.mem_cons.not.mp hline)
    cases n with
    | zero => rfl
    | succ n => simp [fgets, Ne.symm hc, ih hline]

/-- A text is its only line, or its first line followed by the others. -/
lemma one_line_or_more (text : List Char) :
    '\n' ∉ text ∨ ∃ line rest, '\n' ∉ line ∧ text = line ++ '\n' :: rest := by
  by_cases h : '\n' ∈ text
  · obtain ⟨line, rest, rfl, hline⟩ := List.eq_append_cons_of_mem h
    exact Or.inr ⟨line, rest, hline, rfl⟩
  · exact Or.inl h

lemma lines_last {line : List Char} (hline : '\n' ∉ line) : lines line = [line] :=
  List.splitOn_eq_singleton hline

lemma lines_cons {line : List Char} (hline : '\n' ∉ line) (rest : List Char) :
    lines (line ++ '\n' :: rest) = line :: lines rest :=
  List.splitOn_append_cons_self_of_not_mem hline rest

lemma not_mem_of_mem_lines {text line : List Char} (h : line ∈ lines text) : '\n' ∉ line := by
  obtain ⟨fuel, hfuel⟩ : ∃ fuel, text.length ≤ fuel := ⟨_, le_rfl⟩
  induction fuel generalizing text with
  | zero =>
    rw [List.length_eq_zero_iff.mp (Nat.le_zero.mp hfuel), lines_last List.not_mem_nil,
      List.mem_singleton] at h
    rw [h]
    exact List.not_mem_nil
  | succ fuel ih =>
    rcases one_line_or_more text with hline | ⟨first, rest, hfirst, rfl⟩
    · rw [lines_last hline, List.mem_singleton] at h
      exact h ▸ hline
    · rw [lines_cons hfirst, List.mem_cons] at h
      rw [List.length_append, List.length_cons] at hfuel
      rcases h with rfl | h
      · exact hfirst
      · exact ih h (by omega)

/-- The text with these lines. -/
def unlines (ls : List (List Char)) : List Char :=
  ['\n'].intercalate ls

lemma lines_unlines {ls : List (List Char)} (hne : ls ≠ []) (h : ∀ line ∈ ls, '\n' ∉ line) :
    lines (unlines ls) = ls :=
  List.splitOn_intercalate '\n' h hne

lemma cut_of_le {n fuel : ℕ} (hn : 0 < n) {line : List Char} (h : line.length ≤ fuel) :
    cut n fuel line = cut n line.length line := by
  induction fuel using Nat.strong_induction_on generalizing line with
  | _ fuel ih =>
    cases hlength : line.length with
    | zero =>
      cases fuel with
      | zero => rfl
      | succ fuel => simp [cut, hlength]
    | succ m =>
      obtain ⟨fuel, rfl⟩ := Nat.exists_eq_add_of_lt (show 0 < fuel by omega)
      rw [Nat.zero_add, cut, cut]
      split_ifs with hshort
      · rfl
      · have hdrop : (line.drop n).length ≤ m := by
          rw [List.length_drop]
          omega
        rw [ih fuel (by omega) (by omega), ← ih m (by omega) hdrop]

lemma pieces_of_le {n : ℕ} {line : List Char} (h : line.length ≤ n) : pieces n line = [line] := by
  simp only [pieces]
  cases hlength : line.length with
  | zero => rfl
  | succ m => rw [cut, if_pos h]

lemma pieces_of_lt {n : ℕ} (hn : 0 < n) {line : List Char} (h : n < line.length) :
    pieces n line = line.take n :: pieces n (line.drop n) := by
  simp only [pieces]
  obtain ⟨m, hm⟩ := Nat.exists_eq_add_of_lt (show 0 < line.length by omega)
  have hdrop : (line.drop n).length ≤ m := by
    rw [List.length_drop]
    omega
  rw [hm, Nat.zero_add, cut, if_neg (by omega), cut_of_le hn hdrop]

/-! ### Buffers and lines -/

section Reader

variable {β : Type*} {f : List Char → Option β} {n : ℕ}

/-- Reading off the first piece of a line. -/
lemma filterMap_pieces (hn : 0 < n) (hempty : f [] = none) (line : List Char) :
    (pieces n line).filterMap f =
      (f (line.take n)).toList ++ (pieces n (line.drop n)).filterMap f := by
  by_cases h : line.length ≤ n
  · rw [pieces_of_le h, List.take_of_length_le h, List.drop_eq_nil_of_le h,
      pieces_of_le (Nat.zero_le n)]
    cases hf : f line <;> simp [hf, hempty]
  · rw [pieces_of_lt hn (not_le.mp h), List.filterMap_cons]
    cases f (line.take n) <;> rfl

lemma filterMap_readBuffers (hn : 0 < n) (hempty : f [] = none)
    (hnewline : ∀ line, f (line ++ ['\n']) = f line) {fuel : ℕ} {text : List Char}
    (hfuel : text.length ≤ fuel) :
    (readBuffers n fuel text).filterMap f = ((lines text).flatMap (pieces n)).filterMap f := by
  induction fuel generalizing text with
  | zero =>
    rw [List.length_eq_zero_iff.mp (Nat.le_zero.mp hfuel)]
    simp [readBuffers, lines_last, pieces_of_le, hempty]
  | succ fuel ih =>
    by_cases hnil : text = []
    · simp [hnil, readBuffers, lines_last, pieces_of_le, hempty]
    · have hpos : 0 < text.length := List.length_pos_iff.mpr hnil
      rw [readBuffers, if_neg hnil]
      rcases one_line_or_more text with hline | ⟨line, rest, hline, rfl⟩
      · have hdrop : '\n' ∉ text.drop n := fun h => hline (List.mem_of_mem_drop h)
        have hrest := @ih (text.drop n) (by rw [List.length_drop]; omega)
        rw [lines_last hdrop] at hrest
        rw [fgets_last hline, lines_last hline, List.filterMap_cons, hrest]
        simp only [List.flatMap_cons, List.flatMap_nil, List.append_nil]
        rw [filterMap_pieces hn hempty text]
        cases f (text.take n) <;> rfl
      · rw [fgets_line hline, lines_cons hline, List.flatMap_cons, List.filterMap_append]
        rw [List.length_append, List.length_cons] at hfuel
        split_ifs with hshort
        · dsimp only
          rw [List.filterMap_cons, hnewline, ih (by omega), pieces_of_le (Nat.le_of_lt hshort)]
          cases hf : f line <;> simp [hf]
        · have hdrop : '\n' ∉ line.drop n := fun h => hline (List.mem_of_mem_drop h)
          have hrest := @ih (line.drop n ++ '\n' :: rest) (by
            rw [List.length_append, List.length_drop, List.length_cons]
            omega)
          rw [lines_cons hdrop, List.flatMap_cons, List.filterMap_append] at hrest
          rw [List.filterMap_cons, hrest, filterMap_pieces hn hempty line]
          cases f (line.take n) <;> simp

/-- What the buffers contribute is what the pieces of the lines contribute, provided that a newline
at the end of a buffer makes no difference. -/
theorem filterMap_buffers (hn : 0 < n) (hempty : f [] = none)
    (hnewline : ∀ line, f (line ++ ['\n']) = f line) (text : List Char) :
    (buffers n text).filterMap f = ((lines text).flatMap (pieces n)).filterMap f :=
  filterMap_readBuffers hn hempty hnewline (Nat.le_refl _)

/-- A line that fits into a buffer is its only piece. -/
lemma filterMap_pieces_of_le {line : List Char} (h : line.length ≤ n) :
    (pieces n line).filterMap f = (f line).toList := by
  rw [pieces_of_le h]
  cases hf : f line <;> simp [hf]

/-- Lines whose pieces contribute what they do themselves may be read in pieces. -/
theorem filterMap_pieces_congr {text : List Char}
    (h : ∀ line ∈ lines text, (pieces n line).filterMap f = (f line).toList) :
    ((lines text).flatMap (pieces n)).filterMap f = (lines text).filterMap f := by
  generalize lines text = ls at h ⊢
  induction ls with
  | nil => rfl
  | cons line rest ih =>
    have hline := h line List.mem_cons_self
    have hrest := ih fun l hl => h l (List.mem_cons_of_mem _ hl)
    rw [List.flatMap_cons, List.filterMap_append, hline, hrest, List.filterMap_cons]
    cases f line <;> rfl

end Reader

end CString
