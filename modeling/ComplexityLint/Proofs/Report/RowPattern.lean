import ComplexityLint.Proofs.Report.Row
import ComplexityLint.Proofs.Text.Pattern

/-!
The row of a report as a pattern:

    \s?(\d+)\s+(\d+)\s+(\d+)\s+(\d+)\s+(\d+) (.*)@(\d+)-(\d+)@(\S+)

The readers of a row, which never try again, find the same row as the pattern
(`rowOfPattern?_eq_find?`): every run but the name is followed by something that cannot belong to
it, and the name gives way from its longest form on.
-/

namespace ComplexityLint.Report

open Text Text.Pattern Text.Part

/-- The pattern of `@first-last@path`. -/
def spanPattern : Pattern :=
  [skip (.one (· = '@')), group (.many1 isDigit), skip (.one (· = '-')), group (.many1 isDigit),
    skip (.one (· = '@')), group (.many1 (!isBlank ·))]

/-- The pattern of a name and its span. -/
def locationPattern : Pattern := group (.many (· ≠ '\n')) :: spanPattern

/-- The pattern of a row that begins with its first number. -/
def numbersPattern : Pattern :=
  group (.many1 isDigit) :: skip (.many1 isBlank) ::
  group (.many1 isDigit) :: skip (.many1 isBlank) ::
  group (.many1 isDigit) :: skip (.many1 isBlank) ::
  group (.many1 isDigit) :: skip (.many1 isBlank) ::
  group (.many1 isDigit) :: skip (.one (· = ' ')) :: locationPattern

/-- The pattern of a row. -/
def rowPattern : Pattern := skip (.maybe isBlank) :: numbersPattern

/-- The row that the groups of a match write. -/
def Row.ofGroups? : List (List Char) → Option Row
  | [lines, complexity, tokens, parameters, length, name, first, last, path] =>
    some { lines, complexity, tokens, parameters, length, name, span := { first, last, path } }
  | _ => none

/-- The row that the pattern finds. -/
def rowOfPattern? (line : List Char) : Option Row := (rowPattern.find? line).bind Row.ofGroups?

/-- The texts of a span that are handed over. -/
def Span.groups (sp : Span) : List (List Char) := [sp.first, sp.last, sp.path]

/-- The texts of a row that are handed over. -/
def Row.groups (r : Row) : List (List Char) :=
  r.lines :: r.complexity :: r.tokens :: r.parameters :: r.length :: r.name :: r.span.groups

theorem Row.ofGroups?_groups (r : Row) : Row.ofGroups? r.groups = some r := rfl

/-! ### Steps of a pattern and of a reader -/

section Steps

variable {p : Char → Bool} {k : Bool} {is : Pattern}

/-- A run in a pattern is the run that a reader takes. -/
theorem at?_many1 (h : Stuck p is) (s : List Char) :
    at? (⟨.many1 p, k⟩ :: is) s = (run? p s).bind fun x => (at? is x.2).map (keep k x.1) := by
  cases hr : run? p s with
  | none => simp [at?, ways_many1_of_stops (run?_eq_none_iff.mp hr)]
  | some x =>
    obtain ⟨hfilled, hstop, hs⟩ := run?_eq_some_iff.mp hr
    simp [at?, hs, ways_many1_of_stuck h hfilled hstop]

theorem at?_many1_end (s : List Char) :
    at? [⟨.many1 p, k⟩] s = (run? p s).map fun x => keep k x.1 [] := by
  rw [at?_many1_last, run?]
  split <;> rfl

theorem at?_char (x : Char) (s : List Char) :
    at? (⟨.one (· = x), k⟩ :: is) s =
      (char? x s).bind fun rest => (at? is rest).map (keep k [x]) := by
  cases s with
  | nil => rfl
  | cons c s =>
    by_cases h : c = x
    · simp [at?, ways_one_cons, char?, h]
    · simp [at?, ways_one_cons, char?, h]

end Steps

/-- A class that a given character does not belong to. -/
theorem not_char {p : Char → Bool} {x : Char} (h : p x = false) (c : Char) (hc : p c = true) :
    decide (c = x) = false := by
  rw [decide_eq_false_iff_not]
  rintro rfl
  rw [h] at hc
  cases hc

/-! ### The parts of a row -/

theorem at?_spanPattern (s : List Char) : at? spanPattern s = (span? s).map Span.groups := by
  have hdash : Stuck isDigit (skip (.one (· = '-')) :: group (.many1 isDigit) ::
      skip (.one (· = '@')) :: [group (.many1 (!isBlank ·))]) := stuck_one (not_char isDigit_dash)
  have hat : Stuck isDigit (skip (.one (· = '@')) :: [group (.many1 (!isBlank ·))]) :=
    stuck_one (not_char isDigit_at)
  simp only [spanPattern, at?_char, at?_many1 hdash, at?_many1 hat, at?_many1_end, span?,
    Option.bind_eq_bind, Option.pure_def, Option.map_eq_bind, Option.bind_assoc, Option.bind_some,
    Function.comp_def]
  rfl

theorem at?_locationPattern (s : List Char) :
    at? locationPattern s = (location? s).map fun x => x.1 :: x.2.groups := by
  induction s with
  | nil => rfl
  | cons c s ih =>
    have hspan := at?_spanPattern (c :: s)
    simp only [at?, locationPattern] at ih hspan ⊢
    rw [ways_many_cons, List.head?_append, List.head?_map, hspan]
    by_cases hc : c = '\n'
    · subst hc
      rw [if_neg (by simp)]
      cases hs : span? ('\n' :: s) <;> simp [location?, hs]
    · rw [if_pos (by simpa using hc), List.head?_map, ih]
      cases hl : location? s <;> cases hs : span? (c :: s) <;>
        simp [location?, hc, hl, hs, grow]

/-- A number, the blanks behind it and the rest of a pattern, where the rest begins with neither. -/
theorem at?_column {is : Pattern} (hd : Stuck isBlank (group (.many1 isDigit) :: is))
    (s : List Char) :
    at? (group (.many1 isDigit) :: skip (.many1 isBlank) :: group (.many1 isDigit) :: is) s =
      (column? s).bind fun x => (at? (group (.many1 isDigit) :: is) x.2).map (x.1 :: ·) := by
  have hb : Stuck isDigit (skip (.many1 isBlank) :: group (.many1 isDigit) :: is) :=
    stuck_many1 fun _ => isBlank_eq_false_of_isDigit
  simp only [at?_many1 hb, at?_many1 hd, column?, keep_true, keep_false, Option.bind_eq_bind,
    Option.pure_def, Option.map_eq_bind, Option.bind_assoc, Option.bind_some, Function.comp_def,
    id_eq]

theorem at?_numbersPattern (s : List Char) :
    at? numbersPattern s = (Row.at? s).map Row.groups := by
  have hd : ∀ is, Stuck isBlank (group (.many1 isDigit) :: is) := fun is =>
    stuck_many1 fun _ => isDigit_eq_false_of_isBlank
  have hspace : Stuck isDigit (skip (.one (· = ' ')) :: locationPattern) :=
    stuck_one (not_char isDigit_space)
  simp only [numbersPattern, at?_column (hd _), at?_many1 hspace, at?_char, at?_locationPattern,
    Row.at?, keep_true, keep_false, Option.bind_eq_bind, Option.pure_def, Option.map_eq_bind,
    Option.bind_assoc, Option.bind_some, Function.comp_def, id_eq]
  rfl

/-! ### Rows in a line -/

theorem at?_rowPattern_cons (c : Char) (s : List Char) :
    at? rowPattern (c :: s) =
      if isBlank c then (Row.at? s).map Row.groups else (Row.at? (c :: s)).map Row.groups := by
  have hat : ∀ t, (ways numbersPattern t).head? = (Row.at? t).map Row.groups := at?_numbersPattern
  rw [at?, rowPattern, ways_maybe_cons, List.head?_append]
  by_cases hc : isBlank c = true
  · have hnone : Row.at? (c :: s) = none :=
      Row.at?_cons_of_not_digit (isDigit_eq_false_of_isBlank hc)
    simp [hc, hat, hnone]
  · simp [hc, hat]

theorem find?_rowPattern (s : List Char) :
    rowPattern.find? s = (Row.find? s).map Row.groups := by
  induction s with
  | nil => rfl
  | cons c s ih =>
    rw [Pattern.find?, at?_rowPattern_cons, ih, Row.find?_cons]
    by_cases hc : isBlank c = true
    · -- the match may begin with the blank: the row is then the one behind it
      have hnone : Row.at? (c :: s) = none :=
        Row.at?_cons_of_not_digit (isDigit_eq_false_of_isBlank hc)
      rw [if_pos hc, hnone, Option.none_or]
      cases s with
      | nil => rfl
      | cons d s =>
        rw [Row.find?_cons]
        cases Row.at? (d :: s) <;> simp
    · rw [if_neg hc]
      cases Row.at? (c :: s) <;> simp

/-- **The readers find the row of the pattern.** -/
theorem rowOfPattern?_eq_find? (line : List Char) : rowOfPattern? line = Row.find? line := by
  rw [rowOfPattern?, find?_rowPattern, Option.bind_map]
  cases Row.find? line with
  | none => rfl
  | some r => exact Row.ofGroups?_groups r

end ComplexityLint.Report
