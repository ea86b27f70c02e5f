import ComplexityLint.Proofs.Text.Classes
import ComplexityLint.Report.Row

/-!
How rows are read. Each reader of a row is matched with the texts that it accepts: the span of a
function, the longest name in front of a span, the five numbers in front of a name. What stands
before the first digit of a line and the blanks at its end never count.
-/

namespace ComplexityLint.Report

open Text

/-! ### Runs and single characters -/

theorem run?_eq_some_iff {p : Char → Bool} {s r rest : List Char} :
    run? p s = some (r, rest) ↔ Filled p r ∧ Stops p rest ∧ s = r ++ rest := by
  constructor
  · intro h
    simp only [run?] at h
    split at h
    · cases h
    · rename_i hne
      cases h
      exact ⟨⟨hne, fun c hc => List.mem_takeWhile_imp hc⟩, stops_dropWhile s,
        List.takeWhile_append_dropWhile.symm⟩
  · rintro ⟨⟨hne, hall⟩, hstop, rfl⟩
    simp only [run?, takeWhile_append_of_stops hall hstop, dropWhile_append_of_stops hall hstop,
      if_neg hne]

theorem run?_eq_none_iff {p : Char → Bool} {s : List Char} : run? p s = none ↔ Stops p s := by
  cases s with
  | nil => simp [run?]
  | cons c s =>
    by_cases h : p c = true
    · simp [run?, h]
    · simp [run?, h]

theorem char?_eq_some_iff {x : Char} {s rest : List Char} :
    char? x s = some rest ↔ s = x :: rest := by
  cases s with
  | nil => simp [char?]
  | cons c s =>
    by_cases h : c = x
    · simp [char?, h]
    · simp [char?, h]

/-! ### Spans -/

/-- A span as it stands in a row. -/
def Span.text (sp : Span) : List Char := '@' :: sp.first ++ ('-' :: sp.last ++ '@' :: sp.path)

/-- The parts of a span are what they should be: two numbers, and a path without blanks. -/
structure Span.Proper (sp : Span) : Prop where
  first : Filled isDigit sp.first
  last : Filled isDigit sp.last
  path : Filled (!isBlank ·) sp.path

/-- A span is read where one is written that ends with the text or at a blank. -/
theorem span?_eq_some_iff {s : List Char} {sp : Span} :
    span? s = some sp ↔ sp.Proper ∧ ∃ post, s = sp.text ++ post ∧ Stops (!isBlank ·) post := by
  simp only [span?, Option.bind_eq_bind, Option.bind_eq_some_iff, Option.pure_def,
    Option.some.injEq, Prod.exists, char?_eq_some_iff, run?_eq_some_iff]
  constructor
  · rintro ⟨s₁, rfl, first, s₂, ⟨hfirst, -, rfl⟩, s₃, rfl, last, s₄, ⟨hlast, -, rfl⟩, s₅, rfl,
      path, post, ⟨hpath, hpost, rfl⟩, rfl⟩
    exact ⟨⟨hfirst, hlast, hpath⟩, post, by simp [Span.text], hpost⟩
  · rintro ⟨⟨hfirst, hlast, hpath⟩, post, rfl, hpost⟩
    refine ⟨_, by simp [Span.text], sp.first, _, ⟨hfirst, ?_, rfl⟩, _, rfl, sp.last, _,
      ⟨hlast, ?_, rfl⟩, _, rfl, sp.path, post, ⟨hpath, hpost, rfl⟩, rfl⟩
    · simpa using isDigit_dash
    · simpa using isDigit_at

theorem span?_nil : span? [] = none := rfl

/-! ### Names -/

/-- A name on the first line of `s` that the span `sp` follows. -/
def Places (s name : List Char) (sp : Span) : Prop :=
  '\n' ∉ name ∧ ∃ rest, s = name ++ rest ∧ span? rest = some sp

theorem places_nil_iff {s : List Char} {sp : Span} : Places s [] sp ↔ span? s = some sp := by
  simp [Places]

theorem places_cons_iff {c d : Char} {s name : List Char} {sp : Span} :
    Places (c :: s) (d :: name) sp ↔ d = c ∧ c ≠ '\n' ∧ Places s name sp := by
  constructor
  · rintro ⟨hn, rest, hs, hrest⟩
    obtain ⟨rfl, rfl⟩ := List.cons.inj hs
    rw [List.mem_cons, not_or] at hn
    exact ⟨rfl, fun h => hn.1 h.symm, hn.2, rest, rfl, hrest⟩
  · rintro ⟨rfl, hd, hn, rest, rfl, hrest⟩
    refine ⟨?_, rest, rfl, hrest⟩
    rw [List.mem_cons, not_or]
    exact ⟨fun h => hd h.symm, hn⟩

theorem not_places_nil {name : List Char} {sp : Span} : ¬ Places [] name sp := by
  rintro ⟨-, rest, hs, hrest⟩
  obtain ⟨-, rfl⟩ := List.append_eq_nil_iff.mp hs.symm
  rw [span?_nil] at hrest
  cases hrest

theorem location?_eq_none_iff {s : List Char} :
    location? s = none ↔ ∀ name sp, ¬ Places s name sp := by
  induction s with
  | nil => exact iff_of_true rfl fun _ _ => not_places_nil
  | cons c s ih =>
    have hnone : location? (c :: s) = none ↔
        (c = '\n' ∨ location? s = none) ∧ span? (c :: s) = none := by
      by_cases hc : c = '\n'
      · simp [location?, hc]
      · cases hl : location? s <;> simp [location?, hc, hl]
    rw [hnone, ih]
    constructor
    · rintro ⟨h1, h2⟩ name sp hp
      cases name with
      | nil => rw [places_nil_iff, h2] at hp; cases hp
      | cons d name =>
        obtain ⟨-, hc, hp⟩ := places_cons_iff.mp hp
        exact (h1.resolve_left hc) name sp hp
    · intro h
      refine ⟨?_, ?_⟩
      · by_cases hc : c = '\n'
        · exact Or.inl hc
        · exact Or.inr fun name sp hp => h (c :: name) sp (places_cons_iff.mpr ⟨rfl, hc, hp⟩)
      · rw [Option.eq_none_iff_forall_ne_some]
        exact fun sp hs => h [] sp (places_nil_iff.mpr hs)

/-- **The longest name.** Of all names that a span follows the longest one is taken. -/
theorem location?_eq_some_iff {s name : List Char} {sp : Span} :
    location? s = some (name, sp) ↔
      Places s name sp ∧ ∀ name' sp', Places s name' sp' → name'.length ≤ name.length := by
  induction s generalizing name sp with
  | nil => exact iff_of_false (by simp [location?]) fun h => not_places_nil h.1
  | cons c s ih =>
    by_cases hgo : c ≠ '\n' ∧ (location? s).isSome
    · -- a span further on: the name goes on with `c`
      obtain ⟨hc, hl⟩ := hgo
      obtain ⟨⟨n, p⟩, hl⟩ := Option.isSome_iff_exists.mp hl
      have hval : location? (c :: s) = some (c :: n, p) := by simp [location?, hc, hl]
      obtain ⟨hp, hmax⟩ := ih.mp hl
      rw [hval]
      constructor
      · rintro ⟨⟩
        refine ⟨places_cons_iff.mpr ⟨rfl, hc, hp⟩, fun name' sp' h' => ?_⟩
        cases name' with
        | nil => simp
        | cons d name' =>
          obtain ⟨-, -, h'⟩ := places_cons_iff.mp h'
          simpa using hmax name' sp' h'
      · rintro ⟨h1, h2⟩
        have hlen := h2 (c :: n) p (places_cons_iff.mpr ⟨rfl, hc, hp⟩)
        cases name with
        | nil => simp at hlen
        | cons d name =>
          obtain ⟨rfl, -, h1⟩ := places_cons_iff.mp h1
          have hname : location? s = some (name, sp) := by
            refine ih.mpr ⟨h1, fun name' sp' h' => ?_⟩
            have := h2 (d :: name') sp' (places_cons_iff.mpr ⟨rfl, hc, h'⟩)
            simpa using this
          rw [hl] at hname
          cases hname
          rfl
    · -- no span further on: the empty name is the only one
      have hnot : ∀ n p, c ≠ '\n' → ¬ Places s n p := by
        intro n p hc
        have hl : location? s = none := by
          simpa using fun h => hgo ⟨hc, h⟩
        exact location?_eq_none_iff.mp hl n p
      have hval : location? (c :: s) = (span? (c :: s)).map ([], ·) := by
        by_cases hc : c = '\n'
        · simp [location?, hc]
        · have hl : location? s = none := location?_eq_none_iff.mpr fun n p => hnot n p hc
          simp [location?, hl]
      have hnil : ∀ n p, Places (c :: s) n p → n = [] := by
        intro n p hp
        cases n with
        | nil => rfl
        | cons d n =>
          obtain ⟨-, hc, hp⟩ := places_cons_iff.mp hp
          exact absurd hp (hnot n p hc)
      rw [hval]
      constructor
      · intro h
        obtain ⟨p, hp, hn⟩ := Option.map_eq_some_iff.mp h
        cases hn
        refine ⟨places_nil_iff.mpr hp, fun n' p' h' => ?_⟩
        rw [hnil n' p' h']
      · rintro ⟨h1, -⟩
        obtain rfl := hnil name sp h1
        rw [places_nil_iff.mp h1]
        rfl

/-! ### Rows -/

/-- The five numbers of a row as they stand in front of its name, with blanks between them and one
space behind them. -/
def Row.Headed (r : Row) (heading : List Char) : Prop :=
  ∃ w₁ w₂ w₃ w₄, heading = r.lines ++ (w₁ ++ (r.complexity ++ (w₂ ++ (r.tokens ++ (w₃ ++
      (r.parameters ++ (w₄ ++ (r.length ++ [' ']))))))))
    ∧ Filled isDigit r.lines ∧ Filled isBlank w₁ ∧ Filled isDigit r.complexity ∧ Filled isBlank w₂
    ∧ Filled isDigit r.tokens ∧ Filled isBlank w₃ ∧ Filled isDigit r.parameters
    ∧ Filled isBlank w₄ ∧ Filled isDigit r.length

theorem column?_eq_some_iff {s n rest : List Char} :
    column? s = some (n, rest) ↔
      ∃ w, s = n ++ (w ++ rest) ∧ Filled isDigit n ∧ Filled isBlank w ∧ Stops isBlank rest := by
  simp only [column?, Option.bind_eq_bind, Option.bind_eq_some_iff, Option.pure_def,
    Option.some.injEq, Prod.exists, Prod.mk.injEq, run?_eq_some_iff]
  constructor
  · rintro ⟨n', s', ⟨hn, -, rfl⟩, w, rest', ⟨hw, hstop, rfl⟩, rfl, rfl⟩
    exact ⟨w, rfl, hn, hw, hstop⟩
  · rintro ⟨w, rfl, hn, hw, hstop⟩
    exact ⟨n, w ++ rest, ⟨hn, .of_filled (fun _ => isDigit_eq_false_of_isBlank) hw, rfl⟩, w, rest,
      ⟨hw, hstop, rfl⟩, rfl, rfl⟩

/-- A row is read where its heading stands and its name and span are the ones that are taken
behind it. -/
theorem Row.at?_eq_some_iff {s : List Char} {r : Row} :
    Row.at? s = some r ↔
      ∃ heading rest, s = heading ++ rest ∧ r.Headed heading ∧
        location? rest = some (r.name, r.span) := by
  simp only [Row.at?, Option.bind_eq_bind, Option.bind_eq_some_iff, Option.pure_def,
    Option.some.injEq, Prod.exists, column?_eq_some_iff, run?_eq_some_iff, char?_eq_some_iff]
  constructor
  · rintro ⟨a, s₁, ⟨w₁, rfl, ha, hw₁, -⟩, b, s₂, ⟨w₂, rfl, hb, hw₂, -⟩, c, s₃, ⟨w₃, rfl, hc, hw₃, -⟩,
      d, s₄, ⟨w₄, rfl, hd, hw₄, -⟩, e, s₅, ⟨he, -, rfl⟩, rest, rfl, name, sp, hloc, rfl⟩
    refine ⟨_, rest, ?_, ⟨w₁, w₂, w₃, w₄, rfl, ha, hw₁, hb, hw₂, hc, hw₃, hd, hw₄, he⟩, hloc⟩
    simp
  · rintro ⟨_, rest, rfl, ⟨w₁, w₂, w₃, w₄, rfl, ha, hw₁, hb, hw₂, hc, hw₃, hd, hw₄, he⟩, hloc⟩
    have next : ∀ {n s}, Filled isDigit n → Stops isBlank (n ++ s) :=
      Stops.of_filled fun _ => isBlank_eq_false_of_isDigit
    refine ⟨r.lines, _, ⟨w₁, ?_, ha, hw₁, next hb⟩, r.complexity, _, ⟨w₂, rfl, hb, hw₂, next hc⟩,
      r.tokens, _, ⟨w₃, rfl, hc, hw₃, next hd⟩, r.parameters, _, ⟨w₄, rfl, hd, hw₄, next he⟩,
      r.length, ' ' :: rest, ⟨he, by simpa using isDigit_space, rfl⟩, rest, rfl, r.name, r.span,
      hloc, rfl⟩
    simp

/-- A row begins with a digit. -/
theorem Row.at?_cons_of_not_digit {c : Char} {s : List Char} (h : isDigit c = false) :
    Row.at? (c :: s) = none := by
  have hcol : column? (c :: s) = none := by simp [column?, run?_eq_none_iff.mpr (stops_cons.mpr h)]
  simp [Row.at?, hcol]

theorem Row.find?_cons (c : Char) (s : List Char) :
    Row.find? (c :: s) = (Row.at? (c :: s)).or (Row.find? s) := by
  cases h : Row.at? (c :: s) <;> simp [Row.find?, h]

/-- Text without digits in front of a row does not matter. -/
theorem Row.find?_append_of_not_digit {pre : List Char} (h : ∀ c ∈ pre, isDigit c = false)
    (s : List Char) : Row.find? (pre ++ s) = Row.find? s := by
  induction pre with
  | nil => rfl
  | cons c pre ih =>
    rw [List.cons_append, Row.find?_cons, Row.at?_cons_of_not_digit (h c (by simp)),
      ih fun d hd => h d (by simp [hd])]
    rfl

theorem Row.find?_eq_none_of_not_digit {s : List Char} (h : ∀ c ∈ s, isDigit c = false) :
    Row.find? s = none := by
  have := Row.find?_append_of_not_digit h []
  rwa [List.append_nil] at this

/-- The row that is found was read somewhere. -/
theorem Row.exists_at?_of_find? {s : List Char} {r : Row} (h : Row.find? s = some r) :
    ∃ pre rest, s = pre ++ rest ∧ Row.at? rest = some r := by
  induction s with
  | nil => simp [Row.find?] at h
  | cons c s ih =>
    rw [Row.find?_cons, Option.or_eq_some_iff] at h
    rcases h with h | ⟨-, h⟩
    · exact ⟨[], c :: s, rfl, h⟩
    · obtain ⟨pre, rest, rfl, hr⟩ := ih h
      exact ⟨c :: pre, rest, rfl, hr⟩

/-! ### Blanks at the ends of a line -/

/-- The end of a text that is longer by one character: nothing, or it is longer by that character. -/
theorem eq_nil_or_of_append_eq {s pre rest : List Char} {c : Char} (h : s ++ [c] = pre ++ rest) :
    rest = [] ∨ ∃ rest', rest = rest' ++ [c] ∧ s = pre ++ rest' := by
  rcases List.eq_nil_or_concat rest with rfl | ⟨rest, d, rfl⟩
  · exact Or.inl rfl
  · rw [List.concat_eq_append] at h ⊢
    rw [← List.append_assoc] at h
    obtain ⟨rfl, hcd⟩ := List.append_inj' h rfl
    exact Or.inr ⟨rest, by rw [hcd], rfl⟩

section Blanks

variable {c : Char} (hc : isBlank c = true)
include hc

/-- A blank at the end is no part of a span. -/
theorem span?_append_blank (s : List Char) : span? (s ++ [c]) = span? s := by
  apply Option.ext
  intro sp
  rw [span?_eq_some_iff, span?_eq_some_iff]
  refine and_congr_right fun hsp => ⟨?_, ?_⟩
  · rintro ⟨post, hs, hpost⟩
    rcases eq_nil_or_of_append_eq hs with rfl | ⟨post, rfl, rfl⟩
    · -- the path would end with the blank
      obtain ⟨hne, hall⟩ := hsp.path
      obtain ⟨path, d, hpath⟩ := (List.eq_nil_or_concat sp.path).resolve_left hne
      have hd : isBlank d = false := by simpa using hall d (by simp [hpath])
      have hlast : s ++ [c] = '@' :: sp.first ++ ('-' :: sp.last ++ '@' :: path) ++ [d] := by
        rw [hs]
        simp [Span.text, hpath]
      obtain ⟨-, hcd⟩ := List.append_inj' hlast rfl
      cases hcd
      rw [hc] at hd
      cases hd
    · refine ⟨post, rfl, ?_⟩
      by_cases hp : post = []
      · simp [hp]
      · exact hpost.append_left hp
  · rintro ⟨post, rfl, hpost⟩
    refine ⟨post ++ [c], by simp, ?_⟩
    by_cases hp : post = []
    · simpa [hp] using hc
    · exact hpost.append hp

theorem places_append_blank {s name : List Char} {sp : Span} :
    Places (s ++ [c]) name sp ↔ Places s name sp := by
  refine and_congr_right fun _ => ⟨?_, ?_⟩
  · rintro ⟨rest, hs, hrest⟩
    rcases eq_nil_or_of_append_eq hs with rfl | ⟨rest, rfl, rfl⟩
    · rw [span?_nil] at hrest
      cases hrest
    · exact ⟨rest, rfl, by rwa [span?_append_blank hc] at hrest⟩
  · rintro ⟨rest, rfl, hrest⟩
    exact ⟨rest ++ [c], by simp, by rwa [span?_append_blank hc]⟩

theorem location?_append_blank (s : List Char) : location? (s ++ [c]) = location? s := by
  apply Option.ext
  rintro ⟨name, sp⟩
  simp only [location?_eq_some_iff, places_append_blank hc]

theorem Row.at?_append_blank (s : List Char) : Row.at? (s ++ [c]) = Row.at? s := by
  apply Option.ext
  intro r
  rw [Row.at?_eq_some_iff, Row.at?_eq_some_iff]
  constructor
  · rintro ⟨heading, rest, hs, hr, hloc⟩
    rcases eq_nil_or_of_append_eq hs with rfl | ⟨rest, rfl, rfl⟩
    · cases hloc
    · exact ⟨heading, rest, rfl, hr, by rwa [location?_append_blank hc] at hloc⟩
  · rintro ⟨heading, rest, rfl, hr, hloc⟩
    exact ⟨heading, rest ++ [c], by simp, hr, by rwa [location?_append_blank hc]⟩

theorem Row.find?_append_blank (s : List Char) : Row.find? (s ++ [c]) = Row.find? s := by
  have hd : isDigit c = false := isDigit_eq_false_of_isBlank hc
  induction s with
  | nil => exact Row.find?_eq_none_of_not_digit (by simpa using hd)
  | cons x s ih =>
    rw [List.cons_append, Row.find?_cons, Row.find?_cons, ih, ← List.cons_append,
      Row.at?_append_blank hc]

/-- A blank at the end of a line does not change its record. -/
theorem record?_append_blank (s : List Char) : record? (s ++ [c]) = record? s := by
  rw [record?, record?, Row.find?_append_blank hc]

/-- A blank in front of a line does not change its record. -/
theorem record?_cons_blank (s : List Char) : record? (c :: s) = record? s := by
  rw [record?, record?, Row.find?_cons,
    Row.at?_cons_of_not_digit (isDigit_eq_false_of_isBlank hc), Option.none_or]

end Blanks

/-- A line of blanks holds no record. -/
theorem record?_eq_none_of_blank {s : List Char} (h : ∀ c ∈ s, isBlank c = true) :
    record? s = none := by
  rw [record?, Row.find?_eq_none_of_not_digit fun c hc => isDigit_eq_false_of_isBlank (h c hc)]
  rfl

end ComplexityLint.Report
