import ComplexityLint.Proofs.Report.RowPattern
import ComplexityLint.Proofs.Text.Pieces
import ComplexityLint.Report.Body

/-!
Where the table of a report stands. The pattern

    (?s)-+(.*?)1 file analyzed

hands over what is enclosed by the first run of dashes and the first marker behind it, and trimming
the table and dropping its blank lines never changes a record.
-/

namespace ComplexityLint.Report

open Text Text.Pattern Text.Part

/-- The pattern of the table. -/
def bodyPattern : Pattern :=
  skip (.many1 (· = '-')) :: group (.few fun _ => true) :: ofWord marker

/-- The table that the pattern finds. -/
def bodyOfPattern? (report : List Char) : Option (List Char) :=
  (bodyPattern.find? report).bind (·.head?)

/-- The records of a report by the patterns of its table and its rows. The table is trimmed, and
blank lines are dropped, before the rows are looked for. -/
def parseByPatterns (report : String) : List FunctionRecord :=
  match bodyOfPattern? report.toList with
  | none => []
  | some body =>
    ((pieces '\n' (trim body)).filter fun line => trim line ≠ []).filterMap fun line =>
      (rowOfPattern? line).bind Row.record?

/-- A report encloses a table: the table stands between the first run of dashes and the first
marker at or behind the end of that run. -/
def Encloses (report body : List Char) : Prop :=
  ∃ before n after,
    report = before ++ (List.replicate (n + 1) '-' ++ (body ++ (marker ++ after)))
      ∧ '-' ∉ before ∧ body.head? ≠ some '-'
      ∧ ∀ k < body.length, ¬ marker <+: (body ++ (marker ++ after)).drop k

/-- The records on the lines of a text. -/
def rows (body : List Char) : List FunctionRecord := (pieces '\n' body).filterMap record?

/-! ### Trimming a table -/

section Blanks

variable {c : Char} (hc : isBlank c = true)
include hc

theorem rows_cons_blank (body : List Char) : rows (c :: body) = rows body := by
  by_cases hn : c = '\n'
  · subst hn
    have hnil : record? [] = none := rfl
    rw [rows, pieces_cons_sep, List.filterMap_cons_none hnil, rows]
  · obtain ⟨p, ps, hbody, hcons⟩ := exists_pieces_cons hn body
    rw [rows, rows, hcons, hbody, List.filterMap_cons, List.filterMap_cons,
      record?_cons_blank hc]

theorem rows_append_blank (body : List Char) : rows (body ++ [c]) = rows body := by
  by_cases hn : c = '\n'
  · subst hn
    have hnil : [[]].filterMap record? = [] := rfl
    rw [rows, pieces_append_sep, List.filterMap_append, rows]
    exact (congrArg _ hnil).trans (List.append_nil _)
  · obtain ⟨ps, p, hbody, hsnoc⟩ := exists_pieces_append hn body
    rw [rows, rows, hsnoc, hbody, List.filterMap_append, List.filterMap_append,
      List.filterMap_cons, List.filterMap_cons, record?_append_blank hc]

end Blanks

theorem rows_blanks_append {l : List Char} (hl : ∀ c ∈ l, isBlank c = true) (body : List Char) :
    rows (l ++ body) = rows body := by
  induction l with
  | nil => rfl
  | cons c l ih =>
    rw [List.cons_append, rows_cons_blank (hl c (by simp)), ih fun d hd => hl d (by simp [hd])]

theorem rows_append_blanks {r : List Char} (hr : ∀ c ∈ r, isBlank c = true) (body : List Char) :
    rows (body ++ r) = rows body := by
  induction r generalizing body with
  | nil => rw [List.append_nil]
  | cons c r ih =>
    rw [List.append_cons, ih fun d hd => hr d (by simp [hd]), rows_append_blank (hr c (by simp))]

/-- **Trimming.** The records of a table are those of its lines as they stand. -/
theorem records_eq_rows (body : List Char) : records body = rows body := by
  have hfilter : ∀ lines : List (List Char),
      (lines.filter fun line => trim line ≠ []).filterMap record? = lines.filterMap record? := by
    intro lines
    induction lines with
    | nil => rfl
    | cons line lines ih =>
      by_cases h : trim line = []
      · have hnone : record? line = none := record?_eq_none_of_blank (isBlank_of_trim_eq_nil h)
        rw [List.filter_cons_of_neg (by simp [h]), List.filterMap_cons_none hnone, ih]
      · rw [List.filter_cons_of_pos (by simp [h]), List.filterMap_cons, List.filterMap_cons, ih]
  obtain ⟨l, r, hl, hr, hbody⟩ := exists_trim body
  rw [records, hfilter, ← rows, ← rows_append_blanks hr (trim body), ← rows_blanks_append hl,
    ← hbody]

/-! ### The first run of dashes -/

/-- A report without dashes, or its first run of them. -/
theorem exists_dashes (report : List Char) :
    '-' ∉ report ∨ ∃ before n rest, report = before ++ (List.replicate (n + 1) '-' ++ rest)
      ∧ '-' ∉ before ∧ rest.head? ≠ some '-' := by
  induction report with
  | nil => exact Or.inl (by simp)
  | cons c s ih =>
    by_cases hc : c = '-'
    · subst hc
      refine Or.inr ⟨[], ?_⟩
      rcases ih with h | ⟨before, n, rest, hs, hb, hr⟩
      · refine ⟨0, s, rfl, by simp, fun hhead => h (List.mem_of_mem_head? hhead)⟩
      · cases before with
        | nil => exact ⟨n + 1, rest, by rw [hs]; rfl, by simp, hr⟩
        | cons d before =>
          refine ⟨0, s, rfl, by simp, fun hhead => hb ?_⟩
          rw [hs] at hhead
          cases hhead
          simp
    · rcases ih with h | ⟨before, n, rest, hs, hb, hr⟩
      · exact Or.inl (by simp [h, Ne.symm hc])
      · exact Or.inr ⟨c :: before, n, rest, by rw [hs]; rfl, by simp [hb, Ne.symm hc], hr⟩

section Dashes

variable {before rest : List Char} {n : ℕ}

theorem filled_dashes (n : ℕ) : Filled (· = '-') (List.replicate (n + 1) '-') :=
  ⟨by simp, fun c hc => by simpa using List.eq_of_mem_replicate hc⟩

theorem stops_of_head?_ne (h : rest.head? ≠ some '-') : Stops (· = '-') rest := by
  intro c hc
  rw [decide_eq_false_iff_not]
  rintro rfl
  exact h hc

theorem body?_of_notMem {report : List Char} (h : '-' ∉ report) : body? report = none := by
  have hnil : report.dropWhile (fun c => decide (c ≠ '-')) = [] := by
    rw [List.dropWhile_eq_nil_iff]
    intro c hc
    rw [decide_eq_true_eq]
    rintro rfl
    exact h hc
  rw [body?, hnil]

/-- The table is looked for behind the first run of dashes. -/
theorem body?_of_dashes (hb : '-' ∉ before) (hr : rest.head? ≠ some '-') :
    body? (before ++ (List.replicate (n + 1) '-' ++ rest)) = before? marker rest := by
  have hfront : ∀ c ∈ before, decide (c ≠ '-') = true := by
    intro c hc
    rw [decide_eq_true_eq]
    rintro rfl
    exact hb hc
  have hrun : (List.replicate (n + 1) '-' ++ rest).dropWhile (fun c => decide (c = '-')) = rest :=
    dropWhile_append_of_stops (filled_dashes n).2 (stops_of_head?_ne hr)
  have hstop : Stops (fun c => decide (c ≠ '-')) (List.replicate (n + 1) '-' ++ rest) := by
    rw [List.replicate_succ, List.cons_append, stops_cons]
    decide
  rw [body?, dropWhile_append_of_stops hfront hstop]
  exact congrArg (before? marker) hrun

/-! ### Finding the table -/

theorem at?_bodyPattern_of_ne {c : Char} (h : c ≠ '-') (s : List Char) :
    at? bodyPattern (c :: s) = none := by
  rw [at?, bodyPattern, ways_many1_cons_of_neg (by simpa using h), List.head?_nil]

/-- A marker holds no dash, so it does not begin in a run of dashes. -/
theorem marker_infix_of_dashes (h : marker <:+: List.replicate n '-' ++ rest) :
    marker <:+: rest := by
  induction n with
  | zero => exact h
  | succ n ih =>
    rw [List.replicate_succ, List.cons_append, List.infix_cons_iff] at h
    rcases h with ⟨t, ht⟩ | h
    · cases congrArg List.head? ht
    · exact ih h

/-- Where the pattern of the table matches there is a marker. -/
theorem marker_infix_of_at? {s : List Char} {groups : List (List Char)}
    (h : at? bodyPattern s = some groups) : marker <:+: s := by
  obtain ⟨tail, groups', htail, hat⟩ := exists_suffix_of_at?_many1 h
  rw [at?_few_ofWord, Option.map_eq_some_iff] at hat
  obtain ⟨body, hbody, -⟩ := hat
  obtain ⟨after, rfl, -⟩ := before?_eq_some_iff.mp hbody
  exact List.IsInfix.trans ⟨body, after, by simp⟩ htail.isInfix

theorem find?_bodyPattern_of_notMem {report : List Char} (h : '-' ∉ report) :
    bodyPattern.find? report = none := by
  have hfront : bodyPattern.find? (report ++ []) = bodyPattern.find? [] :=
    find?_append_of_forall fun c hc => at?_bodyPattern_of_ne fun he => h (he ▸ hc)
  rw [List.append_nil] at hfront
  exact hfront

/-- Neither a shorter run of dashes nor a later start lets the pattern match when the first run of
dashes, taken whole, does not. -/
theorem find?_bodyPattern_of_dashes (hb : '-' ∉ before) (hr : rest.head? ≠ some '-') :
    bodyPattern.find? (before ++ (List.replicate (n + 1) '-' ++ rest)) =
      (before? marker rest).map ([·]) := by
  rw [find?_append_of_forall fun c hc => at?_bodyPattern_of_ne fun he => hb (he ▸ hc)]
  cases hm : before? marker rest with
  | some body =>
    have hat : at? (group (.few fun _ => true) :: ofWord marker) rest = some [body] := by
      rw [at?_few_ofWord, hm, Option.map_some]
    have hrun := at?_many1_of_some (k := false) (filled_dashes n) (stops_of_head?_ne hr) hat
    rw [List.replicate_succ, List.cons_append, Pattern.find?, bodyPattern, ← List.cons_append,
      ← List.replicate_succ, hrun]
    rfl
  | none =>
    rw [Option.map_none, Option.eq_none_iff_forall_ne_some]
    intro groups hfind
    obtain ⟨tail, htail, hat⟩ := exists_suffix_of_find? hfind
    have hin : marker <:+: List.replicate (n + 1) '-' ++ rest :=
      (marker_infix_of_at? hat).trans htail.isInfix
    exact before?_eq_none_iff.mp hm (marker_infix_of_dashes hin)

end Dashes

/-- **The reader of the table finds what its pattern finds.** -/
theorem bodyOfPattern?_eq_body? (report : List Char) : bodyOfPattern? report = body? report := by
  rcases exists_dashes report with h | ⟨before, n, rest, rfl, hb, hr⟩
  · rw [bodyOfPattern?, find?_bodyPattern_of_notMem h, body?_of_notMem h]
    rfl
  · rw [bodyOfPattern?, find?_bodyPattern_of_dashes hb hr, body?_of_dashes hb hr]
    cases before? marker rest <;> rfl

/-- **The table is what the report encloses.** -/
theorem body?_eq_some_iff {report body : List Char} :
    body? report = some body ↔ Encloses report body := by
  constructor
  · intro h
    rcases exists_dashes report with hno | ⟨before, n, rest, rfl, hb, hr⟩
    · rw [body?_of_notMem hno] at h
      cases h
    · rw [body?_of_dashes hb hr] at h
      obtain ⟨after, rfl, hfirst⟩ := before?_eq_some_iff.mp h
      refine ⟨before, n, after, rfl, hb, fun hhead => hr ?_, hfirst⟩
      rw [List.head?_append, hhead]
      rfl
  · rintro ⟨before, n, after, rfl, hb, hhead, hfirst⟩
    have hr : (body ++ (marker ++ after)).head? ≠ some '-' := by
      cases body with
      | nil => exact fun h => nomatch h
      | cons c body => exact hhead
    rw [body?_of_dashes hb hr]
    exact before?_eq_some_iff.mpr ⟨after, rfl, hfirst⟩

theorem parse_eq_rows {report : String} {body : List Char} (h : Encloses report.toList body) :
    parse report = rows body := by
  rw [parse, body?_eq_some_iff.mpr h]
  exact records_eq_rows body

/-- **A report is scanned plainly.** Its two patterns, the trimming and the dropping of blank lines
come to this: the records are those of the lines that the report encloses, and there are none if it
encloses nothing. What stands outside of the table never counts. -/
theorem parse_eq_scan (report : String) :
    parse report = parseByPatterns report
      ∧ (∀ body, Encloses report.toList body → parse report = (pieces '\n' body).filterMap record?)
      ∧ ((¬ ∃ body, Encloses report.toList body) → parse report = [])
      ∧ ∀ (body : List Char) (other : String), Encloses report.toList body →
          Encloses other.toList body → parse other = parse report := by
  refine ⟨?_, fun body h => parse_eq_rows h, fun h => ?_, fun body other h h' => ?_⟩
  · rw [parse, parseByPatterns, bodyOfPattern?_eq_body?]
    simp only [rowOfPattern?_eq_find?]
    rfl
  · have hnone : body? report.toList = none :=
      Option.eq_none_iff_forall_ne_some.mpr fun body hb => h ⟨body, body?_eq_some_iff.mp hb⟩
    rw [parse, hnone]
  · rw [parse_eq_rows h, parse_eq_rows h']

/-- Dashes and words that come after the first table count for nothing. -/
theorem parse_eq_scan_of_two_tables :
    let report :=
      "NLOC\n--- 1 2 3 0 5 f@6-7@a-b.c\n1 file analyzed. -9 9 9 9 9 g@9-9@b\n1 file analyzed"
    let other := "-- 1 2 3 0 5 f@6-7@a-b.c\n1 file analyzed"
    let body := " 1 2 3 0 5 f@6-7@a-b.c\n".toList
    Encloses report.toList body ∧ Encloses other.toList body ∧
      parse report = [⟨"f", "a-b.c", 2, 3, 0, 1, 6, 7⟩] ∧ parse other = parse report ∧
      parse "1 file analyzed --" = [] := by
  intro report other body
  have h : Encloses report.toList body := body?_eq_some_iff.mp (by decide +kernel)
  have h' : Encloses other.toList body := body?_eq_some_iff.mp (by decide +kernel)
  have hnone : ¬ ∃ body, Encloses "1 file analyzed --".toList body := fun ⟨body, hbody⟩ => by
    have hsome := body?_eq_some_iff.mpr hbody
    rw [show body? "1 file analyzed --".toList = none by decide +kernel] at hsome
    cases hsome
  exact ⟨h, h', ((parse_eq_scan report).2.1 body h).trans (by decide +kernel),
    (parse_eq_scan report).2.2.2 body other h h', (parse_eq_scan _).2.2.1 hnone⟩

end ComplexityLint.Report
