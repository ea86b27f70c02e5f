import ComplexityLint.Proofs.Report.RoundTrip

/-!
The ways to read a line. A reading cuts a line into the parts of a row and what stands before, between
and behind them, and most lines that can be read can be read in several ways. The row that is found is
that of the reading which starts first and, of those, has the longest name; there is one such reading
(`find?_eq_some_iff_chosen`). If one of its numbers is no word of 32 bits, the line has no record,
whatever its other readings are (`record?_of_readings`).
-/

namespace ComplexityLint.Report

open Text

/-- A row in a line, with the text before it, between its first five numbers and behind it. -/
structure Reading where
  before : List Char
  row : Row
  gap₁ : List Char
  gap₂ : List Char
  gap₃ : List Char
  gap₄ : List Char
  behind : List Char

namespace Reading

/-- The five numbers with the gaps between them, and the space behind them. -/
def heading (rd : Reading) : List Char :=
  rd.row.lines ++ (rd.gap₁ ++ (rd.row.complexity ++ (rd.gap₂ ++ (rd.row.tokens ++ (rd.gap₃ ++
    (rd.row.parameters ++ (rd.gap₄ ++ (rd.row.length ++ [' ']))))))))

/-- The line that is read. -/
def text (rd : Reading) : List Char :=
  rd.before ++ (rd.heading ++ (rd.row.name ++ (rd.row.span.text ++ rd.behind)))

/-- A line can be read in this way. -/
structure Reads (rd : Reading) (line : List Char) : Prop where
  text : line = rd.text
  numbers : ∀ n ∈ [rd.row.lines, rd.row.complexity, rd.row.tokens, rd.row.parameters,
    rd.row.length], Filled isDigit n
  gaps : ∀ w ∈ [rd.gap₁, rd.gap₂, rd.gap₃, rd.gap₄], Filled isBlank w
  name : '\n' ∉ rd.row.name
  span : rd.row.span.Proper
  behind : Stops (!isBlank ·) rd.behind

/-- No reading of the line starts earlier, and none that starts there has a longer name. -/
structure Chosen (rd : Reading) (line : List Char) : Prop where
  reads : rd.Reads line
  first : ∀ rd' : Reading, rd'.Reads line → rd.before.length ≤ rd'.before.length
  longest : ∀ rd' : Reading, rd'.Reads line → rd'.before.length = rd.before.length →
    rd'.row.name.length ≤ rd.row.name.length

/-! ### A reading is known by its start and the length of its name -/

/-- A number and the gap behind it, in front of another number. -/
theorem column_inj {n w m s n' w' m' s' : List Char} (hn : Filled isDigit n) (hw : Filled isBlank w)
    (hm : Filled isDigit m) (hn' : Filled isDigit n') (hw' : Filled isBlank w')
    (hm' : Filled isDigit m') (h : n ++ (w ++ (m ++ s)) = n' ++ (w' ++ (m' ++ s'))) :
    n = n' ∧ w = w' ∧ m ++ s = m' ++ s' := by
  have digit : ∀ {c}, isBlank c = true → isDigit c = false := isDigit_eq_false_of_isBlank
  have blank : ∀ {c}, isDigit c = true → isBlank c = false := isBlank_eq_false_of_isDigit
  obtain ⟨hnn, hrest⟩ := filled_append_inj hn (.of_filled (fun _ => digit) hw) hn'
    (.of_filled (fun _ => digit) hw') h
  obtain ⟨hww, hrest⟩ := filled_append_inj hw (.of_filled (fun _ => blank) hm) hw'
    (.of_filled (fun _ => blank) hm') hrest
  exact ⟨hnn, hww, hrest⟩

/-- What stands in the columns of a reading, and between them. -/
theorem Reads.columns {rd : Reading} {line : List Char} (h : rd.Reads line) :
    (Filled isDigit rd.row.lines ∧ Filled isDigit rd.row.complexity ∧ Filled isDigit rd.row.tokens ∧
      Filled isDigit rd.row.parameters ∧ Filled isDigit rd.row.length) ∧
    Filled isBlank rd.gap₁ ∧ Filled isBlank rd.gap₂ ∧ Filled isBlank rd.gap₃ ∧
      Filled isBlank rd.gap₄ := by
  have hnumbers := h.numbers
  have hgaps := h.gaps
  simp only [List.forall_mem_cons, List.not_mem_nil, false_implies, implies_true, and_true]
    at hnumbers hgaps
  exact ⟨hnumbers, hgaps⟩

theorem eq_of_reads {rd rd' : Reading} {line : List Char} (h : rd.Reads line) (h' : rd'.Reads line)
    (hbefore : rd'.before.length = rd.before.length)
    (hname : rd'.row.name.length = rd.row.name.length) : rd' = rd := by
  obtain ⟨before, ⟨a, b, c, d, e, name, span⟩, w₁, w₂, w₃, w₄, behind⟩ := rd
  obtain ⟨before', ⟨a', b', c', d', e', name', span'⟩, w₁', w₂', w₃', w₄', behind'⟩ := rd'
  have hcolumns := h.columns
  have hcolumns' := h'.columns
  dsimp only at hcolumns hcolumns'
  obtain ⟨⟨ha, hb, hc, hd, he⟩, hw₁, hw₂, hw₃, hw₄⟩ := hcolumns
  obtain ⟨⟨ha', hb', hc', hd', he'⟩, hw₁', hw₂', hw₃', hw₄'⟩ := hcolumns'
  obtain ⟨htext, -, -, -, hspan, hbehind⟩ := h
  obtain ⟨htext', -, -, -, hspan', hbehind'⟩ := h'
  rw [htext, text, text, heading, heading] at htext'
  simp only [List.append_assoc] at htext'
  -- from the start on, each part ends where the next one begins
  obtain ⟨rfl, h₀⟩ := List.append_inj htext' hbefore.symm
  obtain ⟨rfl, rfl, h₁⟩ := column_inj ha hw₁ hb ha' hw₁' hb' h₀
  obtain ⟨rfl, rfl, h₂⟩ := column_inj hb hw₂ hc hb' hw₂' hc' h₁
  obtain ⟨rfl, rfl, h₃⟩ := column_inj hc hw₃ hd hc' hw₃' hd' h₂
  obtain ⟨rfl, rfl, h₄⟩ := column_inj hd hw₄ he hd' hw₄' he' h₃
  have hspace : ∀ {s}, Stops isDigit ([' '] ++ s) := stops_cons.mpr isDigit_space
  obtain ⟨rfl, h₅⟩ := filled_append_inj he hspace he' hspace h₄
  obtain ⟨rfl, hrest⟩ := List.append_inj (List.append_cancel_left h₅) hname.symm
  have hread : span? (span.text ++ behind) = some span :=
    span?_eq_some_iff.mpr ⟨hspan, behind, rfl, hbehind⟩
  have hread' : span? (span'.text ++ behind') = some span' :=
    span?_eq_some_iff.mpr ⟨hspan', behind', rfl, hbehind'⟩
  rw [hrest, hread'] at hread
  cases hread
  rw [List.append_cancel_left_eq] at hrest
  rw [hrest]

theorem Chosen.eq {rd rd' : Reading} {line : List Char} (h : rd.Chosen line)
    (h' : rd'.Chosen line) : rd' = rd := by
  have hbefore : rd'.before.length = rd.before.length :=
    le_antisymm (h'.first rd h.reads) (h.first rd' h'.reads)
  have hname : rd'.row.name.length = rd.row.name.length :=
    le_antisymm (h.longest rd' h'.reads hbefore) (h'.longest rd h.reads hbefore.symm)
  exact eq_of_reads h.reads h'.reads hbefore hname

/-! ### Readings that start with the line -/

theorem headed {rd : Reading} {line : List Char} (h : rd.Reads line) :
    rd.row.Headed rd.heading := by
  obtain ⟨⟨ha, hb, hc, hd, he⟩, hw₁, hw₂, hw₃, hw₄⟩ := h.columns
  exact ⟨rd.gap₁, rd.gap₂, rd.gap₃, rd.gap₄, rfl, ha, hw₁, hb, hw₂, hc, hw₃, hd, hw₄, he⟩

theorem exists_reads_of_at? {s : List Char} {r : Row} (h : Row.at? s = some r) :
    ∃ rd : Reading, rd.Reads s ∧ rd.before = [] ∧ rd.row = r := by
  obtain ⟨_, rest, rfl, ⟨w₁, w₂, w₃, w₄, rfl, ha, hw₁, hb, hw₂, hc, hw₃, hd, hw₄, he⟩, hloc⟩ :=
    Row.at?_eq_some_iff.mp h
  obtain ⟨⟨hname, tail, rfl, htail⟩, -⟩ := location?_eq_some_iff.mp hloc
  obtain ⟨hspan, post, rfl, hpost⟩ := span?_eq_some_iff.mp htail
  refine ⟨⟨[], r, w₁, w₂, w₃, w₄, post⟩, ⟨rfl, ?_, ?_, hname, hspan, hpost⟩, rfl, rfl⟩
  · simp only [List.forall_mem_cons, List.not_mem_nil, false_implies, implies_true, and_true]
    exact ⟨ha, hb, hc, hd, he⟩
  · simp only [List.forall_mem_cons, List.not_mem_nil, false_implies, implies_true, and_true]
    exact ⟨hw₁, hw₂, hw₃, hw₄⟩

/-- Where a reading starts, a row is read, and its name is no shorter. -/
theorem exists_at?_of_reads {rd : Reading} {s : List Char} (h : rd.Reads s)
    (hbefore : rd.before = []) :
    ∃ r, Row.at? s = some r ∧ rd.row.name.length ≤ r.name.length := by
  have hplaces : Places (rd.row.name ++ (rd.row.span.text ++ rd.behind)) rd.row.name rd.row.span :=
    ⟨h.name, _, rfl, span?_eq_some_iff.mpr ⟨h.span, rd.behind, rfl, h.behind⟩⟩
  obtain ⟨⟨name, span⟩, hloc⟩ : ∃ x, location? (rd.row.name ++ (rd.row.span.text ++ rd.behind)) =
      some x := by
    refine Option.ne_none_iff_exists'.mp fun hnone => ?_
    exact location?_eq_none_iff.mp hnone _ _ hplaces
  have hlonger : rd.row.name.length ≤ name.length :=
    (location?_eq_some_iff.mp hloc).2 _ _ hplaces
  refine ⟨{ rd.row with name := name, span := span }, ?_, hlonger⟩
  refine Row.at?_eq_some_iff.mpr ⟨rd.heading, _, ?_, headed h, hloc⟩
  rw [h.text, text, hbefore, List.nil_append]

/-! ### Readings that start later -/

theorem reads_cons {rd : Reading} {s : List Char} (c : Char) (h : rd.Reads s) :
    { rd with before := c :: rd.before }.Reads (c :: s) := by
  refine ⟨?_, h.numbers, h.gaps, h.name, h.span, h.behind⟩
  rw [h.text]
  rfl

/-- A reading that does not start with the line is one of the rest of it. -/
theorem exists_reads_tail {rd : Reading} {c : Char} {s : List Char} (h : rd.Reads (c :: s))
    (hbefore : rd.before ≠ []) :
    ∃ before, rd.before = c :: before ∧ { rd with before := before }.Reads s := by
  obtain ⟨d, before, hcons⟩ := List.exists_cons_of_ne_nil hbefore
  have htext := h.text
  rw [text, hcons, List.cons_append] at htext
  obtain ⟨rfl, hs⟩ := List.cons.inj htext
  exact ⟨before, hcons, hs, h.numbers, h.gaps, h.name, h.span, h.behind⟩

/-- A line that can be read has a row. -/
theorem exists_find?_of_reads {rd : Reading} {s : List Char} (h : rd.Reads s) :
    ∃ r, Row.find? s = some r := by
  induction s generalizing rd with
  | nil =>
    have hnil : rd.row.lines = [] := by
      have htext := h.text
      rw [text, heading] at htext
      simp at htext
    exact absurd hnil (h.numbers _ List.mem_cons_self).1
  | cons c s ih =>
    rw [Row.find?_cons]
    by_cases hbefore : rd.before = []
    · obtain ⟨r, hr, -⟩ := exists_at?_of_reads h hbefore
      exact ⟨r, by rw [hr]; rfl⟩
    · obtain ⟨before, -, htail⟩ := exists_reads_tail h hbefore
      obtain ⟨r, hr⟩ := ih htail
      cases hat : Row.at? (c :: s) with
      | none => exact ⟨r, hr⟩
      | some r' => exact ⟨r', rfl⟩

/-- The row that is found is that of a chosen reading. -/
theorem exists_chosen_of_find? {s : List Char} {r : Row} (h : Row.find? s = some r) :
    ∃ rd : Reading, rd.Chosen s ∧ rd.row = r := by
  induction s with
  | nil => cases h
  | cons c s ih =>
    rw [Row.find?_cons] at h
    cases hat : Row.at? (c :: s) with
    | some r' =>
      rw [hat] at h
      cases h
      obtain ⟨rd, hreads, hbefore, rfl⟩ := exists_reads_of_at? hat
      refine ⟨rd, ⟨hreads, fun rd' _ => by simp [hbefore], fun rd' hreads' hlen => ?_⟩, rfl⟩
      have hbefore' : rd'.before = [] := by simpa [hbefore] using hlen
      obtain ⟨r', hr', hle⟩ := exists_at?_of_reads hreads' hbefore'
      rw [hat] at hr'
      cases hr'
      exact hle
    | none =>
      rw [hat, Option.none_or] at h
      obtain ⟨rd, ⟨hreads, hfirst, hlongest⟩, rfl⟩ := ih h
      -- no reading starts with the line, so each of them is one of the rest
      have htail : ∀ rd' : Reading, rd'.Reads (c :: s) →
          ∃ before, rd'.before = c :: before ∧ { rd' with before := before }.Reads s := by
        intro rd' hreads'
        refine exists_reads_tail hreads' fun hnil => ?_
        obtain ⟨r', hr', -⟩ := exists_at?_of_reads hreads' hnil
        rw [hat] at hr'
        cases hr'
      refine ⟨{ rd with before := c :: rd.before }, ⟨reads_cons c hreads, ?_, ?_⟩, rfl⟩
      · intro rd' hreads'
        obtain ⟨before, hcons, hrest⟩ := htail rd' hreads'
        have hle : rd.before.length ≤ before.length := hfirst _ hrest
        rw [hcons]
        exact Nat.succ_le_succ hle
      · intro rd' hreads' hlen
        obtain ⟨before, hcons, hrest⟩ := htail rd' hreads'
        rw [hcons] at hlen
        exact hlongest { rd' with before := before } hrest (Nat.succ.inj hlen)

end Reading

/-- **The row of the chosen reading.** A line has a row exactly if it can be read. -/
theorem find?_eq_some_iff_chosen {s : List Char} {r : Row} :
    Row.find? s = some r ↔ ∃ rd : Reading, rd.Chosen s ∧ rd.row = r := by
  constructor
  · exact Reading.exists_chosen_of_find?
  · rintro ⟨rd, hrd, rfl⟩
    obtain ⟨r, hr⟩ := Reading.exists_find?_of_reads hrd.reads
    obtain ⟨rd', hrd', rfl⟩ := Reading.exists_chosen_of_find? hr
    rw [hr, hrd.eq hrd']

theorem find?_eq_none_iff {s : List Char} :
    Row.find? s = none ↔ ¬ ∃ rd : Reading, rd.Reads s := by
  constructor
  · rintro hnone ⟨rd, hrd⟩
    obtain ⟨r, hr⟩ := Reading.exists_find?_of_reads hrd
    rw [hnone] at hr
    cases hr
  · intro hno
    rw [Option.eq_none_iff_forall_ne_some]
    intro r hr
    obtain ⟨rd, hrd, -⟩ := find?_eq_some_iff_chosen.mp hr
    exact hno ⟨rd, hrd.reads⟩

/-! ### Numbers -/

/-- The numbers of a row that its record takes over: all but the length. -/
def Row.words (r : Row) : List (List Char) :=
  [r.lines, r.complexity, r.tokens, r.parameters, r.span.first, r.span.last]

theorem Reading.Reads.words_ne_nil {rd : Reading} {line : List Char} (h : rd.Reads line) :
    ∀ n ∈ rd.row.words, n ≠ [] := by
  obtain ⟨⟨hlines, hcomplexity, htokens, hparameters, -⟩, -⟩ := h.columns
  simp only [Row.words, List.forall_mem_cons, List.not_mem_nil, false_implies, implies_true,
    and_true]
  exact ⟨hlines.1, hcomplexity.1, htokens.1, hparameters.1, h.span.first.1, h.span.last.1⟩

/-- A row has a record exactly if all its numbers but the length are words. -/
theorem Row.record?_eq_none_iff {row : Row} (hne : ∀ n ∈ row.words, n ≠ []) :
    row.record? = none ↔ ∃ n ∈ row.words, ¬ IsWord n := by
  have hword : ∀ n ∈ row.words, (word? n = none ↔ ¬ IsWord n) := by
    intro n hn
    rw [Option.eq_none_iff_forall_ne_some]
    constructor
    · intro h hw
      refine h (UInt32.ofNat (decimal n)) (word?_eq_some_iff.mpr ⟨hne n hn, hw, ?_⟩)
      exact UInt32.toNat_ofNat_of_lt' hw.2
    · intro h k hk
      exact h (word?_eq_some_iff.mp hk).2.1
  have hany : row.record? = none ↔ ∃ n ∈ row.words, word? n = none := by
    simp only [words, Row.record?, Option.bind_eq_bind, Option.pure_def, List.exists_mem_cons_iff,
      List.not_mem_nil, false_and, exists_false, or_false]
    cases word? row.lines <;> cases word? row.complexity <;> cases word? row.tokens <;>
      cases word? row.parameters <;> cases word? row.span.first <;>
      cases word? row.span.last <;> simp
  rw [hany]
  exact exists_congr fun n => and_congr_right (hword n)

/-! ### Records -/

/-- **The record of a line.** Of the readings of a line, if there are any, one is chosen: it starts
first and has the longest name of those that do. The line has no record exactly if it has no reading,
or if one of the numbers of the chosen one, other than the length, is no number of 32 bits in ASCII
digits; no other reading is then tried. A record has the numbers, the name and the path of the chosen
reading. -/
theorem record?_of_readings (line : List Char) :
    ((∃ rd : Reading, rd.Reads line) → ∃! rd : Reading, rd.Chosen line) ∧
    (record? line = none ↔ (¬ ∃ rd : Reading, rd.Reads line) ∨
      ∃ rd : Reading, rd.Chosen line ∧ ∃ n ∈ rd.row.words, ¬ IsWord n) ∧
    ∀ (rd : Reading) (r : FunctionRecord), rd.Chosen line → record? line = some r →
      r.name = String.ofList rd.row.name ∧ r.file = String.ofList rd.row.span.path ∧
      [r.lines, r.complexity, r.tokens, r.parameters, r.startLine, r.endLine].map UInt32.toNat =
        rd.row.words.map decimal := by
  refine ⟨?_, ?_, fun rd r hrd hr => ?_⟩
  · rintro ⟨rd, hrd⟩
    obtain ⟨r, hr⟩ := Reading.exists_find?_of_reads hrd
    obtain ⟨rd', hrd', -⟩ := find?_eq_some_iff_chosen.mp hr
    exact ⟨rd', hrd', fun rd'' hrd'' => hrd'.eq hrd''⟩
  · cases hfind : Row.find? line with
    | none =>
      have hnone : record? line = none := by rw [record?, hfind]; rfl
      exact iff_of_true hnone (.inl (find?_eq_none_iff.mp hfind))
    | some row =>
      obtain ⟨rd, hrd, rfl⟩ := find?_eq_some_iff_chosen.mp hfind
      have hrecord : record? line = rd.row.record? := by rw [record?, hfind]; rfl
      rw [hrecord, Row.record?_eq_none_iff hrd.reads.words_ne_nil]
      constructor
      · exact fun hbad => .inr ⟨rd, hrd, hbad⟩
      · rintro (hno | ⟨rd', hrd', hbad⟩)
        · exact absurd ⟨rd, hrd.reads⟩ hno
        · rwa [hrd.eq hrd'] at hbad
  · have hfind : Row.find? line = some rd.row := find?_eq_some_iff_chosen.mpr ⟨rd, hrd, rfl⟩
    have hrecord : rd.row.record? = some r := by rwa [record?, hfind] at hr
    obtain ⟨hname, hfile, hl, hc, ht, hp, hs, he⟩ := Row.record?_eq_some_iff.mp hrecord
    have value : ∀ {n k}, word? n = some k → k.toNat = decimal n := fun h =>
      (word?_eq_some_iff.mp h).2.2
    refine ⟨hname, hfile, ?_⟩
    simp only [Row.words, List.map_cons, List.map_nil, value hl, value hc, value ht, value hp,
      value hs, value he]

/-- A line with a shorter name before the one that is taken, and a length beyond 32 bits. -/
theorem record?_of_readings_of_long_length :
    let line := "x 5 3 20 1 99999999999 f@1-2@a g@3-4@p.c z".toList
    let short : Reading :=
      ⟨"x ".toList, ⟨['5'], ['3'], "20".toList, ['1'], "99999999999".toList, ['f'],
        ⟨['1'], ['2'], ['a']⟩⟩, [' '], [' '], [' '], [' '], " g@3-4@p.c z".toList⟩
    let r : FunctionRecord := ⟨"f@1-2@a g", "p.c", 3, 20, 1, 5, 3, 4⟩
    short.Reads line ∧ record? line = some r ∧
      ∃ rd : Reading, rd.Chosen line ∧ r.name = String.ofList rd.row.name ∧
        r.file = String.ofList rd.row.span.path ∧
        [r.lines, r.complexity, r.tokens, r.parameters, r.startLine, r.endLine].map UInt32.toNat =
          rd.row.words.map decimal := by
  intro line short r
  have hshort : short.Reads line :=
    ⟨by decide +kernel, by decide +kernel, by decide +kernel, by decide +kernel,
      ⟨by decide +kernel, by decide +kernel, by decide +kernel⟩, stops_cons.mpr (by decide +kernel)⟩
  have hr : record? line = some r := by decide +kernel
  obtain ⟨hchosen, -, hvalues⟩ := record?_of_readings line
  obtain ⟨rd, hrd, -⟩ := hchosen ⟨short, hshort⟩
  exact ⟨hshort, hr, rd, hrd, hvalues rd r hrd hr⟩

/-- A first number beyond 32 bits voids the line, though the row could start at its last digit. -/
example : record? "99999999991 3 20 1 6 f@1-2@p.c".toList = none := by decide +kernel

end ComplexityLint.Report
