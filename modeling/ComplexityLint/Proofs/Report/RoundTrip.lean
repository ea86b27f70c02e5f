import ComplexityLint.Proofs.Report.Scan

/-!
Writing a report and reading it back. A record that was read is well-formed: its name is on one
line, its path holds no blank, and nothing in its path could be taken for the end of a longer name
(`wellFormed_of_mem_parse`). A table of well-formed records is read back as it was written,
whatever stands around it and between its rows (`parse_text`).
-/

namespace ComplexityLint

open Text

namespace Report

/-! ### Texts that hold no span -/

/-- Nowhere in the text are there an `@`, digits, a dash, digits, an `@` and a character that is no
blank. -/
def SpanFree (s : List Char) : Prop :=
  ∀ first last c, Filled isDigit first → Filled isDigit last → isBlank c = false →
    ¬ '@' :: first ++ ('-' :: last ++ ['@', c]) <:+: s

/-- Whatever is written like a span is read as one. -/
theorem exists_span? {first last : List Char} {c : Char} (hf : Filled isDigit first)
    (hl : Filled isDigit last) (hc : isBlank c = false) (rest : List Char) :
    ∃ sp, span? ('@' :: first ++ ('-' :: last ++ ['@', c]) ++ rest) = some sp := by
  have hpath : Filled (!isBlank ·) ((c :: rest).takeWhile (!isBlank ·)) :=
    ⟨by simp [hc], fun d hd => List.mem_takeWhile_imp (p := (!isBlank ·)) hd⟩
  refine ⟨⟨first, last, (c :: rest).takeWhile (!isBlank ·)⟩, span?_eq_some_iff.mpr
    ⟨⟨hf, hl, hpath⟩, (c :: rest).dropWhile (!isBlank ·), ?_, stops_dropWhile _⟩⟩
  have hsplit : (c :: rest).takeWhile (!isBlank ·) ++ (c :: rest).dropWhile (!isBlank ·) =
      c :: rest := List.takeWhile_append_dropWhile
  simp only [Span.text, List.append_assoc, List.cons_append, List.nil_append, hsplit]

/-- Whatever is read as a span is written like one. -/
theorem exists_infix_of_span? {s : List Char} {sp : Span} (h : span? s = some sp) :
    ∃ c, isBlank c = false ∧ '@' :: sp.first ++ ('-' :: sp.last ++ ['@', c]) <+: s := by
  obtain ⟨hsp, post, rfl, -⟩ := span?_eq_some_iff.mp h
  obtain ⟨hne, hall⟩ := hsp.path
  obtain ⟨c, path, hpath⟩ := List.exists_cons_of_ne_nil hne
  refine ⟨c, by simpa using hall c (by simp [hpath]), path ++ post, ?_⟩
  simp [Span.text, hpath]

theorem spanFree_iff {s : List Char} : SpanFree s ↔ ∀ rest ∈ s.tails, span? rest = none := by
  constructor
  · intro h rest hrest
    rw [Option.eq_none_iff_forall_ne_some]
    intro sp hsp
    obtain ⟨c, hc, hpre⟩ := exists_infix_of_span? hsp
    have hproper := (span?_eq_some_iff.mp hsp).1
    exact h sp.first sp.last c hproper.first hproper.last hc
      (hpre.isInfix.trans ((List.mem_tails _ _).mp hrest).isInfix)
  · rintro h first last c hf hl hc ⟨front, back, rfl⟩
    obtain ⟨sp, hsp⟩ := exists_span? hf hl hc back
    have hnone := h _ ((List.mem_tails _ _).mpr ⟨front, (List.append_assoc ..).symm⟩)
    rw [hsp] at hnone
    cases hnone

instance (s : List Char) : Decidable (SpanFree s) := decidable_of_iff _ spanFree_iff.symm

/-- What begins with the character `a`, and ends a text whose first `a` is known, begins at that
place or behind it. -/
theorem suffix_of_append_eq {a : Char} {u v t x : List Char} (hu : a ∉ u)
    (h : u ++ a :: v = t ++ a :: x) : a :: x <:+ a :: v := by
  rcases List.append_eq_append_iff.mp h with ⟨w, -, hw⟩ | ⟨w, rfl, hw⟩
  · exact ⟨w, hw.symm⟩
  · cases w with
    | nil => exact ⟨[], hw⟩
    | cons d w =>
      obtain ⟨rfl, -⟩ := List.cons.inj hw
      exact absurd (by simp) hu

theorem at_notMem_of_digits {first last : List Char} (hf : Filled isDigit first)
    (hl : Filled isDigit last) : '@' ∉ first ++ '-' :: last := by
  simp [hf.notMem isDigit_at, hl.notMem isDigit_at]

/-- **The written name is the longest.** In a location whose path holds no span the name that is
read is the one that was written. -/
theorem location?_append_text {name : List Char} {sp : Span} (hn : '\n' ∉ name) (hsp : sp.Proper)
    (hfree : SpanFree ('@' :: sp.path)) : location? (name ++ sp.text) = some (name, sp) := by
  refine location?_eq_some_iff.mpr ⟨⟨hn, sp.text, rfl, ?_⟩, ?_⟩
  · exact span?_eq_some_iff.mpr ⟨hsp, [], by simp, stops_nil⟩
  · rintro name' sp' ⟨-, rest, heq, hrest⟩
    by_contra hlen
    -- a longer name ends behind the first `@` of the span, so its own span lies in the path
    obtain ⟨t, rfl, htext⟩ : ∃ t, name' = name ++ t ∧ sp.text = t ++ rest := by
      rcases List.append_eq_append_iff.mp heq with ⟨t, h1, h2⟩ | ⟨t, h1, -⟩
      · exact ⟨t, h1, h2⟩
      · rw [h1, List.length_append] at hlen
        omega
    obtain ⟨c, hc, tail, rfl⟩ := exists_infix_of_span? hrest
    have hproper := (span?_eq_some_iff.mp hrest).1
    cases t with
    | nil => simp at hlen
    | cons d t =>
      have hsuffix :
          '@' :: sp'.first ++ ('-' :: sp'.last ++ ['@', c]) ++ tail <:+ '@' :: sp.path := by
        refine suffix_of_append_eq (at_notMem_of_digits hsp.first hsp.last) (t := t) ?_
        obtain ⟨-, h⟩ := List.cons.inj htext
        simpa using h
      exact hfree _ _ c hproper.first hproper.last hc
        (List.IsInfix.trans ⟨[], tail, rfl⟩ hsuffix.isInfix)

/-- Behind a span whose path holds another span the name can go on up to that other span. -/
theorem exists_places_of_infix {name : List Char} (hn : '\n' ∉ name) {sp : Span}
    (hsp : sp.Proper) {front first last back : List Char} {c : Char} (hf : Filled isDigit first)
    (hl : Filled isDigit last) (hc : isBlank c = false)
    (hpath : front ++ ('@' :: first ++ ('-' :: last ++ ['@', c])) ++ back = '@' :: sp.path)
    (post : List Char) :
    ∃ sp', Places (name ++ (sp.text ++ post))
      (name ++ ('@' :: sp.first ++ '-' :: sp.last ++ front)) sp' := by
  obtain ⟨sp', hsp'⟩ := exists_span? hf hl hc (back ++ post)
  refine ⟨sp', ?_, _, ?_, hsp'⟩
  · have hfront : ∀ d ∈ front, isBlank d = false := by
      intro d hd
      have hmem : d ∈ '@' :: sp.path := by rw [← hpath]; simp [hd]
      rcases List.mem_cons.mp hmem with rfl | hmem
      · decide
      · simpa using hsp.path.2 d hmem
    have hblank : '\n' ∉ front := by
      intro hnl
      have := hfront _ hnl
      rw [isBlank_newline] at this
      cases this
    simp [hn, hsp.first.notMem isDigit_newline, hsp.last.notMem isDigit_newline, hblank]
  · have htext : sp.text = '@' :: sp.first ++ '-' :: sp.last ++ ('@' :: sp.path) := by
      simp [Span.text]
    rw [htext, ← hpath]
    simp

/-- **A name that was read is the longest.** The path behind it holds no span. -/
theorem spanFree_of_location? {s name : List Char} {sp : Span}
    (h : location? s = some (name, sp)) : SpanFree ('@' :: sp.path) := by
  obtain ⟨⟨hn, rest, rfl, hrest⟩, hmax⟩ := location?_eq_some_iff.mp h
  obtain ⟨hsp, post, rfl, -⟩ := span?_eq_some_iff.mp hrest
  rintro first last c hf hl hc ⟨front, back, hpath⟩
  obtain ⟨sp', hsp'⟩ := exists_places_of_infix hn hsp hf hl hc hpath post
  have hlen := hmax _ sp' hsp'
  rw [List.length_append, List.length_append, List.length_append, List.length_cons] at hlen
  omega

end Report

/-! ### Well-formed records -/

/-- What holds of every record that stands on a line of a report. -/
structure FunctionRecord.WellFormed (r : FunctionRecord) : Prop where
  name : '\n' ∉ r.name.toList
  path : Filled (!isBlank ·) r.file.toList
  spanFree : Report.SpanFree ('@' :: r.file.toList)

instance (r : FunctionRecord) : Decidable r.WellFormed :=
  decidable_of_iff ('\n' ∉ r.name.toList ∧ Filled (!isBlank ·) r.file.toList
      ∧ Report.SpanFree ('@' :: r.file.toList))
    ⟨fun ⟨h₁, h₂, h₃⟩ => ⟨h₁, h₂, h₃⟩, fun ⟨h₁, h₂, h₃⟩ => ⟨h₁, h₂, h₃⟩⟩

namespace Report

/-- What a row writes is in the record that is read from it. -/
theorem Row.record?_eq_some_iff {row : Row} {r : FunctionRecord} :
    row.record? = some r ↔
      r.name = String.ofList row.name ∧ r.file = String.ofList row.span.path
        ∧ word? row.lines = some r.lines ∧ word? row.complexity = some r.complexity
        ∧ word? row.tokens = some r.tokens ∧ word? row.parameters = some r.parameters
        ∧ word? row.span.first = some r.startLine ∧ word? row.span.last = some r.endLine := by
  simp only [Row.record?, Option.bind_eq_bind, Option.bind_eq_some_iff, Option.pure_def,
    Option.some.injEq]
  constructor
  · rintro ⟨l, hl, c, hc, t, ht, p, hp, s, hs, e, he, rfl⟩
    exact ⟨rfl, rfl, hl, hc, ht, hp, hs, he⟩
  · rintro ⟨hname, hfile, hl, hc, ht, hp, hs, he⟩
    refine ⟨_, hl, _, hc, _, ht, _, hp, _, hs, _, he, ?_⟩
    rw [← hname, ← hfile]

theorem wellFormed_of_record? {line : List Char} {r : FunctionRecord}
    (h : record? line = some r) : r.WellFormed := by
  obtain ⟨row, hrow, hr⟩ := Option.bind_eq_some_iff.mp h
  obtain ⟨-, rest, -, hat⟩ := Row.exists_at?_of_find? hrow
  obtain ⟨-, rest', -, -, hloc⟩ := Row.at?_eq_some_iff.mp hat
  obtain ⟨hname, hfile, -⟩ := Row.record?_eq_some_iff.mp hr
  obtain ⟨⟨hn, tail, -, hspan⟩, -⟩ := location?_eq_some_iff.mp hloc
  have hsp := (span?_eq_some_iff.mp hspan).1
  refine ⟨?_, ?_, ?_⟩
  · rw [hname, String.toList_ofList]
    exact hn
  · rw [hfile, String.toList_ofList]
    exact hsp.path
  · rw [hfile, String.toList_ofList]
    exact spanFree_of_location? hloc

theorem wellFormed_of_mem_parse {report : String} {r : FunctionRecord} (h : r ∈ parse report) :
    r.WellFormed := by
  rw [parse] at h
  split at h
  · cases h
  · rw [records_eq_rows, rows, List.mem_filterMap] at h
    obtain ⟨line, -, hline⟩ := h
    exact wellFormed_of_record? hline

/-! ### Writing a row -/

/-- Spaces and tabs. -/
def IsPadding (s : List Char) : Prop := ∀ c ∈ s, c = ' ' ∨ c = '\t'

/-- Spaces and tabs, at least one of them. -/
def Gap := { s : List Char // s ≠ [] ∧ IsPadding s }

/-- What a writer of rows may choose: the spaces and tabs, and the length, which nobody asks
for. -/
structure Layout where
  indent : { s : List Char // IsPadding s }
  afterLines : Gap
  afterComplexity : Gap
  afterTokens : Gap
  afterParameters : Gap
  length : { s : List Char // s ≠ [] ∧ ∀ c ∈ s, c.isDigit = true }

/-- The row of a record, as it is written. -/
def Layout.row (l : Layout) (r : FunctionRecord) : Row where
  lines := digits r.lines
  complexity := digits r.complexity
  tokens := digits r.tokens
  parameters := digits r.parameters
  length := l.length.1
  name := r.name.toList
  span := ⟨digits r.startLine, digits r.endLine, r.file.toList⟩

/-- The line of a record: the indent, the four numbers, each with its gap, the length, one space,
and `name@start-end@path`. -/
def Layout.line (l : Layout) (r : FunctionRecord) : List Char :=
  l.indent.1 ++ (digits r.lines ++ (l.afterLines.1 ++ (digits r.complexity ++
    (l.afterComplexity.1 ++ (digits r.tokens ++ (l.afterTokens.1 ++ (digits r.parameters ++
      (l.afterParameters.1 ++ (l.length.1 ++ ' ' :: (r.name.toList ++
        '@' :: digits r.startLine ++ ('-' :: digits r.endLine ++ '@' :: r.file.toList)))))))))))

theorem Gap.filled (g : Gap) : Filled isBlank g.1 :=
  ⟨g.2.1, fun c hc => isBlank_of_padding (g.2.2 c hc)⟩

/-- On the line of a record a row is found, with the name and the span that are read behind the five
numbers. -/
theorem find?_line (l : Layout) {r : FunctionRecord} {name : List Char} {sp : Span}
    (hloc : location? (r.name.toList ++ (l.row r).span.text) = some (name, sp)) :
    Row.find? (l.line r) = some { l.row r with name := name, span := sp } := by
  have hindent : ∀ c ∈ l.indent.1, isDigit c = false := fun c hc =>
    isDigit_eq_false_of_isBlank (isBlank_of_padding (l.indent.2 c hc))
  have hlength : Filled isDigit l.length.1 :=
    ⟨l.length.2.1, fun c hc => isDigit_of_ascii (l.length.2.2 c hc)⟩
  have hat : Row.at? ((l.line r).drop l.indent.1.length) =
      some { l.row r with name := name, span := sp } := by
    refine Row.at?_eq_some_iff.mpr ⟨_, r.name.toList ++ (l.row r).span.text, ?_,
      ⟨l.afterLines.1, l.afterComplexity.1, l.afterTokens.1, l.afterParameters.1, rfl,
        filled_digits _, l.afterLines.filled, filled_digits _, l.afterComplexity.filled,
        filled_digits _, l.afterTokens.filled, filled_digits _, l.afterParameters.filled,
        hlength⟩, hloc⟩
    rw [Layout.line, List.drop_left]
    simp [Layout.row, Span.text]
  have hsplit : l.line r = l.indent.1 ++ (l.line r).drop l.indent.1.length := by
    rw [Layout.line, List.drop_left]
  rw [hsplit, Row.find?_append_of_not_digit hindent]
  cases hd : (l.line r).drop l.indent.1.length with
  | nil => rw [hd] at hat; cases hat
  | cons c s => rw [hd] at hat; rw [Row.find?_cons, hat, Option.some_or]

/-- **A written line is read.** The record on the line of a well-formed record is that record. -/
theorem record?_line (l : Layout) {r : FunctionRecord} (h : r.WellFormed) :
    record? (l.line r) = some r := by
  have hproper : (l.row r).span.Proper := ⟨filled_digits _, filled_digits _, h.path⟩
  have hloc := location?_append_text h.name hproper h.spanFree
  rw [record?, find?_line l hloc, Option.bind_some]
  refine Row.record?_eq_some_iff.mpr ⟨?_, ?_, word?_digits _, word?_digits _, word?_digits _,
    word?_digits _, word?_digits _, word?_digits _⟩
  · exact String.ofList_toList.symm
  · exact String.ofList_toList.symm

/-! ### Writing a report -/

/-- A line of a table: a record with its layout, or a text that is no row. -/
inductive Line
  | row (r : FunctionRecord) (l : Layout)
  | noise (text : List Char)

namespace Line

/-- A line as it is written. -/
def text : Line → List Char
  | row r l => l.line r
  | noise text => text

/-- The record of a line. -/
def record? : Line → Option FunctionRecord
  | row r _ => some r
  | noise _ => none

/-- What a line has to keep: its record is well-formed, or it holds none and stays on its line; and
it does not hold the words that end the table. -/
def Sound : Line → Prop
  | row r l => r.WellFormed ∧ ¬ marker <:+: l.line r
  | noise text => '\n' ∉ text ∧ Report.record? text = none ∧ ¬ marker <:+: text

instance : (line : Line) → Decidable line.Sound
  | row r l => inferInstanceAs (Decidable (r.WellFormed ∧ ¬ marker <:+: l.line r))
  | noise text => inferInstanceAs
    (Decidable ('\n' ∉ text ∧ Report.record? text = none ∧ ¬ marker <:+: text))

end Line

/-- A report around a table. -/
structure Table where
  header : List Char
  dashes : ℕ
  lines : List Line
  tail : List Char

namespace Table

/-- The report as it is written: the header, one dash or more, the lines of the table, the words
that end it, and the tail. -/
def text (t : Table) : List Char :=
  t.header ++ (List.replicate (t.dashes + 1) '-' ++
    ('\n' :: t.lines.flatMap (fun line => line.text ++ ['\n']) ++ (marker ++ t.tail)))

/-- The records that are written. -/
def records (t : Table) : List FunctionRecord := t.lines.filterMap Line.record?

end Table

/-! ### Reading a report that was written -/

theorem newline_notMem_line (l : Layout) {r : FunctionRecord} (hname : '\n' ∉ r.name.toList)
    (hpath : '\n' ∉ r.file.toList) : '\n' ∉ l.line r := by
  have hdigits : ∀ n, '\n' ∉ digits n := fun n => (filled_digits n).notMem isDigit_newline
  have hpadding : ∀ {s}, IsPadding s → '\n' ∉ s := fun hs hc => by simpa using hs _ hc
  have hlength : '\n' ∉ l.length.1 := fun hc => absurd (l.length.2.2 _ hc) (by decide)
  simp [Layout.line, hdigits, hpadding l.indent.2, hpadding l.afterLines.2.2,
    hpadding l.afterComplexity.2.2, hpadding l.afterTokens.2.2, hpadding l.afterParameters.2.2,
    hlength, hname, hpath]

namespace Line

variable {line : Line}

theorem Sound.newline_notMem (h : line.Sound) : '\n' ∉ line.text := by
  cases line with
  | row r l => exact newline_notMem_line l h.1.name (h.1.path.notMem (by decide))
  | noise text => exact h.1

theorem Sound.not_marker (h : line.Sound) : ¬ marker <:+: line.text := by
  cases line with
  | row r l => exact h.2
  | noise text => exact h.2.2

theorem Sound.record?_text (h : line.Sound) : Report.record? line.text = line.record? := by
  cases line with
  | row r l => exact record?_line l h.1
  | noise text => exact h.2.1

end Line

/-- A line stays a line of its own, and it does not end the table. -/
def Line.Single (line : Line) : Prop := '\n' ∉ line.text ∧ ¬ marker <:+: line.text

theorem Line.Sound.single {line : Line} (h : line.Sound) : line.Single :=
  ⟨h.newline_notMem, h.not_marker⟩

section Lines

variable {lines : List Line} (h : ∀ line ∈ lines, line.Single)
include h

omit h in
theorem marker_ne_nil : marker ≠ [] := by decide

omit h in
theorem newline_notMem_marker : '\n' ∉ marker := by decide

/-- The lines of a table end where the marker was written. -/
theorem before?_lines (tail : List Char) :
    before? marker (lines.flatMap (fun line => line.text ++ ['\n']) ++ (marker ++ tail)) =
      some (lines.flatMap fun line => line.text ++ ['\n']) := by
  induction lines with
  | nil => exact before?_eq_some_iff.mpr ⟨tail, rfl, by simp⟩
  | cons line lines ih =>
    have ih := ih fun l hl => h l (by simp [hl])
    rw [List.flatMap_cons, List.append_assoc, List.append_assoc, List.singleton_append,
      before?_append_sep marker_ne_nil newline_notMem_marker (h line (by simp)).2, ih,
      Option.map_some]
    simp

theorem rows_lines :
    rows (lines.flatMap fun line => line.text ++ ['\n']) =
      lines.filterMap fun line => record? line.text := by
  have hpieces : pieces '\n' (lines.flatMap fun line => line.text ++ ['\n']) =
      lines.map Line.text ++ [[]] := by
    rw [← pieces_lines fun text htext => ?_, List.flatMap_map]
    obtain ⟨line, hline, rfl⟩ := List.mem_map.mp htext
    exact (h line hline).1
  have hnil : [[]].filterMap record? = [] := rfl
  rw [rows, hpieces, List.filterMap_append, hnil, List.append_nil, List.filterMap_map]
  rfl

end Lines

/-- A report is read line by line. -/
theorem parse_lines {t : Table} (hh : '-' ∉ t.header) (h : ∀ line ∈ t.lines, line.Single) :
    parse (String.ofList t.text) = t.lines.filterMap fun line => record? line.text := by
  have hbody : body? t.text =
      some ('\n' :: t.lines.flatMap fun line => line.text ++ ['\n']) := by
    have hlines := before?_lines h t.tail
    have hnone : ¬ marker <:+: [] := by decide
    have hskip := before?_append_sep marker_ne_nil newline_notMem_marker hnone
      (t.lines.flatMap (fun line => line.text ++ ['\n']) ++ (marker ++ t.tail))
    rw [hlines] at hskip
    rw [Table.text, body?_of_dashes hh (by simp)]
    exact hskip
  rw [parse, String.toList_ofList, hbody]
  exact (records_eq_rows _).trans ((rows_cons_blank isBlank_newline _).trans (rows_lines h))

/-- A report is read back as it was written. -/
theorem parse_text {t : Table} (hh : '-' ∉ t.header) (h : ∀ line ∈ t.lines, line.Sound) :
    parse (String.ofList t.text) = t.records := by
  rw [parse_lines hh fun line hline => (h line hline).single]
  exact List.filterMap_congr fun line hline => (h line hline).record?_text

/-- **Reports round-trip.** Every record that is read from a report is well-formed. Conversely a
table of well-formed records, written with any header, layout, noise between the rows and tail, is
read back as those records in their order. -/
theorem parse_roundTrip :
    (∀ report, ∀ r ∈ parse report, r.WellFormed)
      ∧ ∀ t : Table, '-' ∉ t.header → (∀ line ∈ t.lines, line.Sound) →
          parse (String.ofList t.text) = t.records :=
  ⟨fun _ _ h => wellFormed_of_mem_parse h, fun _ hh h => parse_text hh h⟩

/-- A name may hold blanks and a text like a span, and a path may hold an `@`. -/
theorem parse_roundTrip_of_span_in_name :
    let gap : Gap := ⟨[' ', '\t'], by simp [IsPadding]⟩
    let layout : Layout := ⟨⟨[' '], by simp [IsPadding]⟩, gap, gap, gap, gap, ⟨['0', '7'], by simp⟩⟩
    let r : FunctionRecord := ⟨" f@1-2@x 3", "/a@1-b.c", 4, 20, 0, 317, 10, 2⟩
    let t : Table := ⟨"NLOC\n".toList, 2, [.noise "1 2 3".toList, .row r layout], ". - 1 file".toList⟩
    '-' ∉ t.header ∧ (∀ line ∈ t.lines, line.Sound) ∧ parse (String.ofList t.text) = [r]
      ∧ r ∈ parse (String.ofList t.text) ∧ r.WellFormed := by
  intro gap layout r t
  have hh : '-' ∉ t.header := by decide +kernel
  have hs : ∀ line ∈ t.lines, line.Sound := by decide +kernel
  have hparse : parse (String.ofList t.text) = [r] := parse_roundTrip.2 t hh hs
  have hmem : r ∈ parse (String.ofList t.text) := by rw [hparse]; exact List.mem_singleton_self r
  exact ⟨hh, hs, hparse, hmem, parse_roundTrip.1 _ r hmem⟩

end Report

end ComplexityLint
