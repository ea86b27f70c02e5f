import ComplexityLint.Proofs.Linter.Sink
import ComplexityLint.Proofs.Report.RoundTrip

/-!
Whether the diagnostics of a file reach it. The analyzer writes the path of a file at the end of
each row, as it is. A row is read up to a blank and with the longest name, so a path can be taken
for something shorter; the paths that are read as they were written are those without a blank and
without a span (`published_of_rows`). A file with another path is taken for one without any
diagnostics (`shown_of_misread_rows`).
-/

namespace ComplexityLint

open Event (publications)
open Text (Filled isBlank filled_digits)

namespace Report

/-- What a line of a table about one file has to keep: the path of its record is the path of the
file as it is written, its name stays on the line, and it does not hold the words that end the
table. -/
def Line.About (s : String) : Line → Prop
  | row r l => r.file = s ∧ '\n' ∉ r.name.toList ∧ ¬ marker <:+: l.line r
  | noise text => (noise text).Sound

instance (s : String) : (line : Line) → Decidable (line.About s)
  | .row r l =>
    inferInstanceAs (Decidable (r.file = s ∧ '\n' ∉ r.name.toList ∧ ¬ marker <:+: l.line r))
  | .noise text => inferInstanceAs (Decidable (Line.noise text).Sound)

theorem Line.About.sound {s : String} {line : Line} (h : line.About s)
    (hpath : Filled (!isBlank ·) s.toList) (hfree : SpanFree ('@' :: s.toList)) :
    line.Sound := by
  cases line with
  | row r l =>
    obtain ⟨rfl, hname, hmarker⟩ := h
    exact ⟨⟨hname, hpath, hfree⟩, hmarker⟩
  | noise text => exact h

theorem Line.About.single {s : String} {line : Line} (h : line.About s)
    (hpath : Filled (!isBlank ·) s.toList) : line.Single := by
  cases line with
  | row r l =>
    obtain ⟨rfl, hname, hmarker⟩ := h
    exact ⟨newline_notMem_line l hname (hpath.notMem (by decide)), hmarker⟩
  | noise text => exact Line.Sound.single h

/-- A path that holds a span is read from behind that span only, so an `@` gets lost. -/
theorem count_at_lt_of_record? {l : Layout} {r r' : FunctionRecord} (hname : '\n' ∉ r.name.toList)
    (hpath : Filled (!isBlank ·) r.file.toList) (hspan : ¬ SpanFree ('@' :: r.file.toList))
    (h : record? (l.line r) = some r') : r'.file.toList.count '@' < r.file.toList.count '@' := by
  simp only [SpanFree, not_forall, not_not] at hspan
  obtain ⟨first, last, c, hf, hl, hc, front, back, hinfix⟩ := hspan
  have hproper : (l.row r).span.Proper := ⟨filled_digits _, filled_digits _, hpath⟩
  obtain ⟨sp₁, hlonger⟩ := exists_places_of_infix hname hproper hf hl hc hinfix []
  rw [List.append_nil] at hlonger
  cases hloc : location? (r.name.toList ++ (l.row r).span.text) with
  | none => exact absurd hlonger (location?_eq_none_iff.mp hloc _ _)
  | some place =>
    obtain ⟨name, sp⟩ := place
    rw [record?, find?_line l hloc, Option.bind_some] at h
    obtain ⟨-, hfile, -⟩ := Row.record?_eq_some_iff.mp h
    rw [hfile, String.toList_ofList]
    change sp.path.count '@' < _
    obtain ⟨⟨-, rest, htext, hrest⟩, hmax⟩ := location?_eq_some_iff.mp hloc
    have hlen := hmax _ _ hlonger
    obtain ⟨-, post, rfl, -⟩ := span?_eq_some_iff.mp hrest
    -- the name goes on into the path, so the span that is read lies in it
    have hsuffix : sp.text ++ post <:+ '@' :: r.file.toList := by
      have hpathText : (l.row r).span.text = '@' :: (l.row r).span.first ++
          '-' :: (l.row r).span.last ++ '@' :: r.file.toList := by
        simp [Span.text, Layout.row]
      have hall : '@' :: r.file.toList <:+ name ++ (sp.text ++ post) := by
        rw [← htext, hpathText, ← List.append_assoc]
        exact List.suffix_append _ _
      refine List.suffix_of_suffix_length_le ⟨name, rfl⟩ hall ?_
      have htotal := congrArg List.length htext
      rw [hpathText] at htotal
      simp only [List.length_append, List.length_cons] at htotal hlen ⊢
      omega
    have hcount := hsuffix.sublist.count_le '@'
    simp only [Span.text, List.count_append, List.count_cons, beq_self_eq_true, if_true] at hcount
    omega

/-- In a report on a file whose path is not read as it is written, no record is of the file. -/
theorem same_eq_false_of_mem_parse {s : String} {t : Table} (hh : '-' ∉ t.header)
    (hrows : ∀ line ∈ t.lines, line.About s) (hne : s.toList ≠ [])
    (hs : ¬ (Filled (!isBlank ·) s.toList ∧ SpanFree ('@' :: s.toList))) {r : FunctionRecord}
    (hr : r ∈ parse (String.ofList t.text)) : (Path.ofText r.file).same (.ofText s) = false := by
  rw [← Bool.not_eq_true]
  intro hsame
  by_cases hblank : ∃ c ∈ s.toList, isBlank c = true
  · -- the blank would have to stand in the path that was read
    obtain ⟨c, hc, hblank⟩ := hblank
    have hcount : r.file.toList.count c = s.toList.count c := by
      refine Path.count_of_same hsame ?_ ?_ (Text.isByte_eq_false_of_isBlank hblank) <;>
        rintro rfl <;> cases hblank
    have hnone : r.file.toList.count c = 0 :=
      List.count_eq_zero.mpr ((wellFormed_of_mem_parse hr).path.notMem (by simp [hblank]))
    have hsome := List.count_pos_iff.mpr hc
    omega
  · have hpath : Filled (!isBlank ·) s.toList := ⟨hne, fun c hc => by
      simpa using fun h => hblank ⟨c, hc, h⟩⟩
    rw [parse_lines hh fun line hline => (hrows line hline).single hpath] at hr
    obtain ⟨line, hline, hrec⟩ := List.mem_filterMap.mp hr
    have habout := hrows line hline
    cases line with
    | row r₀ l =>
      obtain ⟨rfl, hname, -⟩ := habout
      have hspan : ¬ SpanFree ('@' :: r₀.file.toList) := fun h => hs ⟨hpath, h⟩
      have hlt := count_at_lt_of_record? hname hpath hspan hrec
      have hcount := Path.count_of_same hsame (c := '@') (by decide) (by decide) (by decide)
      omega
    | noise text =>
      rw [Line.text, habout.2.1] at hrec
      cases hrec

/-- The row of a record with one space between the numbers. -/
def Line.plain (r : FunctionRecord) : Line :=
  let gap : Gap := ⟨[' '], by simp [IsPadding]⟩
  .row r ⟨⟨[], by simp [IsPadding]⟩, gap, gap, gap, gap, ⟨['6'], by simp⟩⟩

theorem Table.file_of_mem_records {s : String} {t : Table} (h : ∀ line ∈ t.lines, line.About s)
    {r : FunctionRecord} (hr : r ∈ t.records) : r.file = s := by
  obtain ⟨line, hline, hrec⟩ := List.mem_filterMap.mp hr
  cases line with
  | row r' l =>
    cases hrec
    exact (h _ hline).1
  | noise text => cases hrec

end Report

namespace Linter

open Report (Table SpanFree)

variable {σ : Type} {h : Host σ} {l : Linter} {w : σ}

theorem clearing_of_covers {b : Batch} {p : Path} (hb : b.covers p = true) (wide : Bool) :
    clearing wide b p = [] := by simp [clearing, hb]

/-- **The paths that reach their file.** Take a report that has one row or more, in which the path
of the linted file stands in every row as it is written. The lint finds the file and replaces its
diagnostics, and nothing else, by those of all rows, exactly if the path holds no blank and nothing
that could be taken for the end of a longer name. -/
theorem published_of_rows {s : String} {t : Table} (hh : '-' ∉ t.header)
    (hrows : ∀ line ∈ t.lines, line.About s) (hne : t.records ≠ [])
    (hr : l.reports (.lint h (.ofText s) w) = [String.ofList t.text]) :
    let o := l.lint h (.ofText s) w
    (∃ b, o.result = .ok b ∧ b.covers (.ofText s) = true ∧
        publications o.events =
          [(.ofText s, t.records.flatMap fun r =>
            (l.config.thresholds.evaluate r).map (Diagnostic.ofViolation r.file))]) ↔
      Filled (!isBlank ·) s.toList ∧ SpanFree ('@' :: s.toList) := by
  intro o
  obtain ⟨hresult, hpubs⟩ := lint_of_reports hr
  constructor
  · rintro ⟨b, hb, hcovers, hone⟩
    obtain rfl : l.batch _ = b := Except.ok.inj (hresult.symm.trans hb)
    -- the file that is published is one that was read
    have hfiles : (l.batch (String.ofList t.text)).files.map Path.ofText = [.ofText s] := by
      have hpaths := congrArg (List.map Prod.fst) (hpubs.symm.trans hone)
      rw [clearing_of_covers hcovers, List.append_nil, publications_publish, List.map_map] at hpaths
      exact hpaths
    have hmem : s ∈ (l.batch (String.ofList t.text)).files := by
      rw [← List.mem_map_of_injective Path.ofText_injective, hfiles]
      exact List.mem_singleton_self _
    obtain ⟨r, hparse, rfl⟩ := Batch.mem_files_assemble.mp hmem
    have hwf := Report.wellFormed_of_mem_parse hparse
    exact ⟨hwf.path, hwf.spanFree⟩
  · rintro ⟨hpath, hfree⟩
    have hparse : Report.parse (String.ofList t.text) = t.records :=
      Report.parse_text hh fun line hline => (hrows line hline).sound hpath hfree
    have hfile : ∀ r ∈ t.records, r.file = s := fun r => Table.file_of_mem_records hrows
    have hbatch : l.batch (String.ofList t.text) =
        Batch.assemble l.config.thresholds t.records := by rw [batch, hparse]
    rw [hbatch] at hresult hpubs
    have hfiles := Batch.files_assemble_of_one hfile hne l.config.thresholds
    have hcovers : (Batch.assemble l.config.thresholds t.records).covers (.ofText s) = true := by
      refine Batch.covers_of_mem_files ?_
      rw [hfiles]
      exact List.mem_singleton_self s
    refine ⟨_, hresult, hcovers, ?_⟩
    rw [hpubs, clearing_of_covers hcovers, List.append_nil, publications_publish, hfiles,
      List.map_singleton, Batch.ofFile_assemble_of_one hfile]
    rfl

/-- The row of a file with a blank in its name is read as one of another file, and the diagnostics
of the file are cleared. -/
theorem published_of_rows_of_blank :
    let s := "/w/my a.c"
    let r : FunctionRecord := ⟨"f", s, 3, 20, 1, 5, 1, 9⟩
    let t : Table := ⟨[], 3, [.plain r], " .".toList⟩
    let m : Memory := { script := { report := some (String.ofList t.text) } }
    let o := strict.lint Memory.host (.ofText s) m
    '-' ∉ t.header ∧ (∀ line ∈ t.lines, line.About s) ∧ t.records ≠ [] ∧ '\n' ∉ s.toList ∧
      strict.reports (.lint Memory.host (.ofText s) m) = [String.ofList t.text] ∧
      ¬ ∃ b, o.result = .ok b ∧ b.covers (.ofText s) = true ∧
        publications o.events =
          [(.ofText s, t.records.flatMap fun r =>
            (strict.config.thresholds.evaluate r).map (Diagnostic.ofViolation r.file))] := by
  intro s r t m o
  refine ⟨by decide +kernel, by decide +kernel, by decide +kernel, by decide +kernel,
    by decide +kernel, ?_⟩
  rintro ⟨b, -, -, hone⟩
  exact absurd hone (by decide +kernel)

/-- An `@`, digits and a dash in a path do no harm where they make no span. -/
theorem published_of_rows_of_at_sign :
    let s := "/w/v@1-2.c"
    let r : FunctionRecord := ⟨"f g", s, 3, 20, 1, 5, 1, 9⟩
    let r' : FunctionRecord := ⟨"h", s, 4, 20, 1, 5, 11, 19⟩
    let t : Table := ⟨"NLOC\n".toList, 3, [.plain r, .noise [], .plain r'], " .".toList⟩
    let m : Memory := { script := { report := some (String.ofList t.text) } }
    let o := strict.lint Memory.host (.ofText s) m
    ∃ b, o.result = .ok b ∧ b.covers (.ofText s) = true ∧
      publications o.events =
        [(.ofText s, t.records.flatMap fun r =>
          (strict.config.thresholds.evaluate r).map (Diagnostic.ofViolation r.file))] := by
  intro s r r' t m o
  have hh : '-' ∉ t.header := by decide +kernel
  have hrows : ∀ line ∈ t.lines, line.About s := by decide +kernel
  have hne : t.records ≠ [] := by decide +kernel
  have hr : strict.reports (.lint Memory.host (.ofText s) m) = [String.ofList t.text] := by
    decide +kernel
  exact (published_of_rows hh hrows hne hr).mpr (by decide +kernel)

/-- **The paths that do not reach it.** For any other path no row of the report is read as one of the
file, so the diagnostics of the file are cleared, whatever the rows say. -/
theorem shown_of_misread_rows {s : String} {t : Table} (hh : '-' ∉ t.header)
    (hrows : ∀ line ∈ t.lines, line.About s)
    (hs : ¬ (Filled (!isBlank ·) s.toList ∧ SpanFree ('@' :: s.toList)))
    (hfile : h.isDir w (.ofText s) = false)
    (hr : l.reports (.lint h (.ofText s) w) = [String.ofList t.text]) (sink : Sink) :
    let o := l.lint h (.ofText s) w
    (∃ b, o.result = .ok b ∧ b.covers (.ofText s) = false) ∧
      (sink.receive o.events).shown (.ofText s) = [] := by
  intro o
  obtain ⟨hresult, hpubs⟩ := lint_of_reports hr
  have hne : s.toList ≠ [] := fun hnil => by
    have hempty : s = "" := String.toList_eq_nil_iff.mp hnil
    have hu : h.Unlintable (.ofText s) w := ⟨hfile, by rw [hempty]; rfl⟩
    simp only [reports, job_of_unlintable h l hu] at hr
    cases hr
  have hcovers : (l.batch (String.ofList t.text)).covers (.ofText s) = false := by
    rw [Batch.covers_eq_false_iff, Batch.spellings, List.filter_eq_nil_iff]
    intro f hf
    obtain ⟨r, hparse, rfl⟩ := Batch.mem_files_assemble.mp hf
    rw [Report.same_eq_false_of_mem_parse hh hrows hne hs hparse]
    exact Bool.false_ne_true
  refine ⟨⟨_, hresult, hcovers⟩, ?_⟩
  have hclearing : clearing (h.isDir w (.ofText s)) (l.batch (String.ofList t.text)) (.ofText s) =
      [(.ofText s, [])] := by simp [clearing, hfile, hcovers]
  change (sink.receive (l.lint h (.ofText s) w).events).shown _ = []
  rw [Sink.shown_receive, hpubs, hclearing, Sink.last?_concat, if_pos (Path.same_iff.mpr rfl)]
  rfl

end Linter

end ComplexityLint
