import ComplexityLint.Editor.Protocol
import ComplexityLint.Output.Console
import ComplexityLint.Proofs.Diagnostic.Blocks
import ComplexityLint.Proofs.Diagnostic.Lines
import ComplexityLint.Proofs.Json.Reading
import ComplexityLint.Proofs.Linter.Attribution
import ComplexityLint.Proofs.Linter.Freshness

/-!
The lines of everything that a linter finds. What some requests return are the diagnostics of the rows
that they take in, one row after another (`returnedIn_eq`), and nothing else is published. So each
diagnostic stands on the line of its row, wherever it is shown, and its line never overflows
(`lines_of_requests`).
-/

namespace ComplexityLint

open Event (publications)
open Text (Filled digits filled_digits isBlank)

/-! ### What is shown of a line -/

namespace Output

open Editor (editorJson)

/-- Wherever a diagnostic is shown, it is on the same line. Reports for people and logs count lines
from one, lists and editors from zero. -/
structure ShownOn (d : Diagnostic) (n : ℕ) : Prop where
  people : ∀ colours, ∃ front,
    diagnosticText colours d = front ++ d.file ++ ":" ++ toString n ++ "\n\n"
  log : ∃ w, (resultJson d).items? ["locations"] = some [w] ∧
    w.whole? ["physicalLocation", "region", "startLine"] = some (n : ℤ)
  listStart : (diagnosticJson d).whole? ["range", "start", "line"] = some ((n - 1 : ℕ) : ℤ)
  listStop : (diagnosticJson d).whole? ["range", "end", "line"] = some ((n - 1 : ℕ) : ℤ)
  editorStart : (editorJson d).whole? ["range", "start", "line"] = some ((n - 1 : ℕ) : ℤ)
  editorStop : (editorJson d).whole? ["range", "end", "line"] = some ((n - 1 : ℕ) : ℤ)

theorem shownOn {d : Diagnostic} {n : ℕ} (h : d.OnLine n) : ShownOn d n := by
  have hline : some (d.line.toNat : ℤ) = some (n : ℤ) := by rw [h.line]
  have hstart : some (d.range.start.line.toNat : ℤ) = some ((n - 1 : ℕ) : ℤ) := by rw [h.start]
  have hstop : some (d.range.stop.line.toNat : ℤ) = some ((n - 1 : ℕ) : ℤ) := by
    rw [← h.single, h.start]
  refine ⟨fun colours => ?_, ⟨_, rfl, hline⟩, hstart, hstop, hstart, hstop⟩
  rw [diagnosticText, h.line]
  exact ⟨_, rfl⟩

end Output

/-! ### Every line occurs -/

/-- Whether a function has a violation is told by its numbers alone. -/
theorem Thresholds.evaluate_ne_nil_of_observe {t : Thresholds} {r r' : FunctionRecord}
    (h : ∀ m : Metric, m.observe r' = m.observe r) (hr : t.evaluate r ≠ []) : t.evaluate r' ≠ [] := by
  rw [evaluate_ne_nil_iff] at hr ⊢
  simpa only [h] using hr

namespace Report

/-- Any number is the line of a row that is read, whatever else the row says. -/
theorem exists_parse_of_startLine (r : FunctionRecord) (n : UInt32) :
    ∃ text, parse text = [{ r with name := "f", file := "a.c", startLine := n }] := by
  let row : FunctionRecord := { r with name := "f", file := "a.c", startLine := n }
  let t : Table := ⟨[], 0, [.plain row], []⟩
  have hname : '\n' ∉ "f".toList := by decide
  have hpath : Filled (!isBlank ·) "a.c".toList := by decide
  have hfree : SpanFree ('@' :: "a.c".toList) := by decide
  have hmarker : ¬ marker <:+: (Line.plain row).text := by
    intro h
    -- no number, no gap and neither text has the letter
    have hdigits : ∀ k, 'z' ∉ digits k := fun k => (filled_digits k).notMem (by decide)
    have hz : 'z' ∈ (Line.plain row).text := h.subset (by decide)
    simp [Line.plain, Line.text, Layout.line, row, hdigits] at hz
  have hsound : ∀ line ∈ t.lines, line.Sound :=
    List.forall_mem_singleton.mpr ⟨⟨hname, hpath, hfree⟩, hmarker⟩
  exact ⟨String.ofList t.text, parse_text (by simp [t]) hsound⟩

/-- Limits that some function exceeds are exceeded on every line. -/
theorem exists_mem_parse_of_startLine {t : Thresholds} (ht : ∃ r, t.evaluate r ≠ []) (n : UInt32) :
    ∃ text, ∃ r ∈ parse text, r.startLine = n ∧ ∃ d, d ∈ Diagnostic.ofRecord t r := by
  obtain ⟨r, hr⟩ := ht
  obtain ⟨text, hparse⟩ := exists_parse_of_startLine r n
  let row : FunctionRecord := { r with name := "f", file := "a.c", startLine := n }
  have hobserve : ∀ m : Metric, m.observe row = m.observe r := fun m => by cases m <;> rfl
  obtain ⟨v, hv⟩ := List.exists_mem_of_ne_nil _ (Thresholds.evaluate_ne_nil_of_observe hobserve hr)
  exact ⟨text, row, by simp [hparse, row], rfl, _, List.mem_map_of_mem hv⟩

end Report

namespace Linter

/-! ### What one request returns -/

/-- The diagnostics that a request returns. A lint that fails returns none. -/
def returned (l : Linter) : Request → List Diagnostic
  | .ingest text => (l.ingest text).1.diagnostics
  | .lint h p w =>
    match (l.lint h p w).result with
    | .error _ => []
    | .ok b => b.diagnostics
  | .readLogs h logs w => (l.readLogs h logs w).result.diagnostics
  | .setConfig _ => []
  | .addRoot _ => []

theorem diagnostics_batch (l : Linter) (text : String) :
    (l.batch text).diagnostics =
      (l.intakes text).flatMap fun i => Diagnostic.ofRecord i.limits i.record := by
  rw [batch, Batch.diagnostics_assemble, intakes, List.flatMap_map]

/-- A request returns what its reports say, one after another. -/
theorem returned_eq (l : Linter) (r : Request) :
    l.returned r = (l.reports r).flatMap fun text => (l.batch text).diagnostics := by
  cases r with
  | ingest text => simp [returned, reports, ingest_fst]
  | lint h p w =>
    simp only [returned, reports, lint_eq]
    cases l.job h p w with
    | error f => rfl
    | ok j =>
      cases hs : (h.serve j w).reply <;>
        simp [conclude, hs, refuse, Reply.text?, ingest_fst, Batch.diagnostics]
  | readLogs h logs w =>
    rw [returned, (readLogs_published h l logs w).1, batches, Batch.diagnostics,
      List.flatten_eq_flatMap, List.flatMap_assoc, List.flatMap_map]
    rfl
  | setConfig c => rfl
  | addRoot root => rfl

theorem subset_of_mem_publish {b : Batch} {pub : Path × List Diagnostic}
    (hpub : pub ∈ publications (publish b)) : pub.2 ⊆ b.diagnostics := by
  rw [publications_publish] at hpub
  obtain ⟨f, -, rfl⟩ := List.mem_map.mp hpub
  exact (List.filter_sublist.flatMap _).subset

/-- A request publishes nothing that it does not return. -/
theorem subset_of_mem_seen {l : Linter} {r : Request} {pub : Path × List Diagnostic}
    (hpub : pub ∈ publications (l.seen r)) : pub.2 ⊆ l.returned r := by
  cases r with
  | lint h p w =>
    rcases upshot_of_lint h l p w with ⟨-, hpubs, -, -⟩ | ⟨-, text, hreports⟩
    · rw [seen, hpubs] at hpub
      cases hpub
    · have hreturned : l.returned (.lint h p w) = (l.batch text).diagnostics := by
        rw [returned_eq, hreports, List.flatMap_singleton]
      rw [hreturned]
      rw [seen, (lint_of_reports hreports).2] at hpub
      rcases List.mem_append.mp hpub with hpublish | hclear
      · exact subset_of_mem_publish hpublish
      · rw [clearing, List.mem_ite_nil_right, List.mem_singleton] at hclear
        rw [hclear.2]
        exact List.nil_subset _
  | readLogs h logs w =>
    rw [seen, (readLogs_published h l logs w).2] at hpub
    obtain ⟨b, hb, hpub⟩ := List.mem_flatMap.mp hpub
    obtain ⟨text, htext, rfl⟩ := List.mem_map.mp hb
    rw [returned_eq]
    exact fun d hd => List.mem_flatMap.mpr ⟨text, htext, subset_of_mem_publish hpub hd⟩
  | _ => cases hpub

/-! ### Runs -/

/-- The diagnostics that some requests return, in order. -/
def returnedIn (l : Linter) : List Request → List Diagnostic
  | [] => []
  | r :: rs => l.returned r ++ (l.perform r).returnedIn rs

/-- **A run returns the diagnostics of the rows that it takes in**, one row after another. -/
theorem returnedIn_eq (l : Linter) (rs : List Request) :
    l.returnedIn rs = (l.history rs).flatMap fun i => Diagnostic.ofRecord i.limits i.record := by
  induction rs generalizing l with
  | nil => rfl
  | cons r rs ih =>
    rw [returnedIn, ih, returned_eq, history, List.flatMap_append, List.flatMap_assoc]
    simp only [diagnostics_batch]

theorem subset_of_mem_seenIn {l : Linter} {rs : List Request} {pub : Path × List Diagnostic}
    (hpub : pub ∈ publications (l.seenIn rs)) : pub.2 ⊆ l.returnedIn rs := by
  induction rs generalizing l with
  | nil => cases hpub
  | cons r rs ih =>
    rw [seenIn, Event.publications_append] at hpub
    rcases List.mem_append.mp hpub with hfirst | hrest
    · exact fun d hd => List.mem_append_left _ (subset_of_mem_seen hfirst hd)
    · exact fun d hd => List.mem_append_right _ (ih hrest hd)

/-- **No line overflows in any run.** Whatever is asked of a linter, it returns the diagnostics of the
rows that it takes in, one row after another, and it publishes no others; of a report that is taken in
on its own these are the diagnostics of its batch. Each of them stands on the line of its row, where
line zero counts as line one: its range does not leave this line, which counted from zero is at most
the last but one of the numbers of 32 bits, so that one can be added without overflow; and people,
logs, lists and editors are shown this same line. No line is out of reach: where the limits can be
exceeded at all, each number is the line of a row that some report has a diagnostic for. -/
theorem lines_of_requests (l : Linter) (rs : List Request) :
    (∀ text, l.returnedIn [.ingest text] =
        (Batch.assemble l.config.thresholds (Report.parse text)).diagnostics) ∧
      l.returnedIn rs = (l.history rs).flatMap (fun i => Diagnostic.ofRecord i.limits i.record) ∧
      (∀ pub ∈ publications (l.seenIn rs), pub.2 ⊆ l.returnedIn rs) ∧
      (∀ i ∈ l.history rs, ∀ d ∈ Diagnostic.ofRecord i.limits i.record,
        d.OnLine (max 1 i.record.startLine.toNat) ∧
          Output.ShownOn d (max 1 i.record.startLine.toNat)) ∧
      ∀ n : UInt32, (∃ r, l.config.thresholds.evaluate r ≠ []) →
        ∃ text, ∃ i ∈ l.history [.ingest text], i.record.startLine = n ∧
          ∃ d ∈ l.returnedIn [.ingest text],
            d ∈ Diagnostic.ofRecord i.limits i.record ∧ d.OnLine (max 1 n.toNat) := by
  refine ⟨fun text => ?_, returnedIn_eq l rs, fun pub hpub => subset_of_mem_seenIn hpub,
    fun i _ d hd => ?_, ?_⟩
  · rw [returnedIn, returnedIn, List.append_nil, returned, ingest_fst, batch]
  · have hline := Diagnostic.onLine_of_mem_ofRecord hd
    exact ⟨hline, Output.shownOn hline⟩
  · intro n hlimits
    obtain ⟨text, r, hr, hn, d, hd⟩ := Report.exists_mem_parse_of_startLine hlimits n
    have hi : ⟨r, l.config.thresholds⟩ ∈ l.history [.ingest text] := by
      simpa [history, reports, intakes] using hr
    have hreturned : d ∈ l.returnedIn [.ingest text] := by
      rw [returnedIn_eq]
      exact List.mem_flatMap.mpr ⟨_, hi, hd⟩
    exact ⟨text, _, hi, hn, d, hreturned, hd, hn ▸ Diagnostic.onLine_of_mem_ofRecord hd⟩

/-- A lint of two functions, on line zero and on the largest line. -/
theorem lines_of_requests_of_extremes :
    let text := "-\n5 3 9 1 6 f@0-9@/w/a.c\n5 4 9 1 6 g@4294967295-1@/w/a.c\n1 file analyzed"
    let m : Memory := { script := { report := some text } }
    let rs : List Request := [.lint Memory.host ⟨"/w/a.c"⟩ m]
    let d : Diagnostic :=
      ⟨.complexity, .warning, "f: Cyclomatic complexity of 3 higher then threshold (2)", "/w/a.c",
        ⟨⟨0, 0⟩, ⟨0, 1⟩⟩⟩
    let d' : Diagnostic :=
      ⟨.complexity, .warning, "g: Cyclomatic complexity of 4 higher then threshold (2)", "/w/a.c",
        ⟨⟨4294967294, 0⟩, ⟨4294967294, 1⟩⟩⟩
    strict.returnedIn rs = [d, d'] ∧ (.ofText "/w/a.c", [d, d']) ∈ publications (strict.seenIn rs) ∧
      [d, d'] ⊆ strict.returnedIn rs ∧ d.OnLine 1 ∧ d'.OnLine 4294967295 ∧
      Output.ShownOn d' 4294967295 ∧
      ∃ text' e, e ∈ strict.returnedIn [.ingest text'] ∧ e.OnLine 4294967295 := by
  intro text m rs d d'
  let i : Intake := ⟨⟨"f", "/w/a.c", 3, 9, 1, 5, 0, 9⟩, strict.config.thresholds⟩
  let i' : Intake := ⟨⟨"g", "/w/a.c", 4, 9, 1, 5, 4294967295, 1⟩, strict.config.thresholds⟩
  have hreports : strict.reports (.lint Memory.host ⟨"/w/a.c"⟩ m) = [text] := by decide +kernel
  have hintakes : strict.intakes text = [i, i'] := by decide +kernel
  have hhistory : strict.history rs = [i, i'] := by simp [rs, history, hreports, hintakes]
  have hrow : Diagnostic.ofRecord i.limits i.record = [d] := by decide +kernel
  have hrow' : Diagnostic.ofRecord i'.limits i'.record = [d'] := by decide +kernel
  have hpub : (.ofText "/w/a.c", [d, d']) ∈ publications (strict.seenIn rs) := by decide +kernel
  obtain ⟨-, hreturned, hpublished, hlines, hevery⟩ := lines_of_requests strict rs
  have hd := hlines i (by simp [hhistory]) d (by simp [hrow])
  have hd' := hlines i' (by simp [hhistory]) d' (by simp [hrow'])
  have hexceeded : strict.config.thresholds.evaluate i.record ≠ [] := by decide +kernel
  obtain ⟨text', -, -, -, e, he, -, honline⟩ := hevery 4294967295 ⟨i.record, hexceeded⟩
  refine ⟨?_, hpub, hpublished _ hpub, hd.1, hd'.1, hd'.2, text', e, he, honline⟩
  rw [hreturned, hhistory, List.flatMap_cons, List.flatMap_cons, hrow, hrow']
  rfl

end Linter

end ComplexityLint
