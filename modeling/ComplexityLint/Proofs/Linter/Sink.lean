import ComplexityLint.Proofs.Diagnostic.Batch
import ComplexityLint.Proofs.Linter.History
import ComplexityLint.Proofs.Linter.Refusal
import Mathlib.Logic.Function.Basic

/-!
What is left to be seen of a lint. A sink keeps one list of diagnostics per path and replaces it as
a whole. A batch is published file name by file name, so where its report writes a path in several
ways, only what stands under the last of them stays (`shown_of_lint`).
-/

namespace ComplexityLint

namespace Event

@[simp] theorem publications_append (es es' : List Event) :
    publications (es ++ es') = publications es ++ publications es' := List.filterMap_append

@[simp] theorem publications_noted_cons (n : Note) (es : List Event) :
    publications (.noted n :: es) = publications es := rfl

end Event

open Event (publications)

/-- What is shown for each path. A path is known by its steps. -/
abbrev Sink := List Component → List Diagnostic

namespace Sink

def shown (s : Sink) (p : Path) : List Diagnostic := s p.components

/-- Replaces the list of a path. -/
def set (s : Sink) (p : Path) (ds : List Diagnostic) : Sink := Function.update s p.components ds

/-- The sink after some events. -/
def receive (s : Sink) (es : List Event) : Sink :=
  (publications es).foldl (fun s pub => s.set pub.1 pub.2) s

/-- The list that was last published for a path. -/
def last? (pubs : List (Path × List Diagnostic)) (p : Path) : Option (List Diagnostic) :=
  (pubs.filter fun pub => pub.1.same p).getLast?.map (·.2)

theorem shown_set (s : Sink) (p q : Path) (ds : List Diagnostic) :
    (s.set p ds).shown q = if p.same q then ds else s.shown q := by
  rw [shown, set, Function.update_apply, shown]
  exact if_congr (by rw [Path.same_iff, eq_comm]) rfl rfl

theorem last?_append (pubs pubs' : List (Path × List Diagnostic)) (q : Path) :
    last? (pubs ++ pubs') q = (last? pubs' q).or (last? pubs q) := by
  rw [last?, List.filter_append, List.getLast?_append, Option.map_or]
  rfl

theorem last?_concat (pubs : List (Path × List Diagnostic)) (p q : Path) (ds : List Diagnostic) :
    last? (pubs ++ [(p, ds)]) q = if p.same q then some ds else last? pubs q := by
  rw [last?, List.filter_append]
  cases hp : p.same q <;> simp [last?, hp]

/-- **A sink shows what came last.** -/
theorem shown_receive (s : Sink) (es : List Event) (q : Path) :
    (s.receive es).shown q = (last? (publications es) q).getD (s.shown q) := by
  rw [receive]
  induction publications es using List.reverseRecOn with
  | nil => rfl
  | append_singleton pubs pub ih =>
    rw [List.foldl_append, List.foldl_cons, List.foldl_nil, shown_set, ih, last?_concat]
    split <;> rfl

end Sink

namespace Linter

variable {σ : Type} {h : Host σ} {l : Linter} {p : Path} {w : σ}

theorem publications_publish (b : Batch) :
    publications (publish b) = b.files.map fun f => (Path.ofText f, b.ofFile f) := by
  rw [publish, Batch.merged_eq, List.map_map]
  induction b.files with
  | nil => rfl
  | cons f fs ih => exact congrArg _ ih

/-- Of a batch, the list of the last spelling is published last. -/
theorem last?_publish (b : Batch) (q : Path) :
    Sink.last? (publications (publish b)) q = (b.spellings q).getLast?.map b.ofFile := by
  rw [publications_publish, Sink.last?, List.filter_map, List.getLast?_map, Option.map_map]
  rfl

/-! ### What a lint publishes -/

/-- The batch of a report, with the limits in force. -/
def batch (l : Linter) (text : String) : Batch :=
  Batch.assemble l.config.thresholds (Report.parse text)

theorem ingest_fst (l : Linter) (text : String) : (l.ingest text).1 = l.batch text := by
  rw [ingest_eq, batch]

theorem target_of_job {j : Job} (hj : l.job h p w = .ok j) :
    j.target = p ∧ j.wide = h.isDir w p := by
  obtain ⟨root, -, rfl, -⟩ := exists_root_of_job hj
  exact ⟨rfl, rfl⟩

/-- The clearing of a file of which a batch does not speak. -/
def clearing (wide : Bool) (b : Batch) (p : Path) : List (Path × List Diagnostic) :=
  if !wide && !b.covers p then [(p, [])] else []

theorem last?_append_clearing {b : Batch} {q : Path} (hq : b.covers q = true)
    (pubs : List (Path × List Diagnostic)) (wide : Bool) (p : Path) :
    Sink.last? (pubs ++ clearing wide b p) q = Sink.last? pubs q := by
  rw [clearing]
  split
  · rename_i hclear
    rw [Bool.and_eq_true, Bool.not_eq_true', Bool.not_eq_true'] at hclear
    -- a path with the steps of `q` is covered, so it is not cleared
    have hother : p.same q = false := by
      by_contra hsame
      rw [Bool.not_eq_false] at hsame
      rw [Batch.covers_congr hsame, hq] at hclear
      cases hclear.2
    rw [Sink.last?_concat, hother]
    rfl
  · rw [List.append_nil]

/-- A lint takes in one report, or none, and then it has no diagnostics. -/
theorem reports_lint_cases {b : Batch} (hb : (l.lint h p w).result = .ok b) :
    b = [] ∨ ∃ text, l.reports (.lint h p w) = [text] := by
  rw [lint_eq] at hb
  simp only [reports]
  cases hj : l.job h p w with
  | error f => rw [hj] at hb; cases hb
  | ok j =>
    rw [hj] at hb
    dsimp only at hb ⊢
    cases hs : (h.serve j w).reply with
    | failed f => rw [conclude_of_failed l hs] at hb; cases hb
    | silent =>
      simp only [conclude, hs] at hb
      cases hb
      exact .inl rfl
    | report text => exact .inr ⟨text, rfl⟩

/-- What a lint that took in a report finds and publishes: the batch of the report, and nothing for
a file of which the report does not speak. -/
theorem lint_of_reports {text : String} (hr : l.reports (.lint h p w) = [text]) :
    (l.lint h p w).result = .ok (l.batch text) ∧
      publications (l.lint h p w).events =
        publications (publish (l.batch text)) ++ clearing (h.isDir w p) (l.batch text) p := by
  simp only [reports] at hr
  cases hj : l.job h p w with
  | error f => rw [hj] at hr; cases hr
  | ok j =>
    rw [hj] at hr
    have hreply : (h.serve j w).reply = .report text := by
      cases hs : (h.serve j w).reply <;> simp [hs, Reply.text?] at hr
      rw [hr]
    obtain ⟨htarget, hwide⟩ := target_of_job hj
    have hsilent := h.publications_serve j w
    simp only [lint_eq, hj, conclude, hreply, htarget, hwide, ingest_fst, true_and]
    rw [Event.publications_append, Event.publications_append, hsilent, List.nil_append,
      Event.publications_noted_cons]
    congr 1
    unfold clearing
    split <;> rfl

/-- **What is shown after a lint.** A path of which the report speaks shows the diagnostics of the
spelling that comes first in the report last. These are all diagnostics of the path exactly if the
other spellings have none. -/
theorem shown_of_lint (h : Host σ) (l : Linter) (p : Path) (w : σ) (s : Sink) {b : Batch}
    (hb : (l.lint h p w).result = .ok b) {q : Path} (hq : b.covers q = true) :
    let list := (s.receive (l.lint h p w).events).shown q
    ∃ f ∈ (b.spellings q).getLast?, list = b.ofFile f ∧
      (list = b.ofPath q ↔
        ∀ run ∈ b, (Path.ofText run.file).same q = true → run.file ≠ f → run.diagnostics = []) := by
  intro list
  obtain ⟨text, hr⟩ : ∃ text, l.reports (.lint h p w) = [text] :=
    (reports_lint_cases hb).resolve_left fun hnil => by rw [hnil] at hq; cases hq
  obtain ⟨hresult, hpubs⟩ := lint_of_reports hr
  rw [Except.ok.inj (hresult.symm.trans hb)] at hpubs
  obtain ⟨f, hf⟩ : ∃ f, f ∈ (b.spellings q).getLast? :=
    ⟨_, List.getLast?_eq_getLast_of_ne_nil (Batch.covers_iff.mp hq)⟩
  have hlist : list = b.ofFile f := by
    change (s.receive _).shown q = _
    rw [Sink.shown_receive, hpubs, last?_append_clearing hq, last?_publish, Option.mem_def.mp hf]
    rfl
  refine ⟨f, hf, hlist, ?_⟩
  rw [hlist]
  exact Batch.ofFile_eq_ofPath_iff (List.mem_of_mem_getLast? hf)

/-- A linter of one project that lets a complexity of two pass, but no more. -/
def strict : Linter where
  config := { thresholds := { Thresholds.unset with complexity := some 2 } }
  roots := [⟨"/w"⟩]

/-- A file that a report writes in two ways loses what stands under the first of them. -/
theorem shown_of_lint_of_two_spellings :
    let text := "-\n5 3 9 1 6 f@1-9@/w/a.c\n5 4 9 1 6 g@11-19@/w//a.c\n1 file analyzed"
    let b := Batch.assemble strict.config.thresholds
      [⟨"f", "/w/a.c", 3, 9, 1, 5, 1, 9⟩, ⟨"g", "/w//a.c", 4, 9, 1, 5, 11, 19⟩]
    let m : Memory := { script := { report := some text } }
    let o := strict.lint Memory.host ⟨"/w/a.c"⟩ m
    o.result = .ok b ∧ b.covers ⟨"/w/a.c"⟩ = true ∧
      ∀ s : Sink, (s.receive o.events).shown ⟨"/w/a.c"⟩ ≠ b.ofPath ⟨"/w/a.c"⟩ := by
  intro text b m o
  have hr : strict.reports (.lint Memory.host ⟨"/w/a.c"⟩ m) = [text] := by decide +kernel
  have hparse : Report.parse text =
      [⟨"f", "/w/a.c", 3, 9, 1, 5, 1, 9⟩, ⟨"g", "/w//a.c", 4, 9, 1, 5, 11, 19⟩] := by decide +kernel
  have hb : strict.batch text = b := congrArg (Batch.assemble _) hparse
  obtain ⟨hresult, hpubs⟩ := lint_of_reports hr
  rw [hb] at hresult hpubs
  have hcovers : b.covers ⟨"/w/a.c"⟩ = true := by decide +kernel
  refine ⟨hresult, hcovers, fun s => ?_⟩
  rw [Sink.shown_receive, hpubs, last?_append_clearing hcovers, last?_publish]
  have hlast : (b.spellings ⟨"/w/a.c"⟩).getLast? = some "/w//a.c" := by decide +kernel
  rw [hlast]
  change b.ofFile "/w//a.c" ≠ _
  decide +kernel

/-- Runs of another file between those of a path take nothing away, nor does a clean run of the path
under another spelling. -/
theorem shown_of_lint_of_clean_spelling :
    let text := "-\n5 1 9 1 6 e@1-2@/w/./a.c\n5 3 9 1 6 f@3-9@/w/a.c\n5 7 9 1 6 x@1-9@/w/b.c\n" ++
      "5 4 9 1 6 g@11-19@/w/a.c\n1 file analyzed"
    let b := Batch.assemble strict.config.thresholds
      [⟨"e", "/w/./a.c", 1, 9, 1, 5, 1, 2⟩, ⟨"f", "/w/a.c", 3, 9, 1, 5, 3, 9⟩,
        ⟨"x", "/w/b.c", 7, 9, 1, 5, 1, 9⟩, ⟨"g", "/w/a.c", 4, 9, 1, 5, 11, 19⟩]
    let m : Memory := { script := { report := some text } }
    let o := strict.lint Memory.host ⟨"/w/a.c"⟩ m
    o.result = .ok b ∧ b.covers ⟨"/w//a.c"⟩ = true ∧
      ∀ s : Sink, (s.receive o.events).shown ⟨"/w//a.c"⟩ = b.ofPath ⟨"/w//a.c"⟩ := by
  intro text b m o
  have hr : strict.reports (.lint Memory.host ⟨"/w/a.c"⟩ m) = [text] := by decide +kernel
  have hparse : Report.parse text =
      [⟨"e", "/w/./a.c", 1, 9, 1, 5, 1, 2⟩, ⟨"f", "/w/a.c", 3, 9, 1, 5, 3, 9⟩,
        ⟨"x", "/w/b.c", 7, 9, 1, 5, 1, 9⟩, ⟨"g", "/w/a.c", 4, 9, 1, 5, 11, 19⟩] := by decide +kernel
  have hb : o.result = .ok b := by
    rw [(lint_of_reports hr).1, batch, hparse]
  have hq : b.covers ⟨"/w//a.c"⟩ = true := by decide +kernel
  refine ⟨hb, hq, fun s => ?_⟩
  obtain ⟨f, hf, -, hiff⟩ := shown_of_lint Memory.host strict ⟨"/w/a.c"⟩ _ s hb hq
  obtain rfl : "/w/a.c" = f := by
    have hlast : (b.spellings ⟨"/w//a.c"⟩).getLast? = some "/w/a.c" := by decide +kernel
    exact Option.some.inj (hlast.symm.trans hf)
  exact hiff.mpr (by decide +kernel)

end Linter

end ComplexityLint
