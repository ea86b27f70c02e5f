import ComplexityLint.Linter.Memory
import ComplexityLint.Proofs.Diagnostic.Batch
import ComplexityLint.Proofs.Linter.Service
import ComplexityLint.Proofs.Registry.History

/-!
Whole runs of a linter. Whatever is asked of it, in whatever order and in whatever surroundings, its
registry is the one that the records it took in describe (`registry_run`); so what it knows of a file
can be read off the history of its intakes.
-/

namespace ComplexityLint

/-- The report of a reply. -/
def Reply.text? : Reply → Option String
  | report text => some text
  | _ => none

namespace Outcome

variable {σ : Type}

/-- What came of two requests, one after the other. -/
def followedBy (o next : Outcome σ Batch) : Outcome σ Batch :=
  ⟨o.result ++ next.result, next.linter, next.world, o.events ++ next.events⟩

@[simp] theorem followedBy_result (o next : Outcome σ Batch) :
    (o.followedBy next).result = o.result ++ next.result := rfl

@[simp] theorem followedBy_linter (o next : Outcome σ Batch) :
    (o.followedBy next).linter = next.linter := rfl

@[simp] theorem followedBy_events (o next : Outcome σ Batch) :
    (o.followedBy next).events = o.events ++ next.events := rfl

theorem followedBy_assoc (o o' o'' : Outcome σ Batch) :
    (o.followedBy o').followedBy o'' = o.followedBy (o'.followedBy o'') := by
  simp [followedBy]

end Outcome

namespace Linter

/-- What a linter can be asked for. The surroundings of a request are any at all. -/
inductive Request : Type 1
  | ingest (text : String)
  | lint {σ : Type} (h : Host σ) (p : Path) (w : σ)
  | readLogs {σ : Type} (h : Host σ) (logs : List Path) (w : σ)
  | setConfig (c : Config)
  | addRoot (root : Path)

/-- The linter after a report. -/
def learn (l : Linter) (text : String) : Linter := (l.ingest text).2

/-- The linter after a request. -/
def perform (l : Linter) : Request → Linter
  | .ingest text => l.learn text
  | .lint h p w => (l.lint h p w).linter
  | .readLogs h logs w => (l.readLogs h logs w).linter
  | .setConfig c => l.setConfig c
  | .addRoot root => l.addRoot root

/-- The linter after some requests. -/
def run (l : Linter) (rs : List Request) : Linter := rs.foldl perform l

/-- The reports that a request has the linter take in. -/
def reports (l : Linter) : Request → List String
  | .ingest text => [text]
  | .lint h p w =>
    match l.job h p w with
    | .error _ => []
    | .ok j => (h.serve j w).reply.text?.toList
  | .readLogs h logs w => logs.filterMap fun log => (h.logged log w).text?
  | .setConfig _ => []
  | .addRoot _ => []

/-- The records of a report, with the limits in force. -/
def intakes (l : Linter) (text : String) : List Intake :=
  (Report.parse text).map fun r => ⟨r, l.config.thresholds⟩

/-- Everything that is taken in during some requests, in order. -/
def history (l : Linter) : List Request → List Intake
  | [] => []
  | r :: rs => (l.reports r).flatMap l.intakes ++ (l.perform r).history rs

/-! ### One request -/

theorem ingest_eq (l : Linter) (text : String) :
    l.ingest text = (Batch.assemble l.config.thresholds (Report.parse text),
      { l with registry := (l.intakes text).foldl Registry.take l.registry }) := by
  rw [ingest, Batch.assembleWith_eq, intakes, List.foldl_map]
  rfl

/-- The reports are taken in one after another. -/
theorem foldl_learn (l : Linter) (texts : List String) :
    texts.foldl learn l =
      { l with registry := (texts.flatMap l.intakes).foldl Registry.take l.registry } := by
  induction texts generalizing l with
  | nil => rfl
  | cons text texts ih =>
    rw [List.foldl_cons, ih, learn, ingest_eq, List.flatMap_cons, List.foldl_append]
    rfl

theorem conclude_linter {σ : Type} (l : Linter) (j : Job) (s : Served σ) :
    (l.conclude j s).linter = s.reply.text?.toList.foldl learn l := by
  rcases s with ⟨_ | _ | text, w, es⟩ <;> rfl

/-- A lint changes nothing but the registry. -/
theorem lint_linter {σ : Type} (h : Host σ) (l : Linter) (p : Path) (w : σ) :
    (l.lint h p w).linter = { l with registry := (l.lint h p w).linter.registry } := by
  rw [lint_eq]
  cases l.job h p w with
  | error f => rfl
  | ok j => simp only [conclude_linter, foldl_learn]

theorem readLog_linter {σ : Type} (h : Host σ) (l : Linter) (log : Path) (w : σ) :
    (l.readLog h log w).linter = (h.logged log w).text?.toList.foldl learn l ∧
      (l.readLog h log w).world = w := by
  cases hex : h.pathExists w log with
  | false => simp [readLog, Host.logged, hex, Reply.text?]
  | true =>
    cases hread : h.read w log <;> simp [readLog, Host.logged, hex, hread, Reply.text?, learn]

theorem foldl_readLog {σ : Type} (h : Host σ) (logs : List Path) (o : Outcome σ Batch) :
    logs.foldl (fun o log => o.followedBy (o.linter.readLog h log o.world)) o =
      o.followedBy (o.linter.readLogs h logs o.world) := by
  induction logs generalizing o with
  | nil => simp [readLogs, Outcome.followedBy]
  | cons log logs ih =>
    have hstart : o.linter.readLogs h (log :: logs) o.world =
        (o.linter.readLog h log o.world).followedBy _ := ih (o.linter.readLog h log o.world)
    rw [List.foldl_cons, ih, hstart, Outcome.followedBy_assoc]
    rfl

/-- Logs are read one after another, each by the linter that the ones before it left. -/
theorem readLogs_cons {σ : Type} (h : Host σ) (l : Linter) (log : Path) (logs : List Path) (w : σ) :
    l.readLogs h (log :: logs) w = (l.readLog h log w).followedBy
      ((l.readLog h log w).linter.readLogs h logs (l.readLog h log w).world) :=
  foldl_readLog h logs (l.readLog h log w)

theorem readLogs_linter {σ : Type} (h : Host σ) (l : Linter) (logs : List Path) (w : σ) :
    (l.readLogs h logs w).linter =
      (logs.filterMap fun log => (h.logged log w).text?).foldl learn l := by
  induction logs generalizing l with
  | nil => rfl
  | cons log logs ih =>
    obtain ⟨hlinter, hworld⟩ := readLog_linter h l log w
    rw [readLogs_cons, Outcome.followedBy_linter, hworld, ih, hlinter, List.filterMap_cons]
    cases (h.logged log w).text? <;> rfl

theorem perform_eq_foldl (l : Linter) (r : Request) :
    (l.perform r).registry = ((l.reports r).foldl learn l).registry := by
  cases r with
  | ingest text => rfl
  | lint h p w =>
    simp only [perform, reports, lint_eq]
    cases l.job h p w with
    | error f => rfl
    | ok j => exact congrArg registry (conclude_linter l j _)
  | readLogs h logs w => exact congrArg registry (readLogs_linter h l logs w)
  | setConfig c => rfl
  | addRoot root => rfl

/-- **What a request does to the registry**: the records of its reports are stored, one after
another, and nothing else happens to it. -/
theorem registry_perform (l : Linter) (r : Request) :
    (l.perform r).registry = ((l.reports r).flatMap l.intakes).foldl Registry.take l.registry := by
  rw [perform_eq_foldl, foldl_learn]

/-! ### Runs -/

/-- **What a run does to the registry**: it stores the history of the run. -/
theorem registry_run (l : Linter) (rs : List Request) :
    (l.run rs).registry = (l.history rs).foldl Registry.take l.registry := by
  induction rs generalizing l with
  | nil => rfl
  | cons r rs ih => rw [history, List.foldl_append, ← registry_perform, ← ih]; rfl

/-- A linter that started without a registry has the registry that its history describes. -/
theorem registry_run_of_nil {l : Linter} (hl : l.registry = {}) (rs : List Request) :
    (l.run rs).registry = Registry.ofHistory (l.history rs) := by
  rw [registry_run, hl]
  exact Registry.foldl_take [] _

/-- Taking in a report once more under the same limits changes nothing and finds the same. -/
theorem ingest_ingest {l : Linter} {is : List Intake} (hl : l.registry = Registry.ofHistory is)
    (text : String) (c : Config) (hc : c.thresholds = l.config.thresholds) :
    ((l.ingest text).2.setConfig c).ingest text =
      ((l.ingest text).1, (l.ingest text).2.setConfig c) := by
  have hintakes : ((l.ingest text).2.setConfig c).intakes text = l.intakes text := by
    rw [intakes, setConfig, hc, intakes]
  have hsame : (l.intakes text).foldl Registry.take
        ((l.intakes text).foldl Registry.take l.registry) =
      (l.intakes text).foldl Registry.take l.registry := by
    rw [hl, Registry.foldl_take, Registry.foldl_take, Registry.ofHistory_append_self]
  rw [ingest_eq ((l.ingest text).2.setConfig c), hintakes, ingest_eq]
  simp only [setConfig, hc, hsame]

theorem fileAnalysis_ofText (l : Linter) (f : String) :
    l.fileAnalysis (.ofText f) = l.registry.file? f := by
  rw [fileAnalysis, Path.text_ofText]

/-- **What a linter knows after a run.** Of a file of which no record was taken in, nothing. Of any
other file, one entry per function name, in the order of first sight, which holds the last record of
this name and the marks of its violations under the limits of that time. The files come in the order
of first sight. So a report that is taken in once more under the same limits changes nothing, and
neither does a new configuration. -/
theorem known_of_requests (config : Config) (roots : List Path) (rs : List Request) :
    let start : Linter := { config := config, roots := roots }
    let l := start.run rs
    let is := start.history rs
    (∀ f, l.fileAnalysis (.ofText f) = none ↔ ∀ i ∈ is, i.record.file ≠ f) ∧
      (∀ f es, l.fileAnalysis (.ofText f) = some es →
        es.map (·.record.name) =
          ((is.filter fun i => i.record.file = f).map (·.record.name)).eraseDups ∧
        ∀ e ∈ es, ∃ i,
          (is.filter fun i => i.record.file = f ∧ i.record.name = e.record.name).getLast? = some i ∧
          e.record = i.record ∧ e.flags = Flags.ofViolations (i.limits.evaluate i.record)) ∧
      l.registry.files = (is.map (·.record.file)).eraseDups ∧
      (∀ text c, c.thresholds = l.config.thresholds →
        ((l.ingest text).2.setConfig c).ingest text =
          ((l.ingest text).1, (l.ingest text).2.setConfig c)) ∧
      ∀ c, (l.setConfig c).registry = l.registry := by
  intro start l is
  have hl : l.registry = Registry.ofHistory is := registry_run_of_nil rfl rs
  have hfile : ∀ f, l.fileAnalysis (.ofText f) =
      if f ∈ is.map (·.record.file) then
        some (Registry.entriesOf (is.filter fun i => i.record.file = f)) else none := fun f => by
    rw [fileAnalysis_ofText, hl, Registry.file?_ofHistory]
  refine ⟨fun f => ?_, fun f es hes => ?_, ?_, ingest_ingest hl, fun c => rfl⟩
  · rw [hfile]
    simp
  · rw [hfile] at hes
    split at hes
    · cases hes
      refine ⟨Registry.names_entriesOf _, fun e he => ?_⟩
      have hlast := Registry.latest?_of_mem_entriesOf he
      rw [Registry.latest?, List.filter_filter, Option.map_eq_some_iff] at hlast
      obtain ⟨i, hi, rfl⟩ := hlast
      refine ⟨i, ?_, rfl, rfl⟩
      simp only [← hi, Bool.decide_and, Bool.and_comm]
    · cases hes
  · rw [hl, Registry.files_ofHistory]

/-- Two reports under different limits, with a lint between them that fails: the later record is the
one that counts, with the limits of its time, and taking it in again changes nothing. -/
theorem known_of_requests_of_two_reports :
    let limited : Config := { thresholds := { Thresholds.unset with complexity := some 5 } }
    let again := "---\n3 8 20 1 4 f@2-5@a.c\n1 file analyzed"
    let l := Linter.run { config := limited }
      [.ingest "---\n3 9 20 1 4 f@1-4@a.c\n1 file analyzed", .lint Memory.host ⟨"a.txt"⟩ {},
        .setConfig {}, .ingest again]
    l.fileAnalysis (.ofText "b.c") = none ∧
      (∃ es, l.fileAnalysis (.ofText "a.c") = some es ∧ es.map (·.record.name) = ["f"] ∧
        ∀ e ∈ es, e.record.complexity = 8 ∧ e.flags = Flags.clear) ∧
      ((l.ingest again).2.setConfig {}).ingest again =
        ((l.ingest again).1, (l.ingest again).2.setConfig {}) := by
  intro limited again l
  obtain ⟨hnone, hknown, -, hagain, -⟩ := known_of_requests limited []
    [.ingest "---\n3 9 20 1 4 f@1-4@a.c\n1 file analyzed", .lint Memory.host ⟨"a.txt"⟩ {},
      .setConfig {}, .ingest again]
  refine ⟨(hnone "b.c").mpr (by decide +kernel), ?_, hagain again {} rfl⟩
  have hsome : (l.fileAnalysis (.ofText "a.c")).isSome := by decide +kernel
  obtain ⟨es, hes⟩ := Option.isSome_iff_exists.mp hsome
  obtain ⟨hnames, hlast⟩ := hknown "a.c" es hes
  have hf : es.map (·.record.name) = ["f"] := hnames.trans (by decide +kernel)
  refine ⟨es, hes, hf, fun e he => ?_⟩
  obtain ⟨i, hi, hrecord, hflags⟩ := hlast e he
  have hname : e.record.name = "f" := by
    have hmem := List.mem_map_of_mem (f := (·.record.name)) he
    rwa [hf, List.mem_singleton] at hmem
  have hi' : some i = some ⟨⟨"f", "a.c", 8, 20, 1, 3, 2, 5⟩, Thresholds.unset⟩ := by
    rw [← hi, hname]
    decide +kernel
  cases hi'
  rw [hrecord, hflags]
  exact ⟨rfl, rfl⟩

end Linter

end ComplexityLint
