import ComplexityLint.CommandLine.Run
import ComplexityLint.Proofs.Diagnostic.Blocks
import ComplexityLint.Proofs.Disk.Logs
import ComplexityLint.Proofs.Linter.Logs
import ComplexityLint.Proofs.Output.Listing
import ComplexityLint.Proofs.Output.Printed
import ComplexityLint.Proofs.Output.Sarif
import ComplexityLint.Proofs.Threshold
import ComplexityLint.Shell.Run

/-!
Reporting on logs that are there. What is reported, and how the command ends, depends on the texts
of the logs that can be read and on nothing else that is on the disk but the configuration
(`verdict_of_parse`).
-/

namespace ComplexityLint

namespace Linter

theorem reports_readLogs (spawn : Spawn) (l : Linter) (logs : List Path) (d : Disk) :
    l.reports (.readLogs (Disk.host spawn) logs d) = d.texts logs := by
  simp only [reports, Disk.text?_logged]
  rfl

end Linter

namespace CommandLine

/-- The diagnostics of some reports, one report after another. -/
def findings (t : Thresholds) (texts : List String) : List Diagnostic :=
  texts.flatMap fun text => Batch.diagnostics (Batch.assemble t (Report.parse text))

theorem mem_findings {t : Thresholds} {texts : List String} {x : Diagnostic} :
    x ∈ findings t texts ↔ ∃ text ∈ texts, ∃ r ∈ Report.parse text, x ∈ Diagnostic.ofRecord t r := by
  simp only [findings, List.mem_flatMap, Batch.diagnostics_assemble]

theorem severity_of_mem_findings {t : Thresholds} {texts : List String} {x : Diagnostic}
    (hx : x ∈ findings t texts) : x.severity = .warning := by
  obtain ⟨_, _, r, _, hr⟩ := mem_findings.mp hx
  exact Output.severity_of_mem_ofRecord hr

theorem exists_mem_findings_iff {t : Thresholds} {texts : List String} :
    (∃ x, x ∈ findings t texts) ↔
      ∃ text ∈ texts, ∃ r ∈ Report.parse text, ∃ m, ∃ limit ∈ t.active m, limit < m.observe r := by
  simp only [mem_findings, ← Thresholds.evaluate_ne_nil_iff]
  constructor
  · rintro ⟨x, text, htext, r, hr, hx⟩
    refine ⟨text, htext, r, hr, fun hnil => ?_⟩
    rw [Diagnostic.ofRecord, hnil] at hx
    cases hx
  · rintro ⟨text, htext, r, hr, hne⟩
    obtain ⟨v, hv⟩ := List.exists_mem_of_ne_nil _ hne
    exact ⟨_, text, htext, r, hr, List.mem_map_of_mem hv⟩

/-- Every finding is a warning, so the grades are compared with this one. -/
theorem exists_failing_iff (s : Settings) {t : Thresholds} {texts : List String} :
    (∃ grade ∈ s.failOn, ∃ x ∈ (findings t texts).filter (fun x => s.minSeverity ≤ x.severity),
        grade ≤ x.severity) ↔
      (∃ grade ∈ s.failOn, grade ≤ .warning) ∧ s.minSeverity ≤ .warning ∧
        ∃ x, x ∈ findings t texts := by
  have hwarning : ∀ x ∈ findings t texts, x.severity = .warning := fun _ => severity_of_mem_findings
  constructor
  · rintro ⟨grade, hgrade, x, hx, hle⟩
    obtain ⟨hx, hmin⟩ := List.mem_filter.mp hx
    rw [hwarning x hx] at hle hmin
    exact ⟨⟨grade, hgrade, hle⟩, of_decide_eq_true hmin, x, hx⟩
  · rintro ⟨⟨grade, hgrade, hle⟩, hmin, x, hx⟩
    refine ⟨grade, hgrade, x, List.mem_filter.mpr ⟨hx, ?_⟩, ?_⟩
    · rw [hwarning x hx]
      exact decide_eq_true hmin
    · rwa [hwarning x hx]

/-! ### The report -/

open Json (Document)
open Output (Holds HasRun Shows Resolves warningsText)

/-- The warnings about some rows, each with its row. -/
def warnings (t : Thresholds) (rows : List FunctionRecord) : List (FunctionRecord × Diagnostic) :=
  rows.flatMap fun r => (t.evaluate r).map fun v => (r, Diagnostic.ofViolation r.file v)

/-- A text is a report on some warnings: lines for people; or a document of one array and of no other
value, with an object for each warning; or the document of a log, with a result for each warning that
names a rule of the log. -/
def Reports (colours : Bool) (rows : List (FunctionRecord × Diagnostic)) (text : String) : Format → Prop
  | .console => text = warningsText colours rows
  | .json => ∃ document items, text = document ++ "\n" ∧
      (∀ v, Document v document ↔ v = .array items) ∧
      List.Forall₂ (fun v (_, d) => Holds v d) items rows
  | .sarif => ∃ document log results rules, text = document ++ "\n" ∧
      (∀ v, Document v document ↔ v = log) ∧ HasRun log results rules ∧
      List.Forall₂ (fun v (r, d) => Shows v r d) results rows ∧ Resolves results rules

theorem warnings_eq (t : Thresholds) (rows : List FunctionRecord) :
    warnings t rows = Diagnostic.withRows t rows := by
  simp only [warnings, Diagnostic.withRows, Diagnostic.ofRecord, List.map_map]
  rfl

theorem mem_warnings {t : Thresholds} {rows : List FunctionRecord}
    {p : FunctionRecord × Diagnostic} (hp : p ∈ warnings t rows) :
    p.2 ∈ Diagnostic.ofRecord t p.1 :=
  Diagnostic.mem_withRows (warnings_eq t rows ▸ hp)

theorem map_snd_warnings (t : Thresholds) (texts : List String) :
    (warnings t (texts.flatMap Report.parse)).map Prod.snd = findings t texts := by
  rw [warnings_eq, Diagnostic.map_snd_withRows, List.flatMap_assoc, findings]
  exact congrArg (texts.flatMap ·) (funext fun text => (Batch.diagnostics_assemble t _).symm)

/-- **What is printed in each form.** -/
theorem reports_reportText (colours : Bool) (f : Format) {t : Thresholds}
    {rows : List (FunctionRecord × Diagnostic)} (hrows : ∀ p ∈ rows, p.2 ∈ Diagnostic.ofRecord t p.1) :
    Reports colours rows (reportText colours f (rows.map Prod.snd)) f := by
  cases f with
  | console => exact Output.console_eq_warningsText colours hrows
  | json =>
    refine ⟨_, _, rfl, fun _ => Json.document_pretty_iff, ?_⟩
    rw [List.map_map, List.forall₂_map_left_iff, List.forall₂_same]
    exact fun p _ => Output.holds_diagnosticJson p.2
  | sarif =>
    refine ⟨_, _, _, _, rfl, fun _ => Json.document_pretty_iff, Output.hasRun_sarif _, ?_,
      Output.resolves_of_eraseDups (Output.ids_rules _)⟩
    rw [List.map_map, List.forall₂_map_left_iff, List.forall₂_same]
    exact fun p hp => Output.shows_resultJson (hrows p hp)

example :
    let d : Diagnostic := ⟨.tokens, .warning, "f", "a.c", .ofLine 2⟩
    reportText false .json [d] = "\n".intercalate
      ["[",
       "  \x7b",
       "    \"metric\": \"tokenCount\",",
       "    \"severity\": \"warning\",",
       "    \"message\": \"f\",",
       "    \"file_path\": \"a.c\",",
       "    \"range\": \x7b",
       "      \"start\": \x7b",
       "        \"line\": 1,",
       "        \"character\": 0",
       "      \x7d,",
       "      \"end\": \x7b",
       "        \"line\": 1,",
       "        \"character\": 1",
       "      \x7d",
       "    \x7d,",
       "    \"source\": \"lizard-linter\"",
       "  \x7d",
       "]",
       ""] := by
  decide +kernel

/-! ### The reply -/

theorem failing_eq_nil_iff {s : Settings} {b : Batch} :
    failing s b = [] ↔ ¬ ∃ grade ∈ s.failOn, ∃ x ∈ reported s b, grade ≤ x.severity := by
  rw [failing]
  cases s.failOn with
  | none => simp
  | some grade => simp [List.filter_eq_nil_iff]

/-- The linter of a command that reads logs, before it reads any. -/
def readerOf (c : Config) (limits : Overrides) : Linter where
  config := { c with thresholds := c.thresholds.override limits }

/-- The warnings of some reports that are grave enough, each with its row. -/
def graveWarnings (s : Settings) (t : Thresholds) (texts : List String) :
    List (FunctionRecord × Diagnostic) :=
  (warnings t (texts.flatMap Report.parse)).filter fun p => s.minSeverity ≤ p.2.severity

theorem map_snd_graveWarnings (s : Settings) (t : Thresholds) (texts : List String) :
    (graveWarnings s t texts).map Prod.snd =
      (findings t texts).filter fun x => s.minSeverity ≤ x.severity := by
  rw [← map_snd_warnings, List.filter_map]
  rfl

theorem reported_batches (s : Settings) (c : Config) (limits : Overrides) (texts : List String) :
    reported s (texts.map (readerOf c limits).batch).flatten =
      (graveWarnings s (c.thresholds.override limits) texts).map Prod.snd := by
  rw [map_snd_graveWarnings, reported, findings, Batch.diagnostics, List.flatten_eq_flatMap,
    List.flatMap_assoc, List.flatMap_map]
  rfl

section Parse

variable (spawn : Spawn) (terminal : Terminal) (s : Settings) (logs : List Path) {dir : Path}
  (limits : Overrides) (summary : Summary) {d : Disk}

theorem parse_of_unloaded {f : Fault} (h : Config.load d dir = .error f) :
    parse spawn terminal s logs dir limits summary d = abort terminal s [] f.trace d := by
  rw [parse, h]

/-- **The reply is a matter of the texts**: its code and what is printed are those of a linter that
took in the texts of the logs. -/
theorem parse_of_loaded {loaded : Config.Loaded} (h : Config.load d dir = .ok loaded) :
    let l := readerOf loaded.config limits
    let b : Batch := ((d.texts logs).map l.batch).flatten
    let reply := parse spawn terminal s logs dir limits summary d
    reply.code = (if failing s b = [] then 0 else 1) ∧
      reply.output = printed terminal.colours s summary ((d.texts logs).foldl Linter.learn l) b := by
  intro l b reply
  let o := l.readLogs (Disk.host spawn) logs d
  have hreply : reply = conclude terminal s summary o.linter o.result
      (loadEvents loaded ++ o.events) [] o.world := by
    change parse spawn terminal s logs dir limits summary d = _
    rw [parse, h]
    rfl
  have hresult : o.result = b := by
    change (l.readLogs (Disk.host spawn) logs d).result = _
    rw [(Linter.readLogs_published _ l logs d).1, Linter.batches, Linter.reports_readLogs]
  have hlinter : o.linter = (d.texts logs).foldl Linter.learn l := by
    change (l.readLogs (Disk.host spawn) logs d).linter = _
    rw [Linter.readLogs_linter, ← Linter.reports_readLogs spawn l logs d, Linter.reports]
  rw [hreply, conclude, hresult, hlinter]
  exact ⟨rfl, rfl⟩

/-- **What is printed** is a report on the warnings of the texts, and tables behind it. -/
theorem reports_of_loaded {loaded : Config.Loaded} (h : Config.load d dir = .ok loaded) :
    ∃ report,
      Reports terminal.colours
        (graveWarnings s (loaded.config.thresholds.override limits) (d.texts logs)) report s.format ∧
      (parse spawn terminal s logs dir limits summary d).output = report ++
        (if summary.shown && s.format = .console then
          tables terminal.colours summary
            ((d.texts logs).foldl Linter.learn (readerOf loaded.config limits))
        else "") := by
  refine ⟨_, reports_reportText _ _ fun p hp => mem_warnings (List.mem_of_mem_filter hp), ?_⟩
  rw [(parse_of_loaded spawn terminal s logs limits summary h).2, printed, reported_batches]

end Parse

/-- **What a command that reads logs reports, and how it ends.** Without a configuration it fails and
reports nothing. Otherwise a limit on the command line takes the place of the configured one, and
zero lifts it. Reported, in each form, are the diagnostics of the logs that are there and can be read,
log by log and row by row, as far as they are grave enough; tables stand only behind them, on demand.
The command fails exactly if a grade to fail on is given and a reported diagnostic reaches it. As all
diagnostics are warnings, this means that neither grade is above a warning and some row of some log
has a number above a limit that is checked. Logs that are missing or cannot be read make no
difference. -/
theorem verdict_of_parse (spawn : Spawn) (terminal : Terminal) {args : List String} {s : Settings}
    {logs : List Path} {dir : Path} {limits : Overrides} {summary : Summary}
    (hargs : reading args = .run s (.parse logs dir limits summary)) (d : Disk) :
    let reply := run spawn terminal args d
    (∀ f, Config.load d dir = .error f → reply.code = 1 ∧ reply.output = "") ∧
    ∀ loaded, Config.load d dir = .ok loaded →
      let t := loaded.config.thresholds.override limits
      let rows := graveWarnings s t (d.texts logs)
      let ds := rows.map Prod.snd
      (∀ m, t.active m = match limits.get m with
        | some n => if n = 0 then none else some n
        | none => loaded.config.thresholds.active m) ∧
      ds = (findings t (d.texts logs)).filter (fun x => s.minSeverity ≤ x.severity) ∧
      (∃ report, Reports terminal.colours rows report s.format ∧
        reply.output = report ++
          (if summary.shown && s.format = .console then
            tables terminal.colours summary
              ((d.texts logs).foldl Linter.learn (readerOf loaded.config limits))
          else "")) ∧
      (reply.code = 0 ∨ reply.code = 1) ∧
      (reply.code = 1 ↔ ∃ grade ∈ s.failOn, ∃ x ∈ ds, grade ≤ x.severity) ∧
      (reply.code = 1 ↔ (∃ grade ∈ s.failOn, grade ≤ .warning) ∧ s.minSeverity ≤ .warning ∧
        ∃ text ∈ d.texts logs, ∃ r ∈ Report.parse text,
          ∃ m, ∃ limit ∈ t.active m, limit < m.observe r) ∧
      let readable := logs.filter fun log => (d.text? log).isSome
      let reply' := perform spawn terminal s (.parse readable dir limits summary) d
      reply'.code = reply.code ∧ reply'.output = reply.output := by
  intro reply
  have hreply : reply = parse spawn terminal s logs dir limits summary d := by
    change run spawn terminal args d = _
    rw [run, hargs]
    rfl
  refine ⟨fun f hf => ?_, fun loaded hloaded => ?_⟩
  · rw [hreply, parse_of_unloaded spawn terminal s logs limits summary hf]
    exact ⟨rfl, rfl⟩
  intro t rows ds
  obtain ⟨hcode, houtput⟩ := parse_of_loaded spawn terminal s logs limits summary hloaded
  have hds : reported s ((d.texts logs).map (readerOf loaded.config limits).batch).flatten = ds :=
    reported_batches s loaded.config limits (d.texts logs)
  have hfindings : ds = (findings t (d.texts logs)).filter (fun x => s.minSeverity ≤ x.severity) :=
    map_snd_graveWarnings s t (d.texts logs)
  have hfails : reply.code = 1 ↔ ∃ grade ∈ s.failOn, ∃ x ∈ ds, grade ≤ x.severity := by
    rw [hreply, hcode, ← hds, ← not_iff_not, ← failing_eq_nil_iff]
    split <;> simp [*]
  refine ⟨Thresholds.active_override _ limits, hfindings, ?_, ?_, hfails, ?_, ?_⟩
  · rw [hreply]
    exact reports_of_loaded spawn terminal s logs limits summary hloaded
  · rw [hreply, hcode]
    split
    · exact .inl rfl
    · exact .inr rfl
  · rw [hfails, hfindings, exists_failing_iff, exists_mem_findings_iff]
  · intro readable reply'
    obtain ⟨hcode', houtput'⟩ :=
      parse_of_loaded spawn terminal s readable limits summary hloaded
    rw [d.texts_filter] at hcode' houtput'
    rw [hreply]
    exact ⟨hcode'.trans hcode.symm, houtput'.trans houtput.symm⟩

/-- A project with a limit on tokens, and the log of a run on it. -/
def loggedDisk : Disk where
  items := [(["w"], .directory),
    (["w", "lizard-lint.toml"], .file (.text "[thresholds]\ntokenCount = 5\n") false),
    (["w", "a.log"], .file (.text "-\n5 3 9 1 6 f@1-9@a.c\n1 file analyzed") false)]
  here := ["w"]

/-- The configured limit is lifted and another one is set, which a function of the only readable log
exceeds. -/
theorem verdict_of_parse_of_two_overrides :
    let reply := run Shell.spawn {} ["parse", "no.log", "a.log", "--tokens", "0", "--ccn=2",
      "--fail-on", "warning"] loggedDisk
    reply.code = 1 ∧ reply.output =
      "warning: f: Cyclomatic complexity of 3 higher then threshold (2) [cyclomatic-complexity]\n" ++
        "  --> a.c:1\n\n\nFound 1 warning(s)\n" := by
  intro reply
  let limits : Overrides := ⟨some 2, some 0, none, none⟩
  let logs : List Path := [.ofText "no.log", .ofText "a.log"]
  let r : FunctionRecord := ⟨"f", "a.c", 3, 9, 1, 5, 1, 9⟩
  let x : Diagnostic :=
    ⟨.complexity, .warning, "f: Cyclomatic complexity of 3 higher then threshold (2)", "a.c",
      .ofLine 1⟩
  have hargs : reading ["parse", "no.log", "a.log", "--tokens", "0", "--ccn=2", "--fail-on",
      "warning"] = .run { failOn := some .warning } (.parse logs (.ofText ".") limits {}) := by
    decide +kernel
  have hconfig : (Config.load loggedDisk (.ofText ".")).toOption.map (·.config) =
      some { thresholds := { Thresholds.unset with tokens := some 5 } } := by
    decide +kernel
  obtain ⟨-, hreply⟩ := verdict_of_parse Shell.spawn {} hargs loggedDisk
  cases hload : Config.load loggedDisk (.ofText ".") with
  | error f => rw [hload] at hconfig; cases hconfig
  | ok loaded =>
    rw [hload] at hconfig
    have hloaded : loaded.config = { thresholds := { Thresholds.unset with tokens := some 5 } } :=
      Option.some.inj hconfig
    obtain ⟨-, -, ⟨report, hreport, houtput⟩, -, hcode, -, -⟩ := hreply loaded hload
    rw [hloaded] at hreport houtput hcode
    have hrows : graveWarnings { failOn := some .warning }
        (Thresholds.override { Thresholds.unset with tokens := some 5 } limits)
        (loggedDisk.texts logs) = [(r, x)] := by
      decide +kernel
    dsimp only at hreport houtput hcode
    rw [hrows] at hreport hcode
    have htext : report = warningsText false [(r, x)] := hreport
    refine ⟨hcode.mpr ⟨.warning, rfl, x, List.mem_singleton_self x, by decide⟩, ?_⟩
    rw [houtput, if_neg (by decide), String.append_empty, htext]
    decide +kernel

end CommandLine

end ComplexityLint
