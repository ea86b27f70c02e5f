import ComplexityLint.Diagnostic.Batch
import ComplexityLint.Linter.Event
import ComplexityLint.Project
import ComplexityLint.Registry
import ComplexityLint.Report.Body

/-!
The linter: it runs the analyzer on a path, reads the report, remembers every function and
publishes the diagnostics file by file. A request that fails leaves it as it was and publishes
nothing.
-/

namespace ComplexityLint

/-- What a linter knows. -/
structure Linter where
  config : Config := {}
  roots : List Path := []
  registry : Registry := {}

/-- How a request to a linter ended: with which result, in which state, and what was seen. -/
structure Outcome (σ α : Type) where
  result : α
  linter : Linter
  world : σ
  events : List Event

/-- A path to be linted, and how. -/
structure Job where
  target : Path
  /-- Whether the target is a directory. -/
  wide : Bool
  logDir : Path
  command : Command

namespace Linter

/-- Registers a project root, unless an equal path is registered. -/
def addRoot (l : Linter) (root : Path) : Linter :=
  { l with roots := Project.addRoot l.roots root }

/-- Replaces the configuration. -/
def setConfig (l : Linter) (c : Config) : Linter := { l with config := c }

/-- Stores a record, and marks its entry with its violations. -/
def remember (r : FunctionRecord) (vs : List Violation) (reg : Registry) : Registry :=
  let (reg, place) := reg.upsert r
  reg.mark place (Flags.ofViolations vs)

/-- The functions known of a file. -/
def fileAnalysis (l : Linter) (p : Path) : Option (List Entry) := l.registry.file? p.text

/-- Takes in a report: its diagnostics, and the linter that remembers its functions. -/
def ingest (l : Linter) (text : String) : Batch × Linter :=
  let (b, reg) := Batch.assembleWith l.config.thresholds remember (Report.parse text) l.registry
  (b, { l with registry := reg })

/-- The note on a report that was taken in. -/
def ingestNote (text : String) (b : Batch) : Note :=
  .ingested (Report.parse text).length b.count

/-- Publishes a batch, one file after another. -/
def publish (b : Batch) : List Event :=
  b.merged.map fun run => .published (.ofText run.file) run.diagnostics

variable {σ : Type}

/-- A request that failed before it changed the linter. -/
def refuse (l : Linter) (w : σ) (es : List Event) (f : Fault) :
    Outcome σ (Except Fault Batch) :=
  ⟨.error f, l, w, es⟩

/-- Reads the log of a finished run and publishes what it holds. A file about which nothing was
reported gets its diagnostics cleared. -/
def finish (h : Host σ) (l : Linter) (j : Job) (w : σ) (es : List Event) :
    Outcome σ (Except Fault Batch) :=
  if !h.pathExists w j.command.log then ⟨.ok [], l, w, es ++ [.noted (.noLog j.command.log)]⟩
  else match h.read w j.command.log with
    | .error f => l.refuse w es f
    | .ok text =>
      let (b, l) := l.ingest text
      let clearing := if !j.wide && !b.covers j.target then [.published j.target []] else []
      ⟨.ok b, l, w, es ++ .noted (ingestNote text b) :: publish b ++ clearing⟩

/-- Runs the analyzer once. -/
def launch (h : Host σ) (l : Linter) (j : Job) (w : σ) : Outcome σ (Except Fault Batch) :=
  let started : List Event := [.noted (.running j.command), .ran j.command]
  match h.run j.command w with
  | (.error f, w) => l.refuse w started f
  | (.ok e, w) =>
    let complaint : List Event := if e.success then [] else [.noted (.unsuccessful j.target e)]
    l.finish h j w (started ++ complaint)

/-- Makes room for a fresh log and runs the analyzer. -/
def analyze (h : Host σ) (l : Linter) (j : Job) (w : σ) : Outcome σ (Except Fault Batch) :=
  match h.ensureDir j.logDir w with
  | (.error f, w) => l.refuse w [] f
  | (.ok (), w) =>
    if h.pathExists w j.command.log then
      match h.remove j.command.log w with
      | (.error f, w) => l.refuse w [] f
      | (.ok (), w) => l.launch h j w
    else l.launch h j w

/-- The job of linting a path under a root. -/
def jobFor (l : Linter) (target root : Path) (wide : Bool) : Job :=
  let logDir := root.join l.config.logDir
  { target := target
    wide := wide
    logDir := logDir
    command := .ofConfig l.config target (Project.logFile logDir target) root }

/-- Lints a path: a directory, or a file in a language that can be analyzed, under one of the
project roots. Whether it is a directory is settled before anything is done. -/
def lint (h : Host σ) (l : Linter) (target : Path) (w : σ) : Outcome σ (Except Fault Batch) :=
  let wide := h.isDir w target
  if !wide && !Project.isSource target then l.refuse w [] (.unsupported target)
  else match Project.rootFor? l.roots target with
    | none => l.refuse w [] (.noRoot target)
    | some root => l.analyze h (l.jobFor target root wide) w

/-- Takes in one log that is there already. A log that is missing or cannot be read counts for
nothing. -/
def readLog (h : Host σ) (l : Linter) (log : Path) (w : σ) : Outcome σ Batch :=
  if !h.pathExists w log then ⟨[], l, w, [.noted (.missingLog log)]⟩
  else match h.read w log with
    | .error f => ⟨[], l, w, [.noted (.unreadableLog log f)]⟩
    | .ok text =>
      let (b, l) := l.ingest text
      ⟨b, l, w, .noted (ingestNote text b) :: publish b⟩

/-- Takes in logs one after another. -/
def readLogs (h : Host σ) (l : Linter) (logs : List Path) (w : σ) : Outcome σ Batch :=
  logs.foldl
    (fun o log =>
      let next := o.linter.readLog h log o.world
      ⟨o.result ++ next.result, next.linter, next.world, o.events ++ next.events⟩)
    ⟨[], l, w, []⟩

end Linter

end ComplexityLint
