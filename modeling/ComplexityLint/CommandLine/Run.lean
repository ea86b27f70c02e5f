import ComplexityLint.CommandLine.Help
import ComplexityLint.CommandLine.Report
import ComplexityLint.Config.Load
import ComplexityLint.Disk.Process

/-!
Carrying out a command on a disk. A command ends with code zero, with code one and the reason on
the standard error, or, if its line cannot be read, with code two.
-/

namespace ComplexityLint.CommandLine

open Output

/-- A part of what goes to the standard error. -/
inductive Remark
  | line (text : String)
  /-- How long the analysis took. -/
  | elapsed
deriving DecidableEq

/-- How a command ended and what it printed. -/
structure Reply where
  code : Nat
  output : String := ""
  remarks : List Remark := []
  disk : Disk

/-- How things are shown. -/
structure Terminal where
  colours : Bool := false
  /-- Whether the journal is shown. -/
  journal : Bool := true

/-- A note of the journal as a line. -/
def noteLine (n : Note) : String :=
  (match n.level with
    | .debug => "DEBUG "
    | .warn => " WARN ") ++ n.text

/-- The lines of the journal that are shown. Only those who ask twice see everything. -/
def journal (t : Terminal) (s : Settings) (es : List Event) : List Remark :=
  if !t.journal then []
  else ((Event.notes es).filter fun n => n.level = .warn || 2 ≤ s.verbosity).map
    fun n => .line (noteLine n)

/-- The last line of a command that failed. -/
def errorLine (reason : String) : Remark := .line ("Error: " ++ reason)

/-- The current directory as a path. -/
def currentDir (d : Disk) : Path := ⟨"/" ++ "/".intercalate d.here⟩

/-- The notes on a configuration that was loaded. -/
def loadEvents (c : Config.Loaded) : List Event :=
  (c.source.map fun p => Event.noted (.loaded p)).toList

/-- Ends a command that has a batch to report. -/
def conclude (t : Terminal) (s : Settings) (summary : Summary) (l : Linter) (b : Batch)
    (es : List Event) (timing : List Remark) (d : Disk) : Reply :=
  let bad := failing s b
  let verdict := match s.failOn with
    | some grade => if bad = [] then [] else [errorLine (failureText bad.length grade)]
    | none => []
  { code := if bad = [] then 0 else 1
    output := printed t.colours s summary l b
    remarks := journal t s es ++ timing ++ verdict
    disk := d }

/-- Ends a command that failed. -/
def abort (t : Terminal) (s : Settings) (es : List Event) (reason : String) (d : Disk) : Reply :=
  { code := 1, remarks := journal t s es ++ [errorLine reason], disk := d }

/-- The remarks on how long the analysis took. -/
def timingRemarks (colours : Bool) (count : Nat) : List Remark :=
  [.line "", .line (Style.paint colours { bold := true } "Timing:"), .elapsed,
   .line ("  Diagnostics:   " ++ toString count)]

/-- What cannot be made of an empty path. -/
def emptyPath : String := "cannot make an empty path absolute"

/-- The project root of a target: the target itself if it is a directory, else what it is in. -/
def defaultRoot (d : Disk) (target : Path) : Path :=
  if d.isDir target then target else target.parent?.getD target

/-- The root that is given, as an absolute path, or the default one. -/
def rootOf? (d : Disk) (target : Path) : Option Path → Option Path
  | some r => Path.absolute? (currentDir d) r
  | none => some (defaultRoot d target)

/-- Runs the analyzer on a target and reports. -/
def check (spawn : Spawn) (t : Terminal) (s : Settings) (path : Path) (root : Option Path)
    (limits : Overrides) (summary : Summary) (timing : Bool) (d : Disk) : Reply :=
  match Path.absolute? (currentDir d) path with
  | none => abort t s [] ("cannot resolve " ++ path.text ++ ": " ++ emptyPath) d
  | some target =>
    match rootOf? d target root with
    | none => abort t s [] emptyPath d
    | some root =>
      match Config.load d root with
      | .error f => abort t s [] f.trace d
      | .ok loaded =>
        let config :=
          { loaded.config with thresholds := loaded.config.thresholds.override limits }
        let linter : Linter := { config := config, roots := [root] }
        let o := linter.lint (Disk.host spawn) target d
        let es := loadEvents loaded ++ o.events
        match o.result with
        | .error f => abort t s es f.trace o.world
        | .ok b =>
          let remarks :=
            if timing then timingRemarks t.colours (reported s b).length else []
          conclude t s summary o.linter b es remarks o.world

/-- Reports on logs that are there. -/
def parse (spawn : Spawn) (t : Terminal) (s : Settings) (logs : List Path) (configDir : Path)
    (limits : Overrides) (summary : Summary) (d : Disk) : Reply :=
  match Config.load d configDir with
  | .error f => abort t s [] f.trace d
  | .ok loaded =>
    let config := { loaded.config with thresholds := loaded.config.thresholds.override limits }
    let linter : Linter := { config := config }
    let o := linter.readLogs (Disk.host spawn) logs d
    conclude t s summary o.linter o.result (loadEvents loaded ++ o.events) [] o.world

/-- Writes the first configuration of a project. -/
def init (t : Terminal) (s : Settings) (dir : Path) (d : Disk) : Reply :=
  let document := dir.join (.ofText Config.fileName)
  if d.pathExists document then abort t s [] (Config.fileName ++ " already exists") d
  else match d.write document (.text Config.template) with
    | .error r => abort t s [] ("cannot write " ++ document.text ++ ": " ++ r.message) d
    | .ok d => { code := 0, output := "Created " ++ document.text ++ "\n", disk := d }

/-- Shows the metrics and their limits. -/
def metrics (t : Terminal) (s : Settings) (d : Disk) : Reply :=
  match Config.load d (.ofText ".") with
  | .error f => abort t s [] f.trace d
  | .ok loaded =>
    { code := 0
      output := metricsText t.colours loaded.config.thresholds
      remarks := journal t s (loadEvents loaded)
      disk := d }

/-- Carries out a request. Serving an editor is left to whoever holds the connection, and ends
well when that is closed. -/
def perform (spawn : Spawn) (t : Terminal) (s : Settings) (r : Request) (d : Disk) : Reply :=
  match r with
  | .check target root limits summary timing =>
    check spawn t s target root limits summary timing d
  | .parse logs configDir limits summary => parse spawn t s logs configDir limits summary d
  | .init dir => init t s dir d
  | .metrics => metrics t s d
  | .serve => { code := 0, disk := d }

/-- The name and number of the program. -/
def versionText : String := Output.toolName ++ " " ++ Output.toolVersion ++ "\n"

/-- What is said of a command line that cannot be read. -/
def usageText : String := "usage: lizard-lint check|parse|init|metrics|lsp [OPTIONS] [ARGUMENTS]"

/-- Carries out a command line. -/
def run (spawn : Spawn) (t : Terminal) (args : List String) (d : Disk) : Reply :=
  match reading args with
  | .usage => { code := 2, remarks := [.line usageText], disk := d }
  | .version => { code := 0, output := versionText, disk := d }
  | .help command => { code := 0, output := helpText command, disk := d }
  | .run s r => perform spawn t s r d

theorem run_of_reading {args : List String} {s : Settings} {r : Request}
    (h : reading args = .run s r) (spawn : Spawn) (t : Terminal) (d : Disk) :
    run spawn t args d = perform spawn t s r d := by
  rw [run, h]

/-- The standard error of a command, once it is known how long the analysis took. -/
def Reply.errorText (elapsed : String) (r : Reply) : String :=
  String.join (r.remarks.map fun
    | .line text => text ++ "\n"
    | .elapsed => "  Analysis time: " ++ elapsed ++ "\n")

end ComplexityLint.CommandLine
