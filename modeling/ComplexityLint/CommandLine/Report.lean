import ComplexityLint.CommandLine.Request
import ComplexityLint.Linter.Basic
import ComplexityLint.Output.Console
import ComplexityLint.Output.Listing
import ComplexityLint.Output.Sarif

/-!
What a command prints: the diagnostics that are grave enough, in one of three forms, and tables of
the functions on demand.
-/

namespace ComplexityLint.CommandLine

open Output

/-- The diagnostics that are grave enough to be reported. -/
def reported (s : Settings) (b : Batch) : List Diagnostic :=
  b.diagnostics.filter fun d => s.minSeverity ≤ d.severity

/-- The report on some diagnostics. -/
def reportText (colours : Bool) (f : Format) (ds : List Diagnostic) : String :=
  match f with
  | .console => console colours ds
  | .json => (listing ds).pretty ++ "\n"
  | .sarif => (sarif ds).pretty ++ "\n"

/-- The table of a file, under its name. -/
def titled (colours : Bool) (s : Summary) (file : String) (es : List Entry) : String :=
  "\n" ++ Style.paint colours { bold := true, underline := true } file ++ "\n"
    ++ table colours s.key (!s.ascending) es

/-- A table for each file that was analyzed. A file of which nothing is known is passed over. -/
def tables (colours : Bool) (s : Summary) (l : Linter) : String :=
  String.join (l.registry.files.filterMap fun file =>
    (l.fileAnalysis (.ofText file)).map (titled colours s file))

/-- All that a command prints about a batch. Tables go with the form for people only. -/
def printed (colours : Bool) (s : Settings) (summary : Summary) (l : Linter) (b : Batch) : String :=
  reportText colours s.format (reported s b)
    ++ if summary.shown && s.format = .console then tables colours summary l else ""

/-- The diagnostics that make a command fail. -/
def failing (s : Settings) (b : Batch) : List Diagnostic :=
  match s.failOn with
  | none => []
  | some grade => (reported s b).filter fun d => grade ≤ d.severity

/-- What is said about diagnostics that make a command fail. -/
def failureText (count : Nat) (grade : Severity) : String :=
  "Found " ++ toString count ++ " diagnostic(s) at or above " ++ grade.name ++ " severity"

/-- One line of the list of metrics. -/
def metricLine (colours : Bool) (t : Thresholds) (m : Metric) : String :=
  let right (width : Nat) (s : String) : String :=
    String.ofList (List.replicate (width - s.length) ' ') ++ s
  let left (width : Nat) (s : String) : String :=
    s ++ String.ofList (List.replicate (width - s.length) ' ')
  let limit := match t.active m with
    | some n => right 5 (toString n.toNat)
    | none => Style.paint colours { dimmed := true } (right 5 "off")
  "  " ++ Style.paint colours { colour := some .cyan } (left 24 m.id) ++ " " ++ left 28 m.key ++ " "
    ++ limit ++ "  " ++ m.description ++ "\n"

/-- The list of metrics. -/
def metricsText (colours : Bool) (t : Thresholds) : String :=
  "Available metrics (evaluation order):\n\n" ++ String.join (Metric.all.map (metricLine colours t))
    ++ "\nSet limits under [thresholds] in lizard-lint.toml; 0 disables a check.\n"

end ComplexityLint.CommandLine
