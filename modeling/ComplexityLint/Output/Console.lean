import ComplexityLint.Diagnostic.Basic
import ComplexityLint.Output.Style

/-!
Diagnostics for people: two lines and a blank one for each, then how many there are of each grade.
-/

namespace ComplexityLint.Output

open Style

/-- The style of a grade's name. -/
def severityStyle : Severity → Style
  | .error => { bold := true, colour := some .red }
  | .warning => { bold := true, colour := some .yellow }
  | .info => { bold := true, colour := some .blue }

/-- One diagnostic. -/
def diagnosticText (colours : Bool) (d : Diagnostic) : String :=
  paint colours (severityStyle d.severity) d.severity.name
    ++ paint colours { bold := true } ":" ++ " " ++ d.message ++ " "
    ++ paint colours { dimmed := true } ("[" ++ d.metric.id ++ "]") ++ "\n"
    ++ "  " ++ paint colours { colour := some .blue } "-->" ++ " " ++ d.file ++ ":"
    ++ toString d.line.toNat ++ "\n\n"

/-- The number of diagnostics of a grade. -/
def countOf (s : Severity) (ds : List Diagnostic) : Nat := (ds.filter (·.severity = s)).length

/-- How many diagnostics there are of each grade that occurs, the gravest first. -/
def tally (colours : Bool) (ds : List Diagnostic) : String :=
  let part (s : Severity) (c : Colour) (noun : String) : List String :=
    if countOf s ds = 0 then []
    else [paint colours { colour := some c } (toString (countOf s ds) ++ " " ++ noun ++ "(s)")]
  ", ".intercalate (part .error .red "error" ++ part .warning .yellow "warning"
    ++ part .info .blue "info")

/-- The report on a list of diagnostics. -/
def console (colours : Bool) (ds : List Diagnostic) : String :=
  if ds.isEmpty then paint colours { colour := some .green } "No complexity issues found." ++ "\n"
  else String.join (ds.map (diagnosticText colours)) ++ "\nFound " ++ tally colours ds ++ "\n"

end ComplexityLint.Output
