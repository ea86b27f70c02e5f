import ComplexityLint.Severity
import ComplexityLint.Threshold

/-!
Diagnostics: a violation, with the file and the place that an editor marks. Places count lines and
characters from zero; the analyzer counts lines from one.
-/

namespace ComplexityLint

/-- A place in a file, counted from zero. -/
structure Position where
  line : UInt32
  character : UInt32
deriving DecidableEq

/-- The text from a place up to, but not including, another. -/
structure Range where
  start : Position
  stop : Position
deriving DecidableEq

/-- The first character of a line that is counted from one. Line zero is taken for line one. -/
def Range.ofLine (line : UInt32) : Range :=
  let l := if line = 0 then 0 else line - 1
  ⟨⟨l, 0⟩, ⟨l, 1⟩⟩

/-- One finding, ready to be shown. -/
structure Diagnostic where
  metric : Metric
  severity : Severity
  message : String
  file : String
  range : Range
deriving DecidableEq

namespace Diagnostic

/-- Who speaks. -/
def source : String := "lizard-linter"

/-- A violation in a file, as a warning. -/
def ofViolation (file : String) (v : Violation) : Diagnostic where
  metric := v.metric
  severity := .warning
  message := v.message
  file := file
  range := .ofLine v.startLine

/-- The line, counted from one. -/
def line (d : Diagnostic) : UInt32 := d.range.start.line + 1

/-- The diagnostics of one record. -/
def ofRecord (t : Thresholds) (r : FunctionRecord) : List Diagnostic :=
  (t.evaluate r).map (ofViolation r.file)

end Diagnostic

end ComplexityLint
