import ComplexityLint.Text.Pieces
import ComplexityLint.Report.Row

/-!
The analyzer's report. The table stands between the first run of dashes and the first
`1 file analyzed` after it; lines of it that hold no row are skipped. What stands before the
dashes and after the marker is never read.
-/

namespace ComplexityLint.Report

open Text

/-- The words that end the table. -/
def marker : List Char := "1 file analyzed".toList

/-- The text of the table. -/
def body? (report : List Char) : Option (List Char) :=
  match report.dropWhile (· ≠ '-') with
  | [] => none
  | s@(_ :: _) => before? marker (s.dropWhile (· = '-'))

/-- The records of the table, row by row. -/
def records (body : List Char) : List FunctionRecord :=
  ((pieces '\n' (trim body)).filter fun line => trim line ≠ []).filterMap record?

/-- The records of a report. A report without a table has none. -/
def parse (report : String) : List FunctionRecord :=
  match body? report.toList with
  | none => []
  | some body => records body

end ComplexityLint.Report
