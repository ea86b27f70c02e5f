import ComplexityLint.Text.Blank
import ComplexityLint.Text.Digit
import ComplexityLint.Report.Record

/-!
One row of the analyzer's table: five numbers, a blank, and a location written
`name@start-end@path`. A row may stand anywhere in a line. The first place where one can start is
taken, and there the longest name; a number that does not fit 32 bits then voids the row, and no
other reading is tried. The fifth number is the length, which nobody asks for.
-/

namespace ComplexityLint.Report

open Text

/-- Splits off the longest run of a class of characters, refusing an empty one. -/
def run? (p : Char → Bool) (s : List Char) : Option (List Char × List Char) :=
  let r := s.takeWhile p
  if r = [] then none else some (r, s.dropWhile p)

/-- Takes one given character off the front. -/
def char? (x : Char) : List Char → Option (List Char)
  | [] => none
  | c :: s => if c = x then some s else none

/-- The lines and the path of a function, as written. -/
structure Span where
  first : List Char
  last : List Char
  path : List Char
deriving DecidableEq

/-- Reads `@first-last@path` off the front. The path ends at a blank. -/
def span? (s : List Char) : Option Span := do
  let s ← char? '@' s
  let (first, s) ← run? isDigit s
  let s ← char? '-' s
  let (last, s) ← run? isDigit s
  let s ← char? '@' s
  let (path, _) ← run? (!isBlank ·) s
  return ⟨first, last, path⟩

/-- The longest name on the first line that a span follows, with that span. -/
def location? : List Char → Option (List Char × Span)
  | [] => none
  | c :: s =>
    let longer := if c = '\n' then none else (location? s).map fun (name, span) => (c :: name, span)
    longer <|> (span? (c :: s)).map ([], ·)

/-- A row as written. -/
structure Row where
  lines : List Char
  complexity : List Char
  tokens : List Char
  parameters : List Char
  length : List Char
  name : List Char
  span : Span
deriving DecidableEq

/-- Reads a number and the blanks behind it. -/
def column? (s : List Char) : Option (List Char × List Char) := do
  let (n, s) ← run? isDigit s
  let (_, s) ← run? isBlank s
  return (n, s)

/-- Reads a row that starts with the first character. -/
def Row.at? (s : List Char) : Option Row := do
  let (lines, s) ← column? s
  let (complexity, s) ← column? s
  let (tokens, s) ← column? s
  let (parameters, s) ← column? s
  let (length, s) ← run? isDigit s
  let s ← char? ' ' s
  let (name, span) ← location? s
  return { lines, complexity, tokens, parameters, length, name, span }

/-- The row that starts first. -/
def Row.find? : List Char → Option Row
  | [] => none
  | c :: s => match Row.at? (c :: s) with
    | some row => some row
    | none => Row.find? s

/-- The record that a row writes, if its numbers fit. -/
def Row.record? (r : Row) : Option FunctionRecord := do
  let lines ← word? r.lines
  let complexity ← word? r.complexity
  let tokens ← word? r.tokens
  let parameters ← word? r.parameters
  let startLine ← word? r.span.first
  let endLine ← word? r.span.last
  return { name := String.ofList r.name, file := String.ofList r.span.path
           complexity, tokens, parameters, lines, startLine, endLine }

/-- The record on a line of the table. -/
def record? (line : List Char) : Option FunctionRecord := (Row.find? line).bind Row.record?

end ComplexityLint.Report
