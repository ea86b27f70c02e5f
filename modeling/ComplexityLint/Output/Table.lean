import ComplexityLint.Output.Style
import ComplexityLint.Registry
import ComplexityLint.Text.Blank

/-!
The functions of a file as a table: a header, a rule, a line for each function. Numbers that are
marked stand out in colour.
-/

namespace ComplexityLint.Output

open Style

/-- What the lines of the table are ordered by. -/
inductive SortKey
  | name
  | lines
  | complexity
  | tokens
  | parameters
  | startLine
deriving DecidableEq

namespace SortKey

/-- All keys. -/
def all : List SortKey := [name, lines, complexity, tokens, parameters, startLine]

/-- The word that selects a key. -/
def word : SortKey → String
  | name => "name"
  | lines => "nloc"
  | complexity => "ccn"
  | tokens => "tokens"
  | parameters => "params"
  | startLine => "line"

/-- Whether a record comes no later than another in ascending order. -/
def atMost (k : SortKey) (a b : FunctionRecord) : Bool :=
  match k with
  | name => a.name ≤ b.name
  | lines => a.lines ≤ b.lines
  | complexity => a.complexity ≤ b.complexity
  | tokens => a.tokens ≤ b.tokens
  | parameters => a.parameters ≤ b.parameters
  | startLine => a.startLine ≤ b.startLine

end SortKey

/-- Orders entries by a key. Entries with equal keys keep their order, in both directions. -/
def sortEntries (k : SortKey) (descending : Bool) (es : List Entry) : List Entry :=
  es.mergeSort fun a b =>
    if descending then k.atMost b.record a.record else k.atMost a.record b.record

/-- A text and how it is shown. -/
structure Cell where
  text : String
  style : Style := .plain

/-- The words of the header. -/
def header : List Cell :=
  ["function", "NLOC", "CCN", "tokens", "params", "lines"].map fun s => ⟨s, { bold := true }⟩

/-- The cells of a function. -/
def rowCells (e : Entry) : List Cell :=
  let mark (m : Metric) : Cell :=
    ⟨toString (m.observe e.record).toNat,
      if e.flags.get m then { bold := true, colour := some .red } else .plain⟩
  [⟨e.record.name, .plain⟩, mark .lines, mark .complexity, mark .tokens, mark .parameters,
    ⟨toString e.record.startLine.toNat ++ "-" ++ toString e.record.endLine.toNat, .plain⟩]

/-- The width of each column: the most bytes that one of its cells takes. -/
def widths (rows : List (List Cell)) : List Nat :=
  rows.foldl (fun ws row => ws.zipWith (fun w c => max w c.text.utf8ByteSize) row)
    (header.map (·.text.utf8ByteSize))

/-- A cell in its column. What is missing of the width, in characters, is filled with blanks. -/
def padded (colours left : Bool) (width : Nat) (c : Cell) : String :=
  let pad := String.ofList (List.replicate (width - c.text.length) ' ')
  let text := paint colours c.style c.text
  if left then text ++ pad else pad ++ text

/-- A line of the table. The first column is flush left, the others flush right. -/
def tableLine (colours : Bool) (ws : List Nat) (row : List Cell) : String :=
  let parts := match ws, row with
    | w :: ws, c :: cs => padded colours true w c :: ws.zipWith (padded colours false) cs
    | _, _ => []
  String.ofList (Text.trimRight ("  ".intercalate parts).toList) ++ "\n"

/-- The whole table. -/
def table (colours : Bool) (k : SortKey) (descending : Bool) (es : List Entry) : String :=
  let rows := (sortEntries k descending es).map rowCells
  let ws := widths rows
  let rule := String.ofList (List.replicate (ws.foldr (· + ·) (2 * (ws.length - 1))) '-')
  tableLine colours ws header ++ rule ++ "\n" ++ String.join (rows.map (tableLine colours ws))

end ComplexityLint.Output
