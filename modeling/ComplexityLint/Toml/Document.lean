import ComplexityLint.Toml.Quoted
import ComplexityLint.Toml.Scalar
import ComplexityLint.Toml.Tree

/-!
TOML documents. Reading one gives its table of typed values, or nothing at all: a document with a
fault anywhere has no table.
-/

namespace ComplexityLint.Toml

open Text (Reader)

/-- Characters of a key without quotes. -/
def isBare (c : Char) : Bool := c.isAlphanum || c == '_' || c == '-'

/-- Reads a key without dots. -/
def simpleKey? : Reader String := fun s =>
  match s.takeWhile isBare with
  | [] => (quotedLine? s).map fun (k, s) => (String.ofList k, s)
  | k => some (String.ofList k, s.dropWhile isBare)

/-- Reads a key of at most `fuel` parts, and the blanks behind it: the leading parts and the last
one. -/
def keyUpTo : Nat → Reader (List String × String)
  | 0, _ => none
  | fuel + 1, s => do
    let (k, s) ← simpleKey? s
    match skipSpace s with
    | '.' :: s =>
      let ((path, last), s) ← keyUpTo fuel (skipSpace s)
      return ((k :: path, last), s)
    | s => return (([], k), s)

/-- How many parts a key may have, and how deep arrays and inline tables may be nested. -/
def maxDepth : Nat := 80

/-- Reads a key, and the blanks behind it. -/
def key? : Reader (List String × String) := keyUpTo maxDepth

/-- Reads a key, the equals sign and what a reader of values takes. On either side of the equals
sign may stand what `gap` skips. -/
def assignment? (gap : List Char → Option (List Char)) (value : Reader Value) :
    Reader (List String × String × Value) := fun s => do
  let ((path, last), s) ← key? s
  let s ← exactly? '=' (← gap s)
  let (v, s) ← value (← gap s)
  return ((path, last, v), s)

/-- Reads the rest of an array of at most `fuel` items. -/
def itemsUpTo (value : Reader Value) : Nat → Reader (List Value)
  | 0, _ => none
  | fuel + 1, s => do
    match ← gap? s with
    | ']' :: s => return ([], s)
    | s =>
      let (v, s) ← value s
      match ← gap? s with
      | ']' :: s => return ([v], s)
      | ',' :: s =>
        let (vs, s) ← itemsUpTo value fuel s
        return (v :: vs, s)
      | _ => none

/-- Reads the rest of an inline table of at most `fuel` assignments, on top of some members. Line
breaks and comments may stand between all its tokens, but not within a key. -/
def fieldsUpTo (value : Reader Value) : Nat → Members → Reader Members
  | 0, _, _ => none
  | fuel + 1, ms, s => do
    match ← gap? s with
    | '\x7d' :: s => return (ms, s)
    | s =>
      let ((path, last, v), s) ← assignment? gap? value s
      let ms ← ms.assign path last v
      match ← gap? s with
      | '\x7d' :: s => return (ms, s)
      | ',' :: s => fieldsUpTo value fuel ms s
      | _ => none

/-- Reads a value whose arrays and inline tables are nested at most `depth` deep. -/
def valueUpTo : Nat → Reader Value
  | _, '"' :: s => (quoted? ('"' :: s)).map fun (t, s) => (.string (String.ofList t), s)
  | _, '\x27' :: s => (quoted? ('\x27' :: s)).map fun (t, s) => (.string (String.ofList t), s)
  | depth + 1, '[' :: s =>
    (itemsUpTo (valueUpTo depth) (s.length + 1) s).map fun (vs, s) => (.array vs, s)
  | depth + 1, '\x7b' :: s =>
    (fieldsUpTo (valueUpTo depth) (s.length + 1) [] s).map fun (ms, s) =>
      (.table (finishMembers ms), s)
  | _, s => plain? s

/-- A document half read: its members, and the header above the next line. -/
structure Draft where
  members : Members
  header : List String

/-- Reads a header or an assignment. -/
def statement? (d : Draft) : List Char → Option (Draft × List Char)
  | '[' :: '[' :: s => do
    let ((path, last), s) ← key? (skipSpace s)
    let s ← exactly? ']' s
    let s ← exactly? ']' s
    let ms ← d.members.openElement path last
    return (⟨ms, path ++ [last]⟩, s)
  | '[' :: s => do
    let ((path, last), s) ← key? (skipSpace s)
    let s ← exactly? ']' s
    let ms ← d.members.openTable path last
    return (⟨ms, path ++ [last]⟩, s)
  | s => do
    let ((path, last, v), s) ← assignment? (some ∘ skipSpace) (valueUpTo maxDepth) s
    let ms ← d.members.assignUnder d.header path last v
    return (⟨ms, d.header⟩, s)

/-- Reads at most `fuel` lines. -/
def linesUpTo : Nat → Draft → List Char → Option Draft
  | 0, _, _ => none
  | _ + 1, d, [] => some d
  | fuel + 1, d, s =>
    match endOfLine? s with
    | some s => linesUpTo fuel d s
    | none => do
      let (d, s) ← statement? d (skipSpace s)
      linesUpTo fuel d (← endOfLine? s)

/-- Drops the byte order mark in front. -/
def dropMark : List Char → List Char
  | '\ufeff' :: s => s
  | s => s

/-- The table of a document. -/
def document? (text : String) : Option Table :=
  let s := dropMark text.toList
  (linesUpTo (s.length + 1) ⟨[], []⟩ s).map fun d => finishMembers d.members

end ComplexityLint.Toml
