import ComplexityLint.Text.Pieces
import ComplexityLint.Text.Spelling

/-!
Paths of a Unix file system: any bytes, kept by their spelling. A path is printed as it was written
and compared by its components: repeated slashes, slashes at the end and `.` count for nothing,
except a `.` in front; `..` is kept.
-/

namespace ComplexityLint

open Text

/-- A path as written. -/
structure Path where
  spelling : String
deriving DecidableEq

/-- A step of a path. -/
inductive Component
  | root
  | here
  | up
  | name (n : List Char)
deriving DecidableEq

namespace Component

/-- The step that a segment between slashes stands for. -/
def ofSegment? (s : List Char) : Option Component :=
  if s = [] ∨ s = ['.'] then none else if s = ['.', '.'] then some up else some (name s)

/-- A step as written. -/
def text : Component → List Char
  | root => ['/']
  | here => ['.']
  | up => ['.', '.']
  | name n => n

/-- The place of a kind of step in the order of paths. -/
def rank : Component → Nat
  | root => 0
  | here => 1
  | up => 2
  | name _ => 3

/-- The order of steps: by kind, and names by code points. -/
def before (a b : Component) : Bool :=
  match a, b with
  | name m, name n => decide (m < n)
  | _, _ => a.rank < b.rank

end Component

namespace Path

/-- The path that a text writes. -/
def ofText (s : String) : Path := ⟨Text.spelling s⟩

/-- A path as it is shown, with a substitute for what is no text. -/
def text (p : Path) : String := shown p.spelling

/-- What stands between the slashes. -/
def segments (p : Path) : List (List Char) := pieces '/' p.spelling.toList

/-- The steps of a path. -/
def components (p : Path) : List Component :=
  match p.segments with
  | [] => []
  | s :: rest =>
    let first :=
      if s = [] ∧ rest ≠ [] then some .root
      else if s = ['.'] then some .here
      else Component.ofSegment? s
    first.toList ++ rest.filterMap Component.ofSegment?

/-- Whether two paths have the same steps. -/
def same (p q : Path) : Bool := p.components = q.components

/-- The order of paths, step by step. -/
def before (p q : Path) : Bool := go p.components q.components
where
  go : List Component → List Component → Bool
    | _, [] => false
    | [], _ :: _ => true
    | a :: as, b :: bs => a.before b || (a = b && go as bs)

/-- Whether the steps of `p` begin with those of `q`. -/
def startsWith (p q : Path) : Bool := q.components.isPrefixOf p.components

/-- Whether a path starts at the root. -/
def isAbsolute (p : Path) : Bool := p.spelling.toList.head? = some '/'

/-- Whether a path is written with a slash at the end. -/
def endsWithSlash (p : Path) : Bool := p.spelling.toList.getLast? = some '/'

/-- A path seen from a directory. An absolute path stays as it is, and an empty one puts a slash
behind the directory. -/
def join (dir p : Path) : Path :=
  if p.isAbsolute then p
  else if dir.spelling = "" ∨ dir.endsWithSlash then ⟨dir.spelling ++ p.spelling⟩
  else ⟨dir.spelling ++ "/" ++ p.spelling⟩

/-- Drops segments that stand for no step, but never the last one of the list. -/
def dropIdle : List (List Char) → List (List Char)
  | [] => []
  | [s] => [s]
  | s :: t :: rest => if s = [] ∨ s = ['.'] then dropIdle (t :: rest) else s :: t :: rest

/-- The path without its last step. The root and the empty path have no parent. -/
def parent? (p : Path) : Option Path :=
  match dropIdle p.segments.reverse with
  | [] => none
  | [s] => if s = [] then none else some ⟨""⟩
  | _ :: rest =>
    let kept := dropIdle rest
    if kept = [[]] then some ⟨"/"⟩
    else some ⟨"/".intercalate (kept.reverse.map String.ofList)⟩

/-- The last step, if it is a name. -/
def fileName? (p : Path) : Option (List Char) :=
  match p.components.getLast? with
  | some (.name n) => some n
  | _ => none

/-- A file name at its last dot: the stem, and the extension behind the dot. A dot in front of
everything else does not count. -/
def splitName (n : List Char) : List Char × Option (List Char) :=
  let ext := (n.reverse.takeWhile (· ≠ '.')).reverse
  let stem := n.take (n.length - ext.length - 1)
  if ext.length = n.length ∨ stem = [] then (n, none) else (stem, some ext)

/-- The file name without its extension. -/
def stem? (p : Path) : Option (List Char) := p.fileName?.map fun n => (splitName n).1

/-- What stands behind the last dot of the file name. -/
def extension? (p : Path) : Option (List Char) := p.fileName?.bind fun n => (splitName n).2

/-- The path as seen from a current directory: a `.` in front, inner `.` and repeated slashes go,
`..` and a slash at the end stay, and so do exactly two slashes in front. The empty path names
nothing. -/
def absolute? (cwd p : Path) : Option Path :=
  if p.spelling = "" then none
  else
    let steps := match p.components with
      | .here :: rest => rest
      | cs => cs
    let letters := p.spelling.toList
    let two := letters.take 2 = ['/', '/'] ∧ letters[2]? ≠ some '/'
    let start : Path := if two then ⟨"//"⟩ else if p.isAbsolute then ⟨""⟩ else cwd
    let steps := if two then steps.drop 1 else steps
    let full := steps.foldl (fun q c => q.join ⟨String.ofList c.text⟩) start
    some (if p.endsWithSlash then full.join ⟨""⟩ else full)

end Path

end ComplexityLint
