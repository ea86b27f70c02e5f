import ComplexityLint.Disk.Content
import ComplexityLint.Path

/-!
A disk: files and directories at places, and a current directory. A path is walked segment by
segment; every place that it passes has to be a directory, only the last may be absent. What the
system refuses, it refuses for a reason.
-/

namespace ComplexityLint

open Text (spelledSize)

/-- The names from the root down, by their spelling. -/
abbrev Place := List String

/-- What can be at a place. -/
inductive Item
  | directory
  | file (content : Content) (executable : Bool)
  /-- A device that reads as empty and swallows what is written. -/
  | sink
deriving DecidableEq

/-- What there is, and the current directory. -/
structure Disk where
  items : List (Place × Item) := []
  here : Place := []
deriving DecidableEq

/-- Why the system refuses. -/
inductive Refusal
  | noEntry
  | notDirectory
  | isDirectory
  | notEmpty
  | taken
  | nameTooLong
  | denied
  | noProgram
  | tooManyLinks
  | zeroInPath
  | zeroInArgument
deriving DecidableEq

namespace Refusal

/-- What a refusal is called, and its number with the system if it has one. -/
def label : Refusal → String × Option Nat
  | noEntry => ("No such file or directory", some 2)
  | notDirectory => ("Not a directory", some 20)
  | isDirectory => ("Is a directory", some 21)
  | notEmpty => ("Directory not empty", some 39)
  | taken => ("File exists", some 17)
  | nameTooLong => ("File name too long", some 36)
  | denied => ("Permission denied", some 13)
  | noProgram => ("Exec format error", some 8)
  | tooManyLinks => ("Too many levels of symbolic links", some 40)
  | zeroInPath => ("file name contained an unexpected NUL byte", none)
  | zeroInArgument => ("nul byte found in provided data", none)

/-- What a refusal is called. -/
def name (r : Refusal) : String := r.label.1

/-- The text of a refusal. -/
def message (r : Refusal) : String :=
  match r.label with
  | (text, none) => text
  | (text, some n) => text ++ " (os error " ++ toString n ++ ")"

end Refusal

namespace Disk

/-- What is at a place. The root is always a directory. -/
def item? (d : Disk) (p : Place) : Option Item :=
  if p = [] then some .directory else d.items.lookup p

/-- Puts something at a place. -/
def put (p : Place) (i : Item) (d : Disk) : Disk :=
  if (d.items.lookup p).isSome then
    { d with items := d.items.map fun e => if e.1 = p then (p, i) else e }
  else { d with items := d.items ++ [(p, i)] }

/-- Takes away what is at a place. -/
def erase (p : Place) (d : Disk) : Disk := { d with items := d.items.filter (·.1 ≠ p) }

/-- One step of a walk, which has to start from a directory. -/
def step (d : Disk) (p : Place) (segment : List Char) : Except Refusal Place :=
  match d.item? p with
  | none => .error .noEntry
  | some .directory =>
    if segment = [] ∨ segment = ['.'] then .ok p
    else if segment = ['.', '.'] then .ok p.dropLast
    else if 255 < spelledSize (String.ofList segment) then .error .nameTooLong
    else .ok (p ++ [String.ofList segment])
  | some _ => .error .notDirectory

/-- Where some segments of a path lead. -/
def walk (d : Disk) (p : Path) (segments : List (List Char)) : Except Refusal Place :=
  if p.spelling = "" then .error .noEntry
  else if '\x00' ∈ p.spelling.toList then .error .zeroInPath
  else if 4096 ≤ spelledSize p.spelling then .error .nameTooLong
  else segments.foldlM d.step (if p.isAbsolute then [] else d.here)

/-- Where a path leads. There may be nothing. -/
def locate (d : Disk) (p : Path) : Except Refusal Place := d.walk p p.segments

/-- Where a path leads, slashes at the end aside. -/
def locateEntry (d : Disk) (p : Path) : Except Refusal Place :=
  d.walk p (p.segments.reverse.dropWhile (· = [])).reverse

/-- What a path leads to. -/
def look (d : Disk) (p : Path) : Except Refusal Item := do
  match d.item? (← d.locate p) with
  | none => throw .noEntry
  | some i => return i

/-- Whether a path leads to something. -/
def pathExists (d : Disk) (p : Path) : Bool := (d.look p).isOk

/-- Whether a path leads to a directory. -/
def isDir (d : Disk) (p : Path) : Bool :=
  match d.look p with
  | .ok .directory => true
  | _ => false

/-- Whether a path leads to a file. -/
def isFile (d : Disk) (p : Path) : Bool :=
  match d.look p with
  | .ok (.file ..) => true
  | _ => false

/-- Puts a content into a file that is there already or is made. -/
def write (p : Path) (c : Content) (d : Disk) : Except Refusal Disk := do
  let place ← d.locateEntry p
  if p.endsWithSlash then throw .isDirectory
  match d.item? place with
  | some .directory => throw .isDirectory
  | some .sink => return d
  | some (.file _ x) => return d.put place (.file c x)
  | none => return d.put place (.file c false)

/-- Makes a directory in one that is there. -/
def makeDir (p : Path) (d : Disk) : Except Refusal Disk := do
  let place ← d.locateEntry p
  match d.item? place with
  | some _ => throw .taken
  | none => return d.put place .directory

/-- Makes a directory and, from the top down, what is missing above it. What was made before a
refusal stays. -/
def makeDirs (p : Path) (d : Disk) : Except Refusal Unit × Disk := go (p.spelling.length + 1) p d
where
  /-- Makes a directory, or finds it. -/
  settle (p : Path) (d : Disk) : Except Refusal Unit × Disk :=
    match d.makeDir p with
    | .ok d => (.ok (), d)
    | .error e => (if d.isDir p then .ok () else .error e, d)
  /-- Makes the directory above first, if that is what is missing. -/
  go : Nat → Path → Disk → Except Refusal Unit × Disk
    | 0, _, d => (.error .noEntry, d)
    | n + 1, p, d =>
      if p.spelling = "" then (.ok (), d)
      else match settle p d with
        | (.error .noEntry, d) =>
          match p.parent? with
          | none => (.error .noEntry, d)
          | some above =>
            match go n above d with
            | (.ok (), d) => settle p d
            | failed => failed
        | settled => settled

/-- Removes a file. -/
def remove (p : Path) (d : Disk) : Except Refusal Disk := do
  let place ← d.locateEntry p
  match d.item? place with
  | none => throw .noEntry
  | some .directory => throw .isDirectory
  | some _ => if p.endsWithSlash then throw .notDirectory else return d.erase place

/-- The disk as seen from a directory. -/
def enter (p : Path) (d : Disk) : Except Refusal Disk := do
  let place ← d.locate p
  match d.item? place with
  | none => throw .noEntry
  | some .directory => return { d with here := place }
  | some _ => throw .notDirectory

end Disk

end ComplexityLint
