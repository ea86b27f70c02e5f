import ComplexityLint.Disk.Basic
import ComplexityLint.Shell.Pattern
import ComplexityLint.Text.Pieces

/-!
Names of files by patterns. A field that holds a pattern stands for the paths on the disk that it
fits, step by step, in the order of their bytes, and for itself if it fits none. Names that start
with a dot are fitted only by patterns that start with one.
-/

namespace ComplexityLint

open Text

namespace Disk

/-- The names in a directory, its own and that of the one above included. -/
def namesAt (p : Path) (d : Disk) : List String :=
  match d.look p, d.locate p with
  | .ok .directory, .ok place =>
    "." :: ".." :: d.items.filterMap fun (q, _) =>
      if q ≠ [] && q.dropLast = place then q.getLast? else none
  | _, _ => []

end Disk

namespace Shell

/-- Cuts a pattern at its slashes. -/
def steps : List Wild → List (List Wild)
  | [] => [[]]
  | w :: p =>
    if w = .self '/' then [] :: steps p
    else match steps p with
      | [] => [[w]]
      | s :: ss => (w :: s) :: ss

/-- Whether a pattern fits a name. -/
def fitsName (p : List Wild) (name : List Char) : Bool :=
  (name.head? ≠ some '.' || p.head? = some (.self '.')) && covers p name

/-- What a pattern without wild places spells. -/
def spelled (p : List Wild) : List Char :=
  p.filterMap fun
    | .self c => some c
    | _ => none

/-- The paths that go on from a start as the steps of a pattern say. -/
def pathsFrom (d : Disk) (start : List Char) : List (List Wild) → List (List Char)
  | [] => [start]
  | p :: rest =>
    let names : List (List Char) :=
      if p.all Wild.isSelf then [spelled p]
      else
        let above : Path := ⟨if start = [] then "." else String.ofList start⟩
        (d.namesAt above).map String.toList |>.filter (fitsName p)
    names.flatMap fun name =>
      pathsFrom d (start ++ name ++ if rest = [] then [] else ['/']) rest

/-- The paths that a field stands for. -/
def pathsOf (d : Disk) (f : Field) : List String :=
  let p := wilds f
  if p.all Wild.isSelf then [f.text]
  else
    let found := ((pathsFrom d [] (steps p)).map String.ofList).filter fun s => d.pathExists ⟨s⟩
    if found = [] then [f.text]
    else found.mergeSort fun a b => !decide (spelledBytes b.toList < spelledBytes a.toList)

end Shell

end ComplexityLint
