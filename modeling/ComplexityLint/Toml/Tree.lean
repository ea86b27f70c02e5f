import ComplexityLint.Toml.Value

/-!
The table of a document while it is read. A table can be extended or not, according to how it came
about: by a header of its own, on the way to a deeper header, or by a dotted key.
-/

namespace ComplexityLint.Toml

/-- How a table came about. -/
inductive Origin
  /-- It has a header of its own. -/
  | header
  /-- A deeper header runs through it. -/
  | passed
  /-- A dotted key runs through it. -/
  | dotted
deriving DecidableEq

/-- A value under construction. -/
inductive Node
  | value (v : Value)
  | table (origin : Origin) (members : List (String × Node))
  | tables (elements : List (List (String × Node)))

/-- Tables under construction. -/
abbrev Members := List (String × Node)

namespace Members

/-- The node under a key. -/
def get? (ms : Members) (key : String) : Option Node := List.lookup key ms

/-- Puts a node under a key, in place or at the end. -/
def put (key : String) (n : Node) : Members → Members
  | [] => [(key, n)]
  | (k, m) :: ms => if k = key then (k, n) :: ms else (k, m) :: put key n ms

/-- Applies a change to the table at the end of a path. Missing tables on the way are made. Of an
array of tables the last one counts. A dotted key does not run through a table that has a header of
its own. The change also learns how the table came about. -/
def modifyAt (origin : Origin) (f : Option Origin → Members → Option Members) :
    Option Origin → List String → Members → Option Members
  | here, [], ms => f here ms
  | _, key :: path, ms =>
    match ms.get? key with
    | none =>
      (modifyAt origin f (some origin) path []).map fun sub => ms.put key (.table origin sub)
    | some (.table o sub) =>
      if origin = .dotted ∧ o = .header then none
      else (modifyAt origin f (some o) path sub).map fun sub => ms.put key (.table o sub)
    | some (.tables elements) =>
      match elements.getLast? with
      | none => none
      | some last =>
        (modifyAt origin f (some .header) path last).map fun sub =>
          ms.put key (.tables (elements.dropLast ++ [sub]))
    | some (.value _) => none

/-- Puts a value under a dotted key. The last table on the way must be one that dotted keys made,
and the key must be new. -/
def assign (path : List String) (key : String) (v : Value) : Members → Option Members :=
  modifyAt .dotted
    (fun o ms =>
      if path ≠ [] ∧ o ≠ some .dotted then none
      else match ms.get? key with
        | some _ => none
        | none => some (ms.put key (.value v)))
    none path

/-- Opens the table of a header. It must be new, or only passed through so far. -/
def openTable (path : List String) (key : String) : Members → Option Members :=
  modifyAt .passed
    (fun _ ms => match ms.get? key with
      | none => some (ms.put key (.table .header []))
      | some (.table .passed sub) => some (ms.put key (.table .header sub))
      | some _ => none)
    none path

/-- Opens a further table of an array of tables. -/
def openElement (path : List String) (key : String) : Members → Option Members :=
  modifyAt .passed
    (fun _ ms => match ms.get? key with
      | none => some (ms.put key (.tables [[]]))
      | some (.tables elements) => some (ms.put key (.tables (elements ++ [[]])))
      | some _ => none)
    none path

/-- Puts a value under a dotted key of the table that a header opened. -/
def assignUnder (header path : List String) (key : String) (v : Value) : Members → Option Members :=
  modifyAt .passed (fun _ ms => assign path key v ms) none header

end Members

mutual

/-- The finished value. -/
def Node.finish : Node → Value
  | .value v => v
  | .table _ ms => .table (finishMembers ms)
  | .tables es => .array (finishElements es)

/-- The finished tables of an array. -/
def finishElements : List (List (String × Node)) → List Value
  | [] => []
  | ms :: es => .table (finishMembers ms) :: finishElements es

/-- The finished members of a table. -/
def finishMembers : List (String × Node) → List (String × Value)
  | [] => []
  | (k, n) :: ms => (k, n.finish) :: finishMembers ms

end

end ComplexityLint.Toml
