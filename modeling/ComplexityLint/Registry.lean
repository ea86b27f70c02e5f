import ComplexityLint.Threshold

/-!
What is known of every function: per file, in the order of first sight, the latest record of each
function name and which of its numbers are marked. Nothing is ever dropped. Files and names are
looked up in dictionaries, of which no order is ever seen; the orders of first sight are kept beside
them.
-/

namespace ComplexityLint

/-- Values under texts. -/
abbrev Dictionary (α : Type) := List (String × α)

/-- Puts a value under a key, instead of the value that is there. -/
def Dictionary.put {α : Type} (d : Dictionary α) (k : String) (v : α) : Dictionary α :=
  if (d.lookup k).isSome then d.map fun p => if p.1 = k then (k, v) else p else d ++ [(k, v)]

/-- The latest record of a function, with its marks. -/
structure Entry where
  record : FunctionRecord
  flags : Flags
deriving DecidableEq

namespace Entry

/-- The entry of a function that is seen for the first time. -/
def new (r : FunctionRecord) : Entry := ⟨r, Flags.clear⟩

/-- Takes over the numbers of a record and clears the marks. -/
def refresh (r : FunctionRecord) (e : Entry) : Entry where
  record :=
    { e.record with
      complexity := r.complexity
      tokens := r.tokens
      parameters := r.parameters
      lines := r.lines
      startLine := r.startLine
      endLine := r.endLine }
  flags := Flags.clear

end Entry

/-- The functions of one file, and the place of each name among them. -/
structure FileEntries where
  entries : List Entry := []
  places : Dictionary Nat := []
deriving DecidableEq

namespace FileEntries

/-- Stores a record, and tells the place of its entry: that of the function's name, or one at the
end. -/
def store (r : FunctionRecord) (f : FileEntries) : FileEntries × Nat :=
  match f.places.lookup r.name with
  | some i => ({ f with entries := f.entries.modify i (.refresh r) }, i)
  | none =>
    let i := f.entries.length
    (⟨f.entries ++ [.new r], f.places.put r.name i⟩, i)

/-- Sets the marks of an entry. -/
def mark (i : Nat) (flags : Flags) (f : FileEntries) : FileEntries :=
  { f with entries := f.entries.modify i fun e => { e with flags := flags } }

/-- The entry of a name. -/
def named? (f : FileEntries) (name : String) : Option Entry :=
  (f.places.lookup name).bind fun i => f.entries[i]?

end FileEntries

/-- All functions by file, and the files in the order of first sight. -/
structure Registry where
  byFile : Dictionary FileEntries := []
  files : List String := []
deriving DecidableEq

namespace Registry

/-- Where an entry stands: in which file, and as which of its functions. -/
structure Place where
  file : String
  index : Nat
deriving DecidableEq

/-- Stores a record under its file and name, and tells where its entry stands. Nothing of the entry is
marked; that is left to whoever stores the record. -/
def upsert (r : FunctionRecord) (reg : Registry) : Registry × Place :=
  let known := reg.byFile.lookup r.file
  let (f, i) := (known.getD {}).store r
  ({ byFile := reg.byFile.put r.file f
     files := if known.isSome then reg.files else reg.files ++ [r.file] }, ⟨r.file, i⟩)

/-- Sets the marks of the entry at a place. -/
def mark (p : Place) (flags : Flags) (reg : Registry) : Registry :=
  match reg.byFile.lookup p.file with
  | some f => { reg with byFile := reg.byFile.put p.file (f.mark p.index flags) }
  | none => reg

/-- The entries of a file that was seen. -/
def file? (reg : Registry) (file : String) : Option (List Entry) :=
  (reg.byFile.lookup file).map (·.entries)

/-- The entry of a function. -/
def get? (reg : Registry) (file name : String) : Option Entry :=
  (reg.byFile.lookup file).bind (·.named? name)

/-- The number of functions. -/
def size (reg : Registry) : Nat := (reg.byFile.flatMap (·.2.entries)).length

/-- Whether no file was seen. -/
def isEmpty (reg : Registry) : Bool := reg.byFile.isEmpty

end Registry

end ComplexityLint
