import ComplexityLint.Path

/-!
Projects: which files can be analyzed, to which of several roots a path belongs, and where the
analyzer's log of a path goes.
-/

namespace ComplexityLint.Project

/-- The extensions of the languages that the analyzer reads. -/
def extensions : List String :=
  ["c", "h", "cpp", "cs", "gd", "go", "java", "js", "lua", "m", "php", "py", "rb", "rs", "scala",
   "swift"]

/-- Whether a path has such an extension, letter case included. -/
def isSource (p : Path) : Bool :=
  match p.extension? with
  | none => false
  | some e => extensions.contains (String.ofList e)

/-- Adds a root, unless an equal path is there. -/
def addRoot (roots : List Path) (root : Path) : List Path :=
  if roots.any root.same then roots else roots ++ [root]

/-- The deepest root that a path lies under; of equally deep ones the last. -/
def rootFor? (roots : List Path) (p : Path) : Option Path :=
  (roots.filter p.startsWith).foldl
    (fun best r => match best with
      | none => some r
      | some b => if b.components.length ≤ r.components.length then some r else some b)
    none

/-- The log of a path: named after its stem as it is shown, in the log directory. -/
def logFile (dir target : Path) : Path :=
  let stem := (target.stem?.map fun n => Text.shown (String.ofList n)).getD "lizard"
  dir.join (.ofText (stem ++ ".log"))

end ComplexityLint.Project
