import ComplexityLint.Linter.Host

/-!
Surroundings in memory: a store keyed by the steps of paths, with failures on demand, and an
analyzer that follows a script.
-/

namespace ComplexityLint

/-- What the analyzer does when it is run. -/
structure Script where
  /-- It cannot be started, for this reason. -/
  failure : Option String := none
  /-- What it writes to the log. -/
  report : Option String := none
  code : Option Int := none
  stderr : String := ""

/-- Files and directories in memory. -/
structure Memory where
  files : List (Path × String) := []
  dirs : List Path := []
  /-- Paths that cannot be read. -/
  sealedFiles : List Path := []
  /-- Directories that cannot be made. -/
  sealedDirs : List Path := []
  /-- Paths that cannot be removed. -/
  pinned : List Path := []
  script : Script := {}

namespace Memory

/-- Whether a list of paths holds an equal one. -/
def holds (ps : List Path) (p : Path) : Bool := ps.any p.same

/-- The text of a file. -/
def file? (m : Memory) (p : Path) : Option String := (m.files.find? fun f => f.1.same p).map (·.2)

/-- Puts a text into a file. A file that is there keeps its path as it was written first. -/
def write (p : Path) (text : String) (m : Memory) : Memory :=
  if (m.file? p).isSome then
    { m with files := m.files.map fun f => if f.1.same p then (f.1, text) else f }
  else { m with files := m.files ++ [(p, text)] }

/-- Adds a directory. -/
def addDir (p : Path) (m : Memory) : Memory :=
  if holds m.dirs p then m else { m with dirs := m.dirs ++ [p] }

/-- The surroundings. -/
def host : Host Memory where
  isDir m p := holds m.dirs p
  pathExists m p := (m.file? p).isSome || holds m.dirs p
  read m p :=
    if holds m.sealedFiles p then .error (.file p "read denied")
    else match m.file? p with
      | none => .error (.file p "not a file")
      | some text => .ok text
  ensureDir p m :=
    if holds m.sealedDirs p then (.error (.file p "ensure_dir denied"), m)
    else (.ok (), m.addDir p)
  remove p m :=
    if holds m.pinned p then (.error (.file p "remove denied"), m)
    else if (m.file? p).isNone then (.error (.file p "not a file"), m)
    else (.ok (), { m with files := m.files.filter fun f => !f.1.same p })
  run c m :=
    match m.script.failure with
    | some reason => (.error (.analyzer c.program reason), m)
    | none =>
      let m' := match m.script.report with
        | none => m
        | some text => m.write c.log text
      (.ok ⟨m.script.code, m.script.stderr⟩, m')

end Memory

end ComplexityLint
