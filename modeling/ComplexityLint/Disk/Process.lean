import ComplexityLint.Disk.Store
import ComplexityLint.Linter.Host

/-!
Running the analyzer on a disk. Its log is made, empty, before it starts, and everything that it
says on its standard output is discarded: the log holds in the end what the process itself wrote
there. `Disk.host` is the disk as surroundings of a linter, for any set of installed programs.
-/

namespace ComplexityLint

/-- How a process ended, what it said, and the disk that it left. -/
structure Ending where
  /-- No code if a signal ended it. -/
  code : Option Int
  output : Content := .empty
  complaint : Content := .empty
  disk : Disk

/-- Starts a program with arguments on a disk. The disk's current directory is the directory in
which the process runs. -/
abbrev Spawn := Disk → String → List String → Except Refusal Ending

namespace Disk

/-- Whether a command holds a zero, which no program can be given. -/
def holdsZero (c : Command) : Bool :=
  (c.program :: c.dir.spelling :: c.args).any fun s => s.toList.contains '\x00'

/-- Runs the analyzer: the log first, then the working directory, then the program. -/
def run (spawn : Spawn) (c : Command) (d : Disk) : Except Fault Exit × Disk :=
  let launch (fresh : Disk) : Except Refusal Ending := do
    if holdsZero c then throw .zeroInArgument
    spawn (← fresh.enter c.dir) c.program c.args
  match d.write c.log .empty with
  | .error r => (.error (.file c.log r.message), d)
  | .ok fresh =>
    match launch fresh with
    | .error r => (.error (.analyzer c.program r.message), fresh)
    | .ok e => (.ok ⟨e.code, e.complaint.lossy⟩, { e.disk with here := d.here })

/-- The disk as surroundings. -/
def host (spawn : Spawn) : Host Disk where
  isDir := isDir
  pathExists := pathExists
  read d p := (d.readLog p).mapError (.file p)
  ensureDir p d :=
    match d.makeDirs p with
    | (.ok (), d) => (.ok (), d)
    | (.error r, d) => (.error (.file p r.message), d)
  remove p d :=
    match d.remove p with
    | .ok d => (.ok (), d)
    | .error r => (.error (.file p r.message), d)
  run := run spawn

end Disk

end ComplexityLint
