import ComplexityLint.Config
import ComplexityLint.Fault

/-!
What a linter needs around it: files and a way to run the analyzer. Everything is stated over a
state `σ` of the surroundings, so that the linter can be run on a disk, in memory or against any
behaviour at all.
-/

namespace ComplexityLint

/-- A run of the analyzer, ready to start. -/
structure Command where
  program : String
  args : List String
  /-- Where the report is expected. -/
  log : Path
  dir : Path
deriving DecidableEq

namespace Command

/-- The run on a target that a configuration asks for. -/
def ofConfig (c : Config) (target log dir : Path) : Command where
  program := c.execution.analyzer
  args := (if c.execution.modified then ["--modified"] else []) ++ [target.text]
  log := log
  dir := dir

/-- A command as it would be typed. -/
def text (c : Command) : String :=
  c.program ++ String.join (c.args.map (" " ++ ·)) ++ " > " ++ c.log.text

end Command

/-- How a run ended. A process that a signal ended has no code. -/
structure Exit where
  code : Option Int
  stderr : String
deriving DecidableEq

/-- Whether a run ended as it should. -/
def Exit.success (e : Exit) : Bool := e.code = some 0

/-- The surroundings of a linter. -/
structure Host (σ : Type) where
  isDir : σ → Path → Bool
  pathExists : σ → Path → Bool
  read : σ → Path → Except Fault String
  /-- Makes a directory and what is missing above it. -/
  ensureDir : Path → σ → Except Fault Unit × σ
  remove : Path → σ → Except Fault Unit × σ
  run : Command → σ → Except Fault Exit × σ

end ComplexityLint
