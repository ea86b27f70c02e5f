import ComplexityLint.Diagnostic.Basic
import ComplexityLint.Path

/-!
The diagnostics of a report, in runs: neighbouring rows of one file share a run, and a run without
diagnostics still tells that its file was analyzed.
-/

namespace ComplexityLint

/-- Diagnostics of one file. -/
structure FileRun where
  file : String
  diagnostics : List Diagnostic
deriving DecidableEq

/-- Runs in the order of the report. -/
abbrev Batch := List FileRun

namespace Batch

/-- Adds the diagnostics of one more row: to the last run if it is of the same file, else as a run
of their own. -/
def push (file : String) (ds : List Diagnostic) : Batch → Batch
  | [] => [⟨file, ds⟩]
  | [run] => if run.file = file then [⟨file, run.diagnostics ++ ds⟩] else [run, ⟨file, ds⟩]
  | run :: next :: rest => run :: push file ds (next :: rest)

/-- All diagnostics, run after run. -/
def diagnostics (b : Batch) : List Diagnostic := b.flatMap (·.diagnostics)

/-- The number of diagnostics. -/
def count (b : Batch) : Nat := b.diagnostics.length

/-- Whether some run is of the file that the path names. -/
def covers (b : Batch) (p : Path) : Bool := b.any fun run => Path.same (.ofText run.file) p

/-- Adds the diagnostics of a run to the entry of its file, or opens an entry at the end. -/
def mergeRun (run : FileRun) : List FileRun → List FileRun
  | [] => [run]
  | m :: ms =>
    if m.file = run.file then ⟨m.file, m.diagnostics ++ run.diagnostics⟩ :: ms
    else m :: mergeRun run ms

/-- One entry per file name, in the order of first appearance. -/
def merged (b : Batch) : List FileRun := b.foldl (fun ms run => mergeRun run ms) []

/-- Evaluates records one after another into runs, and shows each record with its violations to an
observer on the way. -/
def assembleWith {σ : Type} (t : Thresholds)
    (observe : FunctionRecord → List Violation → σ → σ) (rs : List FunctionRecord) (s : σ) :
    Batch × σ :=
  rs.foldl (fun (b, s) r => (push r.file (Diagnostic.ofRecord t r) b, observe r (t.evaluate r) s))
    ([], s)

/-- Evaluates records one after another into runs. -/
def assemble (t : Thresholds) (rs : List FunctionRecord) : Batch :=
  (assembleWith t (fun _ _ u => u) rs ()).1

end Batch

end ComplexityLint
