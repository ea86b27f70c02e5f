import ComplexityLint.Path

/-!
Why a request fails. Noise inside a report is never a fault.
-/

namespace ComplexityLint

/-- The causes of failure. -/
inductive Fault
  /-- The path is no directory and no file that can be analyzed. -/
  | unsupported (p : Path)
  /-- The path lies under none of the project roots. -/
  | noRoot (p : Path)
  /-- A file could not be used, for the reason given by the system. -/
  | file (p : Path) (cause : String)
  /-- The configuration could not be loaded. -/
  | config (reason : String)
  /-- The analyzer could not be started. -/
  | analyzer (program reason : String)
  /-- The system refused something that no single file stands for. -/
  | system (cause : String)
deriving DecidableEq

namespace Fault

/-- The text of a fault. -/
def message : Fault → String
  | unsupported p =>
    "Unsupported path " ++ p.text ++ ": not a directory and extension is not analyzable"
  | noRoot p => "No project root contains " ++ p.text
  | file p cause => "IO error for " ++ p.text ++ ": " ++ cause
  | config reason => "Configuration error: " ++ reason
  | analyzer program reason => "Failed to run analyzer \x60" ++ program ++ "\x60: " ++ reason
  | system cause => "IO error: " ++ cause

/-- The reason that the system gave, if there is one. -/
def cause? : Fault → Option String
  | file _ cause => some cause
  | system cause => some cause
  | _ => none

/-- The text of a fault, followed by the reason that the system gave. -/
def trace (f : Fault) : String :=
  match f.cause? with
  | none => f.message
  | some cause => f.message ++ ": " ++ cause

end Fault

end ComplexityLint
