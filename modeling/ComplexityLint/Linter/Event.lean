import ComplexityLint.Diagnostic.Basic
import ComplexityLint.Linter.Host
import ComplexityLint.Text.Blank
import ComplexityLint.Text.Digit

/-!
What a linter does that others can see, in order: it starts the analyzer, replaces the diagnostics
of a file, and leaves notes in its journal.
-/

namespace ComplexityLint

/-- How much a note matters. -/
inductive NoteLevel
  | debug
  | warn
deriving DecidableEq

/-- An entry of the journal. -/
structure Note where
  level : NoteLevel
  text : String
deriving DecidableEq

namespace Note

/-- A character of a message: one that could steer a terminal stands as its number, which is put in
braces beyond ASCII. -/
def visible (c : Char) : List Char :=
  let n := c.toNat
  let digits := [Text.hexDigit (n / 16), Text.hexDigit (n % 16)]
  if n = 0x1B ∨ n = 7 ∨ n = 8 ∨ n = 0x0C ∨ n = 0x7F then ['\\', 'x'] ++ digits
  else if 0x80 ≤ n ∧ n < 0xA0 then ['\\', 'u', '\x7b'] ++ digits ++ ['\x7d']
  else [c]

/-- The text of a message. What is noted beside a message is kept as it is. -/
def message (s : String) : String := String.ofList (s.toList.flatMap visible)

/-- The configuration was read from a file. -/
def loaded (p : Path) : Note := ⟨.debug, "loaded configuration path=" ++ p.text⟩

/-- The analyzer starts. -/
def running (c : Command) : Note := ⟨.debug, "running analyzer command=" ++ c.text⟩

/-- The analyzer ended badly. -/
def unsuccessful (target : Path) (e : Exit) : Note :=
  let code := match e.code with
    | none => "None"
    | some n => "Some(" ++ toString n ++ ")"
  ⟨.warn, message ("analyzer exited unsuccessfully for " ++ target.text) ++ " code=" ++ code
    ++ " stderr=" ++ String.ofList (Text.trim e.stderr.toList)⟩

/-- The analyzer left no log. -/
def noLog (log : Path) : Note := ⟨.debug, "no analyzer log produced, skipping log=" ++ log.text⟩

/-- A report was taken in. -/
def ingested (functions diagnostics : Nat) : Note :=
  ⟨.debug, "ingested analyzer report functions=" ++ toString functions ++ " diagnostics="
    ++ toString diagnostics⟩

/-- A log to be read is not there. -/
def missingLog (log : Path) : Note := ⟨.debug, "log file missing, skipping log=" ++ log.text⟩

/-- A log cannot be read. -/
def unreadableLog (log : Path) (f : Fault) : Note :=
  ⟨.warn, message ("Skipping " ++ log.text ++ ": " ++ f.message)⟩

end Note

/-- What others see of a linter. -/
inductive Event
  /-- The analyzer was started. -/
  | ran (c : Command)
  /-- The diagnostics of a file were replaced. -/
  | published (p : Path) (ds : List Diagnostic)
  /-- The journal got a note. -/
  | noted (n : Note)
deriving DecidableEq

namespace Event

/-- The commands that were started. -/
def commands (es : List Event) : List Command :=
  es.filterMap fun
    | ran c => some c
    | _ => none

/-- The replacements of diagnostics. -/
def publications (es : List Event) : List (Path × List Diagnostic) :=
  es.filterMap fun
    | published p ds => some (p, ds)
    | _ => none

/-- The notes. -/
def notes (es : List Event) : List Note :=
  es.filterMap fun
    | noted n => some n
    | _ => none

end Event

end ComplexityLint
