import ComplexityLint.Disk.Process
import ComplexityLint.Shell.Command

/-!
A running shell: its disk, its parameters, and where its output goes.
-/

namespace ComplexityLint.Shell

/-- Where output goes. -/
inductive Channel
  | output
  | complaint
  | file (p : Place)
  | sink
deriving DecidableEq

/-- What a script leaves before its end. -/
inductive Leave
  /-- Some loops. -/
  | loops (depth : Nat)
  /-- The rest of a round of some loop. -/
  | round (depth : Nat)
  /-- A command that was made by the script. -/
  | call
deriving DecidableEq

/-- A running shell. -/
structure State where
  disk : Disk
  /-- The name that the script goes by. -/
  name : String := "sh"
  args : List String := []
  vars : List (String × String) := []
  status : Nat := 0
  input : Content := .empty
  output : Content := .empty
  complaint : Content := .empty
  first : Channel := .output
  second : Channel := .complaint
  /-- The commands that the script has made. -/
  made : List (String × Command) := []
  /-- Whether a command that fails ends the shell. -/
  strict : Bool := false
  leaving : Option Leave := none
  /-- How the shell ended, if it has: with a code, or by a signal. -/
  ended : Option (Option Nat) := none

namespace State

/-- Sends something along a channel. -/
def send (c : Channel) (x : Content) (s : State) : State :=
  match c with
  | .output => { s with output := s.output ++ x }
  | .complaint => { s with complaint := s.complaint ++ x }
  | .sink => s
  | .file p =>
    match s.disk.item? p with
    | some (.file old e) => { s with disk := s.disk.put p (.file (old ++ x) e) }
    | _ => s

/-- Writes to the standard output. -/
def say (x : Content) (s : State) : State := s.send s.first x

/-- Writes a line of complaint and ends with a status. -/
def fail (status : Nat) (text : String) (s : State) : State :=
  { s.send s.second (.ofSpelling (text ++ "\n")) with status := status }

/-- Complains about something on a line of the script and ends with a status. -/
def problem (line status : Nat) (text : String) (s : State) : State :=
  s.fail status (s.name ++ ": " ++ toString line ++ ": " ++ text)

/-- Ends with a status. -/
def done (status : Nat) (s : State) : State := { s with status := status }

/-- Ends the shell if it is strict and the last command failed. -/
def settle (s : State) : State :=
  if s.strict && s.status ≠ 0 && s.ended.isNone then { s with ended := some (some s.status) } else s

/-- Leaves a loop, or the round of one, if that was asked for. -/
def afterRound (s : State) : State :=
  match s.leaving with
  | some (.round 1) => { s with leaving := none }
  | _ => s

/-- One loop fewer is left. -/
def afterLoop (s : State) : State :=
  match s.leaving with
  | some (.loops n) => { s with leaving := if n ≤ 1 then none else some (.loops (n - 1)) }
  | some (.round n) => { s with leaving := if n ≤ 1 then none else some (.round (n - 1)) }
  | _ => s

/-- Sets a variable. -/
def assign (name value : String) (s : State) : State :=
  { s with vars := (name, value) :: s.vars.filter (·.1 ≠ name) }

/-- Gives some variables back the values that they had. -/
def forget (names : List String) (old : List (String × String)) (s : State) : State :=
  { s with vars := (s.vars.filter fun v => !names.contains v.1)
      ++ old.filter fun v => names.contains v.1 }

/-- The value of a parameter that has one word. -/
def value (s : State) (name : List Char) : String :=
  match name with
  | ['#'] => toString s.args.length
  | ['?'] => toString s.status
  | ['0'] => s.name
  | ['@'] => " ".intercalate s.args
  | ['*'] => " ".intercalate s.args
  | ['$'] => "$"
  | ['P', 'W', 'D'] => "/" ++ "/".intercalate s.disk.here
  | _ =>
    if name ≠ [] && name.all Char.isDigit then
      (s.args[Text.decimal name - 1]?).getD ""
    else (s.vars.lookup (String.ofList name)).getD ""

/-- Whether a parameter has a value. -/
def isSet (s : State) (name : List Char) : Bool :=
  if name ≠ [] && name.all Char.isDigit then Text.decimal name ≤ s.args.length
  else (s.vars.lookup (String.ofList name)).isSome || s.value name ≠ ""

/-- The status with which the shell ends, or would end now. -/
def code (s : State) : Nat :=
  match s.ended with
  | none => s.status
  | some none => 143
  | some (some code) => code

/-- How the shell ended, seen from outside. -/
def ending (s : State) : Ending where
  code := match s.ended with
    | none => some (s.status : Int)
    | some code => code.map Int.ofNat
  output := s.output
  complaint := s.complaint
  disk := s.disk

end State

end ComplexityLint.Shell
