import ComplexityLint.Shell.Program
import ComplexityLint.Text.Blank

/-!
Commands of the shell itself that run nothing else.
-/

namespace ComplexityLint.Shell

/-- The number that is given, or one. -/
def levels (args : List String) : Nat := (args.head?.bind String.toNat?).getD 1

/-- The values that a line gives to some names: a field each, and the rest to the last one. -/
def readFields (cut : Bool) : List String → List Char → List (String × String)
  | [], _ => []
  | [k], line => [(k, String.ofList (if cut then Text.trim line else line))]
  | k :: ks, line =>
    if !cut then (k, String.ofList line) :: ks.map (·, "")
    else
      let line := Text.trimLeft line
      (k, String.ofList (line.takeWhile (!Text.isBlank ·)))
        :: readFields cut ks (line.dropWhile (!Text.isBlank ·))

/-- Sets the variables that are written `name=value`. -/
def assignAll (args : List String) (s : State) : State :=
  args.foldl
    (fun s a =>
      let name := a.toList.takeWhile (· ≠ '=')
      match a.toList.drop name.length with
      | [] => s
      | _ :: value => s.assign (String.ofList name) (String.ofList value))
    s

/-- What a command of the shell does, if that is its name. -/
def builtin? (line : Nat) (program : String) (args : List String) (s : State) : Option State :=
  match program with
  | ":" => some (s.done 0)
  | "exit" =>
    match args with
    | [] => some { s with ended := some (some s.status) }
    | a :: _ =>
      match a.toNat? with
      | some code => some { s with ended := some (some (code % 256)) }
      | none =>
        some { s.problem line 2 ("exit: Illegal number: " ++ a) with ended := some (some 2) }
  | "cd" =>
    let place := args.head?.getD "/"
    match s.disk.enter ⟨place⟩ with
    | .ok d => some { s with disk := d, status := 0 }
    | .error _ => some (s.problem line 2 ("cd: can't cd to " ++ place))
  | "export" => some ((assignAll args s).done 0)
  | "local" => some ((assignAll args s).done 0)
  | "set" =>
    match args with
    | "-e" :: _ => some { s with strict := true, status := 0 }
    | "-eu" :: _ => some { s with strict := true, status := 0 }
    | "+e" :: _ => some { s with strict := false, status := 0 }
    | "--" :: rest => some { s with args := rest, status := 0 }
    | _ => some (s.done 0)
  | "shift" => some { s with args := s.args.drop (levels args), status := 0 }
  | "break" => some { s with leaving := some (.loops (levels args)), status := 0 }
  | "continue" => some { s with leaving := some (.round (levels args)), status := 0 }
  | "return" =>
    some { s with
      leaving := some .call
      status := (args.head?.bind String.toNat?).getD s.status }
  | "unset" => some { s with vars := s.vars.filter fun v => !(args.contains v.1), status := 0 }
  | "trap" => some (s.done 0)
  | "wait" => some (s.done 0)
  | "umask" => some (s.done 0)
  | "read" =>
    let all := s.input.spelling.toList
    let rest := all.dropWhile (· ≠ '\n')
    let line := all.takeWhile (· ≠ '\n')
    let line := if hasOption 'r' args then line else line.filter (· ≠ '\\')
    let values := readFields (s.vars.lookup "IFS" ≠ some "") (operands args) line
    let s := { s with input := .ofSpelling (String.ofList (rest.drop 1)) }
    some ((values.foldl (fun s (k, v) => s.assign k v) s).done (if rest = [] then 1 else 0))
  | _ => none

end ComplexityLint.Shell
