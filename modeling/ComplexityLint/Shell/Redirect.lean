import ComplexityLint.Shell.State

/-!
Redirections: where the input comes from and where output goes while a command runs.
-/

namespace ComplexityLint.Shell

/-- What is said of a file that a redirection cannot open. -/
def openFailure (kind : String) (r : Refusal) : String :=
  match r with
  | .noEntry => kind
  | .notDirectory => kind
  | r => r.name

/-- Opens the target of a redirection. -/
def redirect (line : Nat) (fd : Nat) (sign target : String) (s : State) : Except String State :=
  let path : Path := ⟨target⟩
  let problem (text : String) : String := s.name ++ ": " ++ toString line ++ ": " ++ text
  let lead (c : Channel) (s : State) : State :=
    if fd = 1 then { s with first := c } else if fd = 2 then { s with second := c } else s
  match sign with
  | "<" =>
    match s.disk.look path with
    | .ok (.file c _) => .ok { s with input := c }
    | .ok _ => .ok { s with input := .empty }
    | .error r =>
      .error (problem ("cannot open " ++ target ++ ": " ++ openFailure "No such file" r))
  | ">&" =>
    match target with
    | "1" => .ok (lead s.first s)
    | "2" => .ok (lead s.second s)
    | "-" => .ok (lead .sink s)
    | _ => .error (problem (target ++ ": Bad file descriptor"))
  | "<&" => .ok s
  | "<<" => .ok { s with input := .ofSpelling target }
  | _ =>
    let old := match s.disk.look path with
      | .ok (.file c _) => if sign = ">>" then c else .empty
      | _ => .empty
    match (do return (← s.disk.write path old, ← s.disk.locateEntry path)) with
    | .error r =>
      .error (problem ("cannot create " ++ target ++ ": " ++ openFailure "Directory nonexistent" r))
    | .ok (d, place) =>
      let c := if d.item? place = some .sink then .sink else .file place
      .ok (lead c { s with disk := d })

/-- Undoes redirections, once the command that they were for is done. -/
def closing (rs : List Redirection) (before after : State) : State :=
  { after with
    first := before.first
    second := before.second
    input := if rs.any (·.fd = 0) then before.input else after.input }

end ComplexityLint.Shell
