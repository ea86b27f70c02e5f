import ComplexityLint.Shell.Escape
import ComplexityLint.Shell.State
import ComplexityLint.Text.Pieces

/-!
The installed programs, apart from the shell: what each does to the disk, says and ends with.
-/

namespace ComplexityLint.Shell

open State

/-- What a program does when it is run with arguments. -/
abbrev Program := List String → State → State

/-- The arguments of a command, its options apart. -/
def operands (args : List String) : List String := args.filter fun a => !a.startsWith "-" || a = "-"

/-- Whether an option of one letter is given. -/
def hasOption (c : Char) (args : List String) : Bool :=
  args.any fun a => a.startsWith "-" && a.toList.contains c

/-- Does something for each operand, and ends with one if that failed for some. -/
def forEach (args : List String) (act : String → State → State) (s : State) : State :=
  args.foldl
    (fun s a =>
      let after := act a { s with status := 0 }
      { after with status := max s.status after.status })
    { s with status := 0 }

/-- Complains about an operand. -/
def refuse (program action operand : String) (r : Refusal) (s : State) : State :=
  s.fail 1 (program ++ ": " ++ action ++ operand ++ ": " ++ r.name)

/-- Copies files, or the input, to the output. -/
def cat : Program := fun args s =>
  if operands args = [] then { s.say s.input with input := .empty, status := 0 }
  else forEach (operands args)
    (fun a s =>
      if a = "-" then { s.say s.input with input := .empty }
      else match s.disk.look ⟨a⟩ with
        | .error r => refuse "cat" "" a r s
        | .ok .directory => refuse "cat" "" a .isDirectory s
        | .ok .sink => s
        | .ok (.file c _) => s.say c)
    s

/-- Prints its arguments. -/
def echo : Program := fun args s =>
  let (args, tail) : List String × List UInt8 := match args with
    | "-n" :: rest => (rest, [])
    | _ => (args, [10])
  (s.say (contentOf (unescape true (" ".intercalate args).toList ++ tail))).done 0

/-- Prints its arguments as a format asks. -/
def printf : Program := fun args s =>
  match (if args.head? = some "--" then args.drop 1 else args) with
  | [] => s.fail 2 "printf: usage: printf format [arg ...]"
  | format :: rest => (s.say (contentOf (printAll format.toList rest))).done 0

/-- Applies a change to the disk, or complains. -/
def change (program action : String) (f : Path → Disk → Except Refusal Disk) (a : String)
    (s : State) : State :=
  match f ⟨a⟩ s.disk with
  | .ok d => { s with disk := d }
  | .error r => refuse program action ("'" ++ a ++ "'") r s

/-- Makes directories. -/
def mkdir : Program := fun args =>
  let make (p : Path) (d : Disk) : Except Refusal Disk :=
    if hasOption 'p' args then
      match d.makeDirs p with
      | (.ok (), d) => .ok d
      | (.error r, _) => .error r
    else d.makeDir p
  forEach (operands args) (change "mkdir" "cannot create directory " make)

/-- Removes files and, on demand, directories with all that is in them. -/
def rm : Program := fun args =>
  let quiet := hasOption 'f' args
  let deep := hasOption 'r' args || hasOption 'R' args
  let erase (p : Path) (d : Disk) : Except Refusal Disk := do
    match d.look p with
    | .error .noEntry => if quiet then return d else throw .noEntry
    | .error .notDirectory => if quiet then return d else throw .notDirectory
    | .error r => throw r
    | .ok .directory =>
      if !deep then throw .isDirectory
      let place ← d.locate p
      return { d with items := d.items.filter fun i => !place.isPrefixOf i.1 }
    | .ok _ => d.remove p
  forEach (operands args) (change "rm" "cannot remove " erase)

/-- Removes empty directories. -/
def rmdir : Program := fun args =>
  let erase (p : Path) (d : Disk) : Except Refusal Disk := do
    let place ← d.locateEntry p
    match d.item? place with
    | none => throw .noEntry
    | some .directory =>
      if d.items.any fun i => place ≠ i.1 && place.isPrefixOf i.1 then throw .notEmpty
      else return d.erase place
    | some _ => throw .notDirectory
  forEach (operands args) (change "rmdir" "failed to remove " erase)

/-- Makes files that are missing. -/
def touch : Program := fun args =>
  let make (p : Path) (d : Disk) : Except Refusal Disk :=
    if d.pathExists p then .ok d else d.write p .empty
  forEach (operands args) (change "touch" "cannot touch " make)

/-- What a path is called in its directory. -/
def lastName (a : String) : String :=
  match (Text.pieces '/' a.toList).reverse.dropWhile (· = []) with
  | [] => if a = "" then "" else "/"
  | n :: _ => String.ofList n

/-- The last name of a path, without an ending. -/
def basename : Program := fun args s =>
  let name := lastName (args.head?.getD "")
  let ending := (args[1]?).getD ""
  let name := if name ≠ ending && name.endsWith ending
    then String.ofList (name.toList.take (name.length - ending.length)) else name
  (s.say (.ofSpelling (name ++ "\n"))).done 0

/-- The path of the directory that a path is in. -/
def dirname : Program := fun args s =>
  let above := match Path.parent? ⟨args.head?.getD ""⟩ with
    | none => if (args.head?.getD "").startsWith "/" then "/" else "."
    | some p => if p.spelling = "" then "." else p.spelling
  (s.say (.ofSpelling (above ++ "\n"))).done 0

/-- Copies a file to a path or into a directory. The copy can be run if the file can. -/
def cp : Program := fun args s =>
  match operands args with
  | [source, target] =>
    let target : Path := if s.disk.isDir ⟨target⟩
      then Path.join ⟨target⟩ ⟨lastName source⟩ else ⟨target⟩
    match s.disk.look ⟨source⟩ with
    | .ok (.file c x) =>
      match s.disk.write target c with
      | .error r => refuse "cp" "cannot create regular file " ("'" ++ target.spelling ++ "'") r s
      | .ok d =>
        match d.locate target with
        | .ok place => { s with disk := d.put place (.file c x), status := 0 }
        | .error _ => { s with disk := d, status := 0 }
    | .error r => refuse "cp" "cannot stat " ("'" ++ source ++ "'") r s
    | .ok _ => s.fail 1 ("cp: -r not specified; omitting directory '" ++ source ++ "'")
  | _ => s.fail 1 "cp: missing file operand"

/-- Copies a file and removes it. -/
def mv : Program := fun args s =>
  match operands args with
  | [source, _] =>
    let copied := cp args s
    if copied.status = 0 then change "mv" "cannot remove " Disk.remove source copied else copied
  | _ => s.fail 1 "mv: missing file operand"

/-- Lists directories, and the files that are named. -/
def ls : Program := fun args =>
  let list (a : String) (s : State) : State :=
    match s.disk.look ⟨a⟩, s.disk.locate ⟨a⟩ with
    | .ok .directory, .ok place =>
      let names := s.disk.items.filterMap fun (p, _) =>
        if p.dropLast = place then p.getLast?.filter fun n => !n.startsWith "." else none
      s.say (.ofSpelling (String.join ((names.mergeSort fun m n => m ≤ n).map (· ++ "\n"))))
    | .ok _, _ => s.say (.ofSpelling (a ++ "\n"))
    | .error r, _ => (refuse "ls" "cannot access " ("'" ++ a ++ "'") r s).done 2
  let names := operands args
  forEach (if names = [] then ["."] else names) list

/-- Copies the input to files and to the output. -/
def tee : Program := fun args s =>
  let copy (p : Path) (d : Disk) : Except Refusal Disk :=
    match d.look p with
    | .ok (.file c _) => d.write p (if hasOption 'a' args then c ++ s.input else s.input)
    | _ => d.write p s.input
  forEach (operands args)
    (fun a t => match copy ⟨a⟩ t.disk with
      | .ok d => { t with disk := d }
      | .error r => refuse "tee" "" a r t)
    { s.say s.input with input := .empty }

/-- The lines of a content, each with its end. -/
def linesOf (c : Content) : List (List Char) :=
  let ls := Text.pieces '\n' c.spelling.toList
  ls.dropLast.map (· ++ ['\n']) ++ ls.getLast?.toList.filter (· ≠ [])

/-- The number behind an option of one letter, and the arguments without both. -/
def numberOption (c : Char) : List String → Option Nat × List String
  | [] => (none, [])
  | a :: rest =>
    if a = String.ofList ['-', c] then ((rest.head?.bind String.toNat?), rest.drop 1)
    else match a.toList with
      | '-' :: d :: digits =>
        if d = c then ((String.ofList digits).toNat?, rest)
        else let (n, others) := numberOption c rest; (n, a :: others)
      | _ => let (n, others) := numberOption c rest; (n, a :: others)

/-- Does something with what the operands hold, or with the input if there are none. -/
def withContents (program : String) (f : Content → Content) : Program := fun args s =>
  if args = [] then { s.say (f s.input) with input := .empty, status := 0 }
  else forEach args
    (fun a s => match s.disk.look ⟨a⟩ with
      | .ok (.file c _) => s.say (f c)
      | .ok .sink => s.say (f .empty)
      | .ok .directory => s.fail 1 (program ++ ": error reading '" ++ a ++ "': Is a directory")
      | .error r =>
        refuse program "cannot open " ("'" ++ a ++ "' for reading") r s)
    s

/-- Prints the first lines or bytes. -/
def head : Program := fun args =>
  match numberOption 'c' args with
  | (some n, files) => withContents "head" (fun c => .ofBytes (c.bytes.extract 0 n)) files
  | (none, _) =>
    let (n, files) := numberOption 'n' args
    withContents "head"
      (fun c => .ofSpelling (String.ofList ((linesOf c).take (n.getD 10)).flatten)) files

/-- Prints the last lines. -/
def tail : Program := fun args =>
  let (n, files) := numberOption 'n' args
  withContents "tail"
    (fun c =>
      let ls := linesOf c
      .ofSpelling (String.ofList (ls.drop (ls.length - n.getD 10)).flatten)) files

/-- Counts from one number, or from one, up to another. -/
def seq : Program := fun args s =>
  let (low, high) := match args with
    | [a, b] => (a.toInt?, b.toInt?)
    | _ => (some 1, (args.head?.getD "").toInt?)
  match low, high with
  | some a, some b =>
    let numbers := (List.range (b + 1 - a).toNat).map fun i => toString (a + Int.ofNat i) ++ "\n"
    (s.say (.ofSpelling (String.join numbers))).done 0
  | _, _ => s.fail 1 "seq: invalid floating point argument"

/-- Prints the current directory. -/
def pwd : Program := fun _ s =>
  (s.say (.ofSpelling ("/" ++ "/".intercalate s.disk.here ++ "\n"))).done 0

/-- Whether a condition on files, texts or numbers holds. -/
def holds (d : Disk) : List String → Option Bool
  | [] => some false
  | "!" :: rest =>
    match rest with
    | [a] => some (a = "")
    | [o, a] => (unary o a).map (!·)
    | [a, o, b] => (binary a o b).map (!·)
    | _ => none
  | [a] => some (a ≠ "")
  | [o, a] => unary o a
  | [a, o, b] => binary a o b
  | _ => none
where
  /-- Conditions on one operand. -/
  unary (o a : String) : Option Bool :=
    match o with
    | "-e" => some (d.pathExists ⟨a⟩)
    | "-f" => some (d.isFile ⟨a⟩)
    | "-d" => some (d.isDir ⟨a⟩)
    | "-r" => some (d.pathExists ⟨a⟩)
    | "-w" => some (d.pathExists ⟨a⟩)
    | "-s" => some (match d.look ⟨a⟩ with
      | .ok (.file c _) => 0 < c.size
      | r => r.isOk)
    | "-x" => some (match d.look ⟨a⟩ with
      | .ok (.file _ x) => x
      | r => r.isOk)
    | "-n" => some (a ≠ "")
    | "-z" => some (a = "")
    | _ => none
  /-- Conditions on two operands. -/
  binary (a o b : String) : Option Bool :=
    let numbers (f : Int → Int → Bool) : Option Bool := do return f (← a.toInt?) (← b.toInt?)
    match o with
    | "=" => some (a = b)
    | "!=" => some (a ≠ b)
    | "-eq" => numbers (· = ·)
    | "-ne" => numbers (· ≠ ·)
    | "-lt" => numbers (· < ·)
    | "-le" => numbers (· ≤ ·)
    | "-gt" => numbers (· > ·)
    | "-ge" => numbers (· ≥ ·)
    | _ => none

/-- Ends well if a condition holds. -/
def test : Program := fun args s =>
  match holds s.disk args with
  | some b => s.done (if b then 0 else 1)
  | none => s.fail 2 (s.name ++ ": test: bad condition")

/-- A condition in brackets. -/
def bracket : Program := fun args s =>
  if args.getLast? = some "]" then test args.dropLast s else s.fail 2 (s.name ++ ": [: missing ]")

/-- Ends a process by a signal. The only process is the shell itself. -/
def kill : Program := fun args s =>
  if args.contains "$" then { s with ended := some none } else s.done 1

/-- The installed programs. -/
def programs : List (String × Program) :=
  [("cat", cat), ("echo", echo), ("printf", printf), ("mkdir", mkdir), ("rm", rm), ("rmdir", rmdir),
   ("touch", touch), ("basename", basename), ("dirname", dirname), ("cp", cp), ("mv", mv),
   ("pwd", pwd), ("ls", ls), ("tee", tee), ("head", head), ("tail", tail),
   ("seq", seq), ("test", test), ("[", bracket), ("kill", kill),
   ("true", fun _ s => s.done 0), ("false", fun _ s => s.done 1),
   ("sleep", fun _ s => s.done 0)]

/-- The names of the shell. -/
def shells : List String := ["sh", "bash", "dash"]

/-- Whether a program is found by its name alone. -/
def isInstalled (name : String) : Bool := shells.contains name || (programs.lookup name).isSome

end ComplexityLint.Shell
