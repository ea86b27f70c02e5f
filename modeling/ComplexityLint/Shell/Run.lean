import ComplexityLint.Shell.Builtin
import ComplexityLint.Shell.Field
import ComplexityLint.Shell.Glob
import ComplexityLint.Shell.Redirect
import ComplexityLint.Shell.Sum
import ComplexityLint.Text.Blank

/-!
Running scripts, and starting programs by name or by path. A script that runs without end is taken
for one that a signal ended.
-/

namespace ComplexityLint.Shell

open State

/-- Splits `name=value` off the front of a word. -/
def assignment? (w : Word) : Option (String × Word) :=
  let front := w.takeWhile fun p => match p with
    | .text [c] false => continuesName c
    | _ => false
  let name := front.flatMap fun p => match p with
    | .text t _ => t
    | _ => []
  match name, w.drop front.length with
  | c :: _, .text ['='] false :: rest =>
    if startsName c then some (String.ofList name, rest) else none
  | _, _ => none

/-- How many bytes of a file are looked at for the line that names its interpreter. -/
def lineLimit : Nat := 256

/-- The interpreter that the first line of a script names, with its one option if there is one. Only
the start of the file is read, with zeros behind the end of a short one; a zero ends a name. Blanks
at the end of the line do not belong to it. A line that does not end there has to hold a whole name
at least. -/
def interpreter? (c : Content) : Option (String × List String) :=
  let blank (c : Char) : Bool := c = ' ' || c = '\t'
  let ends (c : Char) : Bool := blank c || c = '\x00'
  let start := c.bytes.data.toList.take lineLimit
  match Text.spell (start ++ List.replicate (lineLimit - start.length) 0) with
  | '#' :: '!' :: s =>
    let whole := s.contains '\n' || (s.dropWhile blank).any ends
    let line := if s.contains '\n' then s.takeWhile (· ≠ '\n') else s.dropLast
    let line := ((line.reverse.dropWhile blank).reverse).dropWhile blank
    let option := match line.dropWhile (!ends ·) with
      | [] => []
      | c :: rest =>
        if c = '\x00' then []
        else [String.ofList ((rest.dropWhile blank).takeWhile (· ≠ '\x00'))]
    if line = [] || !whole then none else some (String.ofList (line.takeWhile (!ends ·)), option)
  | _ => none

/-- The program that stands at a place of the system. -/
def systemProgram? (p : Place) : Option String :=
  match p with
  | ["bin", n] => if isInstalled n then some n else none
  | ["usr", "bin", n] => if isInstalled n || n = "env" then some n else none
  | _ => none

/-- Commands of the shell that leave the variables set that stand before them. -/
def special : List String :=
  [":", "exec", "eval", "exit", "export", "set", "shift", "return", "unset"]

/-- Whether a program is called by a name without slashes. -/
def isBareName (program : String) : Bool := !program.toList.contains '/'

/-- Whether an inner script is run for a word. -/
def runsScript (w : Word) : Bool :=
  w.any fun
    | .output .. => true
    | _ => false

/-- How many files are opened at most to start a program: scripts, and what they are run by. -/
def linkLimit : Nat := 6

/-- The letters of the shell's options. -/
def shellOptions : List Char := "abceCEfiIlmnopsuvVx".toList

/-- Makes a value that stands in for a variable the variable's own. -/
def assigned (name : List Char) (v : Field × State) : Field × State :=
  (v.1, v.2.assign (String.ofList name) v.1.text)

mutual

/-- Performs a command whose failure is no reason to end. -/
def attempt : Nat → Command → State → State
  | 0, _, s => { s with ended := some none }
  | n + 1, c, s =>
    let after := perform n c { s with strict := false }
    { after with strict := s.strict }

/-- Performs a command. -/
def perform : Nat → Command → State → State
  | 0, _, s => { s with ended := some none }
  | n + 1, c, s =>
    if s.ended.isSome || s.leaving.isSome then s
    else match c with
    | .nothing => s
    | .sequence a b => perform n b (perform n a s)
    | .onSuccess a b =>
      let s := attempt n a s
      if s.status = 0 then perform n b s else s
    | .onFailure a b =>
      let s := attempt n a s
      if s.status = 0 then s else perform n b s
    | .negated a =>
      let s := attempt n a s
      s.done (if s.status = 0 then 1 else 0)
    | .piped a b =>
      let left := perform n a { s with first := .output, output := .empty }
      let right := perform n b
        { s with
          disk := { left.disk with here := s.disk.here }
          complaint := left.complaint
          input := left.output }
      settle
        { s with
          disk := { right.disk with here := s.disk.here }
          output := right.output, complaint := right.complaint, status := right.code }
    | .branch c yes no =>
      let s := attempt n c s
      if s.status = 0 then perform n yes s
      else if no.isNothing then s.done 0
      else perform n no s
    | .loop wanted c body =>
      let s := attempt n c s
      if s.ended.isSome || s.leaving.isSome then s.afterLoop
      else if (s.status = 0) = wanted then
        let s := (perform n body s).afterRound
        if s.leaving.isSome then s.afterLoop else perform n (.loop wanted c body) s
      else s.done 0
    | .each name words body =>
      let (list, s) := match words with
        | none => (s.args, s)
        | some ws => arguments n ws s
      (list.foldl
        (fun s v =>
          if s.leaving.isSome then s
          else (perform n body (s.assign (String.ofList name) v)).afterRound)
        (s.done 0)).afterLoop
    | .choice subject patterns body rest =>
      let (v, s) := value n subject s
      let (ps, s) := fields n false patterns s
      if ps.any fun p => covers (wilds p) v.toList then perform n body (s.done 0)
      else perform n rest (s.done 0)
    | .directed line a rs =>
      match openAll n line rs s with
      | .error (text, s) => s.fail 2 text
      | .ok inside =>
        closing rs s (perform n a inside)
    | .apart a =>
      let after := perform n a s
      settle
        { s with
          disk := { after.disk with here := s.disk.here }
          output := after.output, complaint := after.complaint, status := after.code }
    | .define name body =>
      let name := String.ofList name
      { s with made := (name, body) :: s.made.filter (·.1 ≠ name), status := 0 }
    | .simple line words rs =>
      let assignments := words.takeWhile fun w => (assignment? w).isSome
      let (args, inside) := arguments n (words.drop assignments.length) s
      match openAll n line rs inside with
      | .error (text, s) => (s.fail 2 text).settle
      | .ok inside =>
        let set := assignments.foldl
          (fun (s : State) w => match assignment? w with
            | none => s
            | some (name, v) =>
              let (v, s) := value n v s
              s.assign name v)
          inside
        match args with
        | [] =>
          let kept := closing rs s set
          (if words.any runsScript then kept else kept.done 0).settle
        | ["exec"] => set.done 0
        | program :: args =>
          let after := closing rs s (call n line program args set)
          let names := assignments.filterMap fun w => (assignment? w).map (·.1)
          settle (if special.contains program then after else after.forget names inside.vars)

/-- The arguments that some words come to. -/
def arguments : Nat → List Word → State → List String × State
  | 0, _, s => ([], s)
  | n + 1, ws, s =>
    let (fs, s) := fields n true ws s
    (fs.flatMap (pathsOf s.disk), s)

/-- The value of a word that is not cut. -/
def value : Nat → Word → State → String × State
  | 0, _, s => ("", s)
  | n + 1, w, s =>
    let (fs, s) := fields n false [w] s
    (Field.text fs.flatten, s)

/-- The fields of some words, cut at the blanks of values, or one for each word. -/
def fields : Nat → Bool → List Word → State → List Field × State
  | 0, _, _, s => ([], s)
  | n + 1, cut, ws, s =>
    let add (f : Field) (fs : Fields) : Fields := if cut then fs.split f else fs.extend f
    ws.foldl
      (fun (done, s) w =>
        let (all, s) := w.foldl
          (fun (fs, s) p => match p with
            | .text t q =>
              if q || t ≠ [] then (fs.extend (t.map fun c => ⟨c, q⟩), s) else (fs, s)
            | .value ['@'] true =>
              if cut then (fs.splice s.args, s)
              else (fs.extend (letters true (" ".intercalate s.args)), s)
            | .value p q =>
              let (v, s) := expansion n p q s
              (if q then fs.extend v else add v fs, s)
            | .sum text q =>
              let number (name : List Char) : Int := (s.value name).toInt?.getD 0
              (fs.extend (letters q (toString ((sum? number text).getD 0))), s)
            | .output script q =>
              let inner := source n script
                { s with first := .output, output := .empty }
              let outer : State :=
                { s with
                  disk := { inner.disk with here := s.disk.here }
                  complaint := inner.complaint, status := inner.status }
              let v := letters q (captured inner.output)
              (if q then fs.extend v else add v fs, outer))
          ({ current := if cut then none else some [] }, s)
        (done ++ all.close.done, s))
      ([], s)

/-- The value of what stands in braces: a parameter, perhaps with a word to stand in for it or with
patterns cut off, or the length of one. -/
def expansion : Nat → List Char → Bool → State → Field × State
  | 0, _, _, s => ([], s)
  | n + 1, p, quoted, s =>
    match p with
    | '#' :: c :: name => (letters quoted (toString (Text.spelledSize (s.value (c :: name)))), s)
    | _ =>
      let name := if p.head?.any continuesName then p.takeWhile continuesName else p.take 1
      let own := s.value name
      let same : Field × State := (letters quoted own, s)
      let other (text : List Char) : Field × State :=
        let (fs, s) := fields n false [operand quoted text] s
        (fs.flatten, s)
      let without (cut : List Wild → List Char → List Char) (text : List Char) : Field × State :=
        let (fs, s) := fields n false [operand false text] s
        (letters quoted (String.ofList (cut (wilds fs.flatten) own.toList)), s)
      match p.drop name.length with
      | ':' :: '-' :: text => if own = "" then other text else same
      | '-' :: text => if s.isSet name then same else other text
      | ':' :: '=' :: text => if own = "" then assigned name (other text) else same
      | '=' :: text => if s.isSet name then same else assigned name (other text)
      | ':' :: '+' :: text => if own = "" then same else other text
      | '+' :: text => if s.isSet name then other text else ([], s)
      | '%' :: '%' :: text => without (withoutEnd true) text
      | '%' :: text => without (withoutEnd false) text
      | '#' :: '#' :: text => without (withoutStart true) text
      | '#' :: text => without (withoutStart false) text
      | _ => same

/-- Opens the targets of redirections, from left to right. -/
def openAll : Nat → Nat → List Redirection → State → Except (String × State) State
  | 0, _, _, s => .ok s
  | n + 1, line, rs, s =>
    rs.foldlM
      (fun s r =>
        let (target, s) := value n r.target s
        match redirect line r.fd r.sign target s with
        | .ok s => .ok s
        | .error text => .error (text, s))
      s

/-- Runs a script in a shell. -/
def source : Nat → List Char → State → State
  | 0, _, s => { s with ended := some none }
  | n + 1, text, s =>
    match script? text with
    | none => { s.fail 2 (s.name ++ ": Syntax error") with ended := some (some 2) }
    | some c => perform n c s

/-- Calls a command of the shell, one that the script has made, an installed program, or a program
at a path. A file that names no interpreter is a script of the shell. -/
def call : Nat → Nat → String → List String → State → State
  | 0, _, _, _, s => { s with ended := some none }
  | n + 1, line, program, args, s =>
    match program with
    | "exec" =>
      let after := call n line (args.head?.getD ":") (args.drop 1) s
      { after with ended := after.ended <|> some (some after.status) }
    | "eval" => source n (" ".intercalate args).toList s
    | "." =>
      match args with
      | [] => s.done 0
      | file :: _ =>
        match s.disk.look ⟨file⟩ with
        | .ok (.file c _) =>
          if isBareName file then
            { s.problem line 2 (".: " ++ file ++ ": not found") with ended := some (some 2) }
          else
            let after := source n c.spelling.toList (s.done 0)
            { after with leaving := if after.leaving = some .call then none else after.leaving }
        | .ok _ => s.done 0
        | .error r =>
          let reason := if isBareName file then file ++ ": not found"
            else "cannot open " ++ file ++ ": " ++ openFailure "No such file" r
          { s.problem line 2 (".: " ++ reason) with ended := some (some 2) }
    | _ =>
      match s.made.lookup program, builtin? line program args s with
      | some body, _ =>
        let after := perform n body { s with args := args }
        { after with
          args := s.args
          leaving := if after.leaving = some .call then none else after.leaving }
      | none, some s => s
      | none, none =>
        match programs.lookup program with
        | some run => run args s
        | none =>
          let started := match start n s.disk s.input program args with
            | .error .noProgram => start n s.disk s.input "sh" (program :: args)
            | started => started
          match started with
          | .ok e =>
            let heard : State := { s with disk := { e.disk with here := s.disk.here } }
            let status := match e.code with
              | none => 143
              | some code => code.toNat
            ((heard.say e.output).send s.second e.complaint).done status
          | .error r =>
            let absent := r = .noEntry || r = .notDirectory
            let lost := absent || r = .nameTooLong || r = .tooManyLinks
            let status := if lost || isBareName program then 127 else 126
            s.problem line status (program ++ ": " ++ if absent then "not found" else r.name)

/-- Runs the shell itself, under the name that it was called by. -/
def shell : Nat → Disk → Content → String → List String → Ending
  | 0, d, _, _, _ => { code := none, disk := d }
  | n + 1, d, input, name, args =>
    let options := args.takeWhile fun a => a.startsWith "-" && a ≠ "-" && a ≠ "--"
    let rest := match args.drop options.length with
      | "-" :: rest => rest
      | "--" :: rest => rest
      | rest => rest
    let s : State := { disk := d, input := input, name := name, strict := hasOption 'e' options }
    match (options.flatMap fun o => o.toList.drop 1).find? (!shellOptions.contains ·) with
    | some c => (s.fail 2 (name ++ ": 0: Illegal option -" ++ String.singleton c)).ending
    | none =>
      match rest with
      | [] =>
        if hasOption 'c' options then (s.fail 2 (name ++ ": 0: -c requires an argument")).ending
        else (source n input.spelling.toList s).ending
      | file :: rest =>
        if hasOption 'c' options then
          (source n file.toList { s with name := rest.head?.getD name, args := rest.drop 1 }).ending
        else if hasOption 's' options then
          (source n input.spelling.toList { s with args := file :: rest }).ending
        else match d.look ⟨file⟩ with
          | .ok (.file c _) =>
            (source n c.spelling.toList { s with name := file, args := rest }).ending
          | .ok _ => s.ending
          | .error r =>
            (s.fail 2 (name ++ ": 0: cannot open " ++ file ++ ": "
              ++ openFailure "No such file" r)).ending

/-- Starts an installed program, called by a name of which the last part is its own. -/
def startInstalled : Nat → Disk → Content → String → String → List String → Except Refusal Ending
  | 0, _, _, _, _, _ => .error .noProgram
  | n + 1, d, input, name, called, args =>
    if shells.contains name then .ok (shell n d input called args)
    else if name = "env" then
      match args with
      | [] => .ok (State.ending { disk := d })
      | inner :: rest =>
        if inner.startsWith "-S" then
          let inside := (Text.pieces ' ' (inner.toList.drop 2)).filter (· ≠ [])
          startInstalled n d input name called (inside.map String.ofList ++ rest)
        else match start n d input inner rest with
        | .ok e => .ok e
        | .error r =>
          .ok (State.fail (if r = .noEntry then 127 else 126)
            ("env: '" ++ inner ++ "': " ++ r.name) { disk := d }).ending
    else match programs.lookup name with
      | some run => .ok (run args { disk := d, input := input }).ending
      | none => .error .noEntry

/-- Starts what a path leads to: an installed program, or a script by its interpreter, which is
named by a path as well. At most `links` interpreters follow one another. -/
def startAt : Nat → Nat → Disk → Content → String → List String → Except Refusal Ending
  | 0, _, _, _, _, _ => .error .noProgram
  | n + 1, links, d, input, path, args => do
    if path = "" then throw .denied
    let place ← d.locateEntry ⟨path⟩
    match systemProgram? place with
    | some name =>
      if Path.endsWithSlash ⟨path⟩ then throw .notDirectory
      if links = 0 then throw .tooManyLinks
      startInstalled n d input name path args
    | none =>
      match ← d.look ⟨path⟩ with
      | .file c true =>
        if links = 0 then throw .tooManyLinks
        match interpreter? c with
        | none => throw .noProgram
        | some (i, option) => startAt n (links - 1) d input i (option ++ path :: args)
      | _ => throw .denied

/-- Starts a program: an installed one by its name, one on the disk by a path. The names `.` and
`..` stand for directories wherever programs are looked for. -/
def start : Nat → Disk → Content → String → List String → Except Refusal Ending
  | 0, _, _, _, _ => .error .noProgram
  | n + 1, d, input, program, args =>
    if program = "" then .error .noEntry
    else if !isBareName program then startAt n linkLimit d input program args
    else if 255 < Text.spelledSize program then .error .nameTooLong
    else if program = "." ∨ program = ".." then .error .denied
    else startInstalled n d input program program args

end

/-- How many steps deep a script may go. -/
def depth : Nat := 20000

/-- Starts a program with nothing on its input. -/
def spawn : Spawn := fun d program args =>
  start depth d .empty (Text.spelling program) (args.map Text.spelling)

end ComplexityLint.Shell
