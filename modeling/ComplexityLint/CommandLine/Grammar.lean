/-!
The grammar of a command line: options with a long and perhaps a short name, some with a value, and
operands between them. `--name value`, `--name=value`, `-n value`, `-nvalue` and `-n=value` mean the
same, short options can be written in one word, and behind `--` everything is an operand.
-/

namespace ComplexityLint.CommandLine

/-- An option that a command line can hold. -/
structure OptionKind where
  name : String
  letter : Option Char := none
  /-- Which values it takes, if it takes one. -/
  accepts : Option (String → Bool) := none
  /-- Whether it can be given more than once. -/
  repeats : Bool := false
  /-- Whether it ends the reading at once. -/
  final : Bool := false
  /-- What help says of it, what it calls its value, which value counts if none is given, and which
  there are if they can be listed. -/
  about : String := ""
  value : String := ""
  standard : Option String := none
  choices : List String := []

/-- What a command line can hold. -/
structure Grammar where
  options : List OptionKind
  /-- The most operands there may be, if there is a limit. -/
  most : Option Nat
  /-- Whether the first operand selects a command, which the rest is for. -/
  selects : Bool := false

/-- Why a command line is not carried out. -/
inductive Halt
  /-- It is not in the grammar. -/
  | usage
  /-- An option that ends the reading was met. -/
  | met (name : String)
deriving DecidableEq

/-- What a command line holds. -/
structure Given where
  /-- The options in order, with the value or the empty text. -/
  options : List (String × String) := []
  operands : List String := []
  /-- What is for the selected command. -/
  rest : List String := []
deriving DecidableEq

namespace Given

/-- The value of an option. -/
def value? (g : Given) (name : String) : Option String := g.options.lookup name

/-- Whether an option is given. -/
def has (g : Given) (name : String) : Bool := (g.value? name).isSome

/-- How often an option is given. -/
def count (g : Given) (name : String) : Nat := (g.options.filter (·.1 = name)).length

/-- Records an option. -/
def add (o : OptionKind) (value : String) (g : Given) : Except Halt Given :=
  if o.final then .error (.met o.name)
  else if !o.repeats && g.has o.name then .error .usage
  else if o.accepts.any fun ok => !ok value then .error .usage
  else .ok { g with options := g.options ++ [(o.name, value)] }

end Given

namespace Grammar

/-- Whether a word can be the value of the option before it. -/
def isValue (word : String) : Bool := !word.startsWith "-" || word = "-"

/-- Records an operand. An empty one is none. -/
def addOperand (g : Grammar) (word : String) (given : Given) : Except Halt Given :=
  if word = "" || g.most.any (· ≤ given.operands.length) then .error .usage
  else .ok { given with operands := given.operands ++ [word] }

/-- Cuts a word at its first equals sign. -/
def atEquals (s : List Char) : String × Option String :=
  let name := String.ofList (s.takeWhile (· ≠ '='))
  match s.dropWhile (· ≠ '=') with
  | [] => (name, none)
  | _ :: value => (name, some (String.ofList value))

/-- Reads the letters of a word of short options. The result also says which option still waits
for its value. -/
def letters (g : Grammar) : List Char → Given → Except Halt (Given × Option OptionKind)
  | [], given => .ok (given, none)
  | c :: s, given =>
    match g.options.find? fun o => o.letter = some c with
    | none => .error .usage
    | some o =>
      if o.accepts.isNone then do letters g s (← given.add o "")
      else match s with
        | [] => .ok (given, some o)
        | '=' :: v => do return (← given.add o (String.ofList v), none)
        | v => do return (← given.add o (String.ofList v), none)

/-- Reads one word in front of `--`: what it adds, and which option still waits for its value. -/
def word (g : Grammar) (w : String) (given : Given) : Except Halt (Given × Option OptionKind) :=
  match w.toList with
  | '-' :: '-' :: s =>
    match atEquals s with
    | (name, value) =>
      match g.options.find? fun o => o.name = name with
      | none => .error .usage
      | some o =>
        match o.accepts, value with
        | none, none => do return (← given.add o "", none)
        | none, some _ => .error .usage
        | some _, some v => do return (← given.add o v, none)
        | some _, none => .ok (given, some o)
  | '-' :: c :: s => g.letters (c :: s) given
  | _ => do return (← g.addOperand w given, none)

/-- Reads a command line. -/
def read (g : Grammar) : List String → Given → Except Halt Given
  | [], given => .ok given
  | "--" :: rest, given =>
    if g.selects && rest ≠ [] then .error .usage
    else rest.foldlM (fun given w => g.addOperand w given) given
  | w :: rest, given =>
    match g.word w given with
    | .error h => .error h
    | .ok (given, none) =>
      if g.selects && given.operands ≠ [] then .ok { given with rest := rest }
      else g.read rest given
    | .ok (given, some o) =>
      match rest with
      | [] => .error .usage
      | v :: rest =>
        if !isValue v then .error .usage
        else match given.add o v with
          | .error h => .error h
          | .ok given => g.read rest given

end Grammar

end ComplexityLint.CommandLine
