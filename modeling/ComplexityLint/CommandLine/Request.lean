import ComplexityLint.CommandLine.Choice
import ComplexityLint.CommandLine.Grammar
import ComplexityLint.Path
import ComplexityLint.Text.Digit

/-!
What a command line asks for. Options that all commands share can stand before and behind the
command's name; given in both places, the later one counts. Help can be asked for in either place, or
by a word of its own.
-/

namespace ComplexityLint.CommandLine

/-- The forms of a report. -/
inductive Format
  | console
  | json
  | sarif
deriving DecidableEq

namespace Format

/-- All forms. -/
def all : List Format := [console, json, sarif]

/-- The word that selects a form. -/
def word : Format → String
  | console => "console"
  | json => "json"
  | sarif => "sarif"

end Format

/-- What all commands share. -/
structure Settings where
  format : Format := .console
  minSeverity : Severity := .info
  failOn : Option Severity := none
  verbosity : Nat := 0
deriving DecidableEq

/-- Whether and how functions are shown in tables. -/
structure Summary where
  shown : Bool := false
  key : Output.SortKey := .complexity
  ascending : Bool := false
deriving DecidableEq

/-- Limits that replace those of the configuration. -/
abbrev Overrides := PerMetric (Option UInt32)

/-- A command. -/
inductive Request
  /-- Run the analyzer. -/
  | check (target : Path) (root : Option Path) (limits : Overrides) (summary : Summary)
    (timing : Bool)
  /-- Read logs that are there. -/
  | parse (logs : List Path) (configDir : Path) (limits : Overrides) (summary : Summary)
  /-- Write the first configuration of a project. -/
  | init (dir : Path)
  /-- Show the metrics and their limits. -/
  | metrics
  /-- Serve an editor. -/
  | serve
deriving DecidableEq

/-- What a command line asks for. -/
inductive Reading
  | usage
  | version
  /-- Help on a command, or on the whole program. -/
  | help (command : Option String)
  | run (settings : Settings) (request : Request)
deriving DecidableEq

/-- The limit that a text writes: digits, perhaps with a plus sign, or zero with a minus sign. -/
def limit? (text : String) : Option UInt32 :=
  match text.toList with
  | '+' :: s => Text.word? s
  | '-' :: s => (Text.word? s).filter (· = 0)
  | s => Text.word? s

/-- Chooses a form of the report. -/
def chooseFormat (text : String) : Except String Format := choose false Format.word Format.all text

/-- An option whose value is chosen from a list. -/
def choiceOption {α : Type} (name : String) (choice : String → Except String α)
    (choices : List String) : OptionKind :=
  { name := name, accepts := some fun v => (choice v).isOk, choices := choices }

/-- An option that all commands share. -/
def sharedOptions : List OptionKind :=
  [{ choiceOption "format" chooseFormat (Format.all.map Format.word) with
       letter := some 'f', value := "FORMAT", standard := some "console", about := "Output format" },
   { choiceOption "min-severity" (chooseSeverity false) (Severity.all.map Severity.name) with
       value := "MIN_SEVERITY", standard := some "info", about := "Minimum severity to report" },
   { choiceOption "fail-on" (chooseSeverity false) (Severity.all.map Severity.name) with
       value := "FAIL_ON", about := "Fail if any diagnostic meets this severity" },
   { name := "verbose", letter := some 'v', repeats := true
     about := "Increase log verbosity (-v info, -vv debug, -vvv trace)" }]

/-- The option that asks for help. -/
def helpOption : OptionKind :=
  { name := "help", letter := some 'h', final := true, about := "Print help" }

/-- The option that asks for the number of the program. -/
def versionOption : OptionKind :=
  { name := "version", letter := some 'V', final := true, about := "Print version" }

/-- The name of the option that replaces the limit of a metric. -/
def limitOption : Metric → String
  | .complexity => "ccn"
  | .tokens => "tokens"
  | .parameters => "params"
  | .lines => "nloc"

/-- What help says of the option that replaces the limit of a metric. -/
def limitAbout : Metric → String
  | .complexity => "Cyclomatic complexity threshold"
  | .tokens => "Token count threshold"
  | .parameters => "Parameter count threshold"
  | .lines => "Lines of code (without comments) threshold"

/-- The options that replace limits. -/
def limitOptions : List OptionKind :=
  [Metric.complexity, .tokens, .parameters, .lines].map fun m =>
    { name := limitOption m, accepts := some fun v => (limit? v).isSome, value := "N"
      about := limitAbout m }

/-- The options on tables. -/
def summaryOptions : List OptionKind :=
  [{ name := "summary", about := "Print a per-function metrics table for each analyzed file" },
   { choiceOption "sort-by" (chooseSortKey false) (Output.SortKey.all.map Output.SortKey.word) with
       value := "SORT_BY", standard := some "ccn", about := "Column to sort the summary by" },
   { name := "ascending", about := "Sort the summary in ascending order" }]

/-- An option whose value is a path. -/
def pathOption (name value about : String) : OptionKind :=
  { name := name, accepts := some (· ≠ ""), value := value, about := about }

/-- The grammar in front of the command's name. -/
def mainGrammar : Grammar where
  options := sharedOptions ++ [helpOption, versionOption]
  most := some 1
  selects := true

/-- The options of a command besides those that all share. -/
def ownOptions : String → List OptionKind
  | "check" =>
    pathOption "root" "ROOT" "Project root (defaults to the directory itself, or a file's parent)" ::
      limitOptions ++ summaryOptions ++ [{ name := "timing", about := "Show timing information" }]
  | "parse" =>
    { pathOption "config-dir" "CONFIG_DIR" "Directory holding lizard-lint.toml" with
        standard := some "." } :: limitOptions ++ summaryOptions
  | _ => []

/-- The grammar of a command. -/
def commandGrammar? (name : String) : Option Grammar :=
  let grammar (most : Option Nat) : Grammar :=
    { options := ownOptions name ++ sharedOptions ++ [helpOption], most := most }
  match name with
  | "check" => some (grammar (some 1))
  | "parse" => some (grammar none)
  | "init" => some (grammar (some 1))
  | "metrics" => some (grammar (some 0))
  | "lsp" => some (grammar (some 0))
  | _ => none

/-- The limits that are given. -/
def overridesOf (g : Given) : Overrides :=
  let limit (m : Metric) : Option UInt32 := (g.value? (limitOption m)).bind limit?
  ⟨limit .complexity, limit .tokens, limit .parameters, limit .lines⟩

/-- The tables that are asked for. -/
def summaryOf (g : Given) : Summary where
  shown := g.has "summary"
  key := ((g.value? "sort-by").bind fun v => (chooseSortKey false v).toOption).getD .complexity
  ascending := g.has "ascending"

/-- What is set in front of the command's name and behind it. -/
def settingsOf (front behind : Given) : Settings :=
  let value (name : String) : Option String := behind.value? name <|> front.value? name
  { format := ((value "format").bind fun v => (chooseFormat v).toOption).getD .console
    minSeverity := ((value "min-severity").bind fun v => (chooseSeverity false v).toOption).getD .info
    failOn := (value "fail-on").bind fun v => (chooseSeverity false v).toOption
    verbosity := if behind.has "verbose" then behind.count "verbose" else front.count "verbose" }

/-- The request that a command's part of the line makes. -/
def requestOf? (name : String) (g : Given) : Option Request :=
  let first := Path.ofText (g.operands.head?.getD ".")
  match name with
  | "check" =>
    some (.check first ((g.value? "root").map Path.ofText) (overridesOf g) (summaryOf g)
      (g.has "timing"))
  | "parse" =>
    if g.operands = [] then none
    else some (.parse (g.operands.map Path.ofText) (.ofText ((g.value? "config-dir").getD "."))
      (overridesOf g) (summaryOf g))
  | "init" => some (.init first)
  | "metrics" => some .metrics
  | "lsp" => some .serve
  | _ => none

/-- The word that asks for help, and the names of the commands. -/
def commandNames : List String := ["check", "parse", "init", "metrics", "lsp", "help"]

/-- The help that some words ask for: on the program, or on one of its commands. -/
def helpOn : List String → Reading
  | [] => .help none
  | [name] => if commandNames.contains name then .help (some name) else .usage
  | _ => .usage

/-- What a command's part of the line asks for. -/
def readCommand (name : String) (g : Grammar) (front : Given) : Reading :=
  match g.read front.rest {} with
  | .error .usage => .usage
  | .error (.met _) => .help (some name)
  | .ok behind =>
    match requestOf? name behind with
    | none => .usage
    | some r => .run (settingsOf front behind) r

/-- Reads a command line. -/
def reading (args : List String) : Reading :=
  match mainGrammar.read args {} with
  | .error .usage => .usage
  | .error (.met name) => if name = helpOption.name then .help none else .version
  | .ok front =>
    match front.operands with
    | [] => .usage
    | name :: _ =>
      if name = "help" then helpOn front.rest
      else match commandGrammar? name with
        | none => .usage
        | some g => readCommand name g front

example : reading ["-v", "check", "a.c", "--ccn", "3", "-h", "--ccn"] = .help (some "check") := by
  decide +kernel

end ComplexityLint.CommandLine
