import ComplexityLint.CommandLine.Request
import ComplexityLint.Output.Sarif

/-!
Help on the program and on its commands: what it is for, how it is called, and its operands and
options, each with what is said of it.
-/

namespace ComplexityLint.CommandLine

/-- Things that help tells of, in two columns: how each is written, and what it is. -/
def columnsText (rows : List (String × String)) : String :=
  let width := (rows.map (·.1.length)).foldl max 0
  String.join (rows.map fun (written, about) =>
    "  " ++ written ++ String.ofList (List.replicate (width - written.length) ' ') ++ "  " ++ about
      ++ "\n")

/-- A part of the help under a heading. An empty part is left out. -/
def sectionText (heading : String) (rows : List (String × String)) : String :=
  if rows = [] then "" else "\n" ++ heading ++ ":\n" ++ columnsText rows

/-- An option as it is written, and what it is. -/
def OptionKind.row (o : OptionKind) : String × String :=
  let short := match o.letter with
    | some c => "-" ++ String.singleton c ++ ", "
    | none => "    "
  let value := if o.value = "" then (if o.repeats then "..." else "") else " <" ++ o.value ++ ">"
  let standard := match o.standard with
    | some v => " [default: " ++ v ++ "]"
    | none => ""
  let choices :=
    if o.choices = [] then "" else " [possible values: " ++ ", ".intercalate o.choices ++ "]"
  (short ++ "--" ++ o.name ++ value, o.about ++ standard ++ choices)

/-- What a command is for. -/
def commandAbout : String → String
  | "check" => "Run lizard on a file or directory and report threshold violations"
  | "parse" => "Evaluate existing lizard report files without running the analyzer"
  | "init" => "Initialize lizard-lint.toml config"
  | "metrics" => "List the metrics that can be thresholded"
  | "lsp" => "Start LSP server for IDE integration (requires 'lsp' feature)"
  | "help" => "Print this message or the help of the given subcommand(s)"
  | _ => ""

/-- The operands of a command as they are written, and what they are. -/
def operandRows : String → List (String × String)
  | "check" => [("[PATH]", "File or directory to analyze [default: .]")]
  | "parse" => [("<LOGS>...", "Report files written by `lizard`")]
  | "init" => [("[PATH]", "Directory to write the config into [default: .]")]
  | "help" => [("[COMMAND]...", "Print help for the subcommand(s)")]
  | _ => []

/-- How the program is called. -/
def callText (words : List String) : String :=
  "\n\nUsage: " ++ " ".intercalate (Output.toolName :: words) ++ "\n"

/-- The help on a command, or on the whole program. -/
def helpText : Option String → String
  | none =>
    "Complexity diagnostics powered by the lizard analyzer" ++ callText ["[OPTIONS]", "<COMMAND>"]
      ++ sectionText "Commands" (commandNames.map fun name => (name, commandAbout name))
      ++ sectionText "Options" (mainGrammar.options.map OptionKind.row)
  | some name =>
    let options := ((commandGrammar? name).map (·.options)).getD []
    let operands := operandRows name
    commandAbout name
      ++ callText (name :: (if options = [] then [] else ["[OPTIONS]"]) ++ operands.map (·.1))
      ++ sectionText "Arguments" operands ++ sectionText "Options" (options.map OptionKind.row)

end ComplexityLint.CommandLine
