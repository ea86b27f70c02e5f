import ComplexityLint.Path
import ComplexityLint.Threshold
import ComplexityLint.Toml.Document

/-!
The configuration of a project: limits, and when and how the analyzer runs. It is read from a TOML
document with two tables; keys that it does not know are ignored, and a value of the wrong type
voids the whole document.
-/

namespace ComplexityLint

/-- When and how the analyzer runs. -/
structure Execution where
  lintOnSave : Bool := false
  lintOnOpen : Bool := false
  /-- Whether the analyzer counts a whole switch as one branch. -/
  modified : Bool := false
  /-- Where logs go, seen from the project root. -/
  logPath : Option String := none
  analyzer : String := "lizard"
deriving DecidableEq

/-- The configuration of a project. -/
structure Config where
  thresholds : Thresholds := Thresholds.unset
  execution : Execution := {}
deriving DecidableEq

namespace Config

open Toml (Value)

/-- The name of the document in a project's directory. -/
def fileName : String := "lizard-lint.toml"

/-- The directory of the logs, seen from the project root. -/
def logDir (c : Config) : Path := .ofText (c.execution.logPath.getD "log")

/-- The limit of the metric with that id or key. -/
def thresholdByName (c : Config) (name : String) : Option UInt32 :=
  (Metric.ofName? name).bind c.thresholds.get

/-- The value of each of some fields: by key in a table, by position in an array. A date-time has
none of them. -/
def fields? (keys : List String) : Value → Option (String → Option Value)
  | .table ms => some fun k => Toml.Table.get? ms k
  | .array vs => some fun k => (keys.zip vs).lookup k
  | .datetime _ => some fun _ => none
  | _ => none

/-- Reads a field that may be missing. -/
def field {α : Type} (read : Value → Option α) (missing : α) : Option Value → Option α
  | none => some missing
  | some v => read v

/-- An integer that fits 32 bits. -/
def limit? : Value → Option (Option UInt32)
  | .integer i =>
    if 0 ≤ i ∧ i < (UInt32.size : Int) then some (some (UInt32.ofNat i.toNat)) else none
  | _ => none

/-- A switch. -/
def switch? : Value → Option Bool
  | .boolean b => some b
  | _ => none

/-- A text. -/
def text? : Value → Option String
  | .string s => some s
  | _ => none

/-- The keys of the table of limits. -/
def limitKeys : List String :=
  ["cyclomaticComplexity", "tokenCount", "numOfParameters", "linesOfCodeWithoutComments"]

/-- Reads the table of limits. -/
def thresholds? (v : Value) : Option Thresholds := do
  let get ← fields? limitKeys v
  return {
    complexity := ← field limit? none (get "cyclomaticComplexity")
    tokens := ← field limit? none (get "tokenCount")
    parameters := ← field limit? none (get "numOfParameters")
    lines := ← field limit? none (get "linesOfCodeWithoutComments") }

/-- The keys of the table on the analyzer. -/
def executionKeys : List String :=
  ["ExecuteLizardLintOnFileSave", "ExecuteLizardLintOnFileOpen", "ModifiedCyclomaticComplexity",
   "logFilePath", "analyzer"]

/-- Reads the table on the analyzer. -/
def execution? (v : Value) : Option Execution := do
  let get ← fields? executionKeys v
  return {
    lintOnSave := ← field switch? false (get "ExecuteLizardLintOnFileSave")
    lintOnOpen := ← field switch? false (get "ExecuteLizardLintOnFileOpen")
    modified := ← field switch? false (get "ModifiedCyclomaticComplexity")
    logPath := ← field (fun v => (text? v).map some) none (get "logFilePath")
    analyzer := ← field text? "lizard" (get "analyzer") }

/-- Reads the table of a document. -/
def ofTable? (t : Toml.Table) : Option Config := do
  return {
    thresholds := ← field thresholds? Thresholds.unset (t.get? "thresholds")
    execution := ← field execution? {} (t.get? "execution") }

/-- Reads a document. -/
def ofToml? (text : String) : Option Config := (Toml.document? text).bind ofTable?

/-- The document that a new project starts with. -/
def template : String :=
  "\n".intercalate
    ["# lizard-lint configuration",
     "# Each threshold is a maximum; 0 or a missing key disables that check.",
     "",
     "[thresholds]",
     "cyclomaticComplexity = 15",
     "tokenCount = 0",
     "numOfParameters = 5",
     "linesOfCodeWithoutComments = 0",
     "",
     "[execution]",
     "ExecuteLizardLintOnFileSave = true",
     "ExecuteLizardLintOnFileOpen = false",
     "ModifiedCyclomaticComplexity = false  # count a whole switch/case as one branch",
     "# logFilePath = \"log\"                 # relative to the project root",
     "# analyzer = \"lizard\"",
     ""]

end Config

end ComplexityLint
