import ComplexityLint.Diagnostic.Basic
import ComplexityLint.Json

/-!
Diagnostics as a SARIF 2.1.0 log with a single run: a rule for each metric that occurs, in the
order of first occurrence, and a result for each diagnostic.
-/

namespace ComplexityLint.Output

/-- The name of the tool. -/
def toolName : String := "lizard-lint"

/-- The version of the tool. -/
def toolVersion : String := "0.6.0"

/-- The schema that the log follows. -/
def sarifSchema : String :=
  "https://raw.githubusercontent.com/oasis-tcs/sarif-spec/master/Schemata/sarif-schema-2.1.0.json"

/-- Where the analyzer is described. -/
def analyzerHome : String := "https://github.com/terryyin/lizard"

/-- The metrics that occur, each once, in the order of first occurrence. -/
def metricsOf (ds : List Diagnostic) : List Metric :=
  ds.foldl (fun seen d => if d.metric ∈ seen then seen else seen ++ [d.metric]) []

/-- A text as an object. -/
def textJson (s : String) : Json := .object [("text", .string s)]

/-- The rule of a metric. -/
def ruleJson (m : Metric) : Json :=
  .object
    [("id", .string m.id),
     ("name", .string m.key),
     ("shortDescription", textJson (m.key ++ " exceeds the configured threshold"))]

/-- The level of a grade. -/
def level : Severity → String
  | .error => "error"
  | .warning => "warning"
  | .info => "note"

/-- The result of a diagnostic. Lines and columns count from one. -/
def resultJson (d : Diagnostic) : Json :=
  let region := Json.object
    [("startLine", .number d.line.toNat),
     ("startColumn", .number (d.range.start.character.toNat + 1))]
  let place := Json.object
    [("artifactLocation", .object [("uri", .string d.file)]), ("region", region)]
  .object
    [("ruleId", .string d.metric.id),
     ("level", .string (level d.severity)),
     ("message", textJson d.message),
     ("locations", .array [.object [("physicalLocation", place)]])]

/-- The log of a list of diagnostics. -/
def sarif (ds : List Diagnostic) : Json :=
  let driver := Json.object
    [("name", .string toolName),
     ("version", .string toolVersion),
     ("informationUri", .string analyzerHome),
     ("rules", .array ((metricsOf ds).map ruleJson))]
  .object
    [("$schema", .string sarifSchema),
     ("version", .string "2.1.0"),
     ("runs", .array [.object
       [("tool", .object [("driver", driver)]), ("results", .array (ds.map resultJson))]])]

end ComplexityLint.Output
