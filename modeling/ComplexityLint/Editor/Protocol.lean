import ComplexityLint.Editor.Server
import ComplexityLint.Output.Listing
import ComplexityLint.Output.Sarif

/-!
The messages of an editor and the server as JSON.
-/

namespace ComplexityLint.Editor

open Output

/-- A member of an object. -/
def member? (v : Json) (k : String) : Option Json :=
  match v with
  | .object ms => ms.lookup k
  | _ => none

/-- The text of a string. -/
def text? : Json → Option String
  | .string s => some s
  | _ => none

/-- The URI in a member. -/
def uri? (v : Json) (k : String) : Option Uri :=
  (member? v k).bind fun s => (text? s).bind Uri.parse?

/-- The folders of a session. -/
def foldersOf (v : Json) : List Uri :=
  match member? v "workspaceFolders" with
  | some (.array fs) => fs.filterMap fun f => uri? f "uri"
  | _ => []

/-- The first argument of a command, if it is a text. -/
def argumentOf (v : Json) : Option String :=
  match member? v "arguments" with
  | some (.array (a :: _)) => text? a
  | _ => none

/-- Reads a message by its method and parameters. -/
def Message.ofCall? (method : String) (params : Json) : Option Message :=
  let document := (member? params "textDocument").getD .null
  match method with
  | "initialize" => some (.started (foldersOf params) (uri? params "rootUri"))
  | "initialized" => some .initialized
  | "shutdown" => some .shutdown
  | "textDocument/didOpen" => (uri? document "uri").map .opened
  | "textDocument/didSave" => (uri? document "uri").map .saved
  | "workspace/didChangeConfiguration" => some .settingsChanged
  | "workspace/executeCommand" =>
    ((member? params "command").bind text?).map fun c => .execute c (argumentOf params)
  | _ => none

/-- What the server can do. -/
def capabilitiesJson : Json :=
  .object
    [("capabilities", .object
      [("textDocumentSync", .object
        [("openClose", .bool true), ("change", .number 0),
         ("save", .object [("includeText", .bool false)])]),
       ("executeCommandProvider", .object
        [("commands", .array [.string lintCommand, .string analysisCommand])])]),
     ("serverInfo", .object
      [("name", .string toolName), ("version", .string toolVersion)])]

/-- An entry with its marks. -/
def entryJson (e : Entry) : Json :=
  .object
    [("functionName", .string e.record.name), ("filePath", .string e.record.file),
     ("cyclomaticComplexity", .number e.record.complexity.toNat),
     ("tokenCount", .number e.record.tokens.toNat),
     ("parameterCount", .number e.record.parameters.toNat),
     ("linesOfCodeWithoutComments", .number e.record.lines.toNat),
     ("startLine", .number e.record.startLine.toNat), ("endLine", .number e.record.endLine.toNat),
     ("violations", .object (Metric.all.map fun m => (m.key, .bool (e.flags.get m))))]

/-- The number of a grade in the protocol. -/
def severityNumber : Severity → Nat
  | .error => 1
  | .warning => 2
  | .info => 3

/-- The number of a weight in the protocol. -/
def Weight.number : Weight → Nat
  | error => 1
  | warning => 2
  | info => 3

/-- A diagnostic for an editor. -/
def editorJson (d : Diagnostic) : Json :=
  .object
    [("range", .object
      [("start", positionJson d.range.start), ("end", positionJson d.range.stop)]),
     ("severity", .number (severityNumber d.severity)), ("code", .string d.metric.id),
     ("source", .string Diagnostic.source), ("message", .string d.message)]

/-- The method and parameters of a notice. -/
def Notice.call : Notice → String × Json
  | remark weight text =>
    ("window/logMessage", .object [("type", .number weight.number), ("message", .string text)])
  | diagnostics uri ds =>
    ("textDocument/publishDiagnostics",
      .object [("uri", .string uri), ("diagnostics", .array (ds.map editorJson))])

/-- What is sent as an answer: nothing, a result, or an error with its number and text. -/
inductive Response
  | silence
  | result (v : Json)
  | error (code : Int) (text : String)

/-- An answer as it is sent. -/
def Answer.response : Answer → Response
  | silence => .silence
  | null => .result .null
  | capabilities => .result capabilitiesJson
  | analysis none => .result .null
  | analysis (some es) => .result (.array (es.map entryJson))
  | refused reason => .error (-32602) reason

end ComplexityLint.Editor
