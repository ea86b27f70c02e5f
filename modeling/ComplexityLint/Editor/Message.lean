import ComplexityLint.Linter.Basic
import ComplexityLint.Uri.Basic

/-!
What an editor and the server say to each other.
-/

namespace ComplexityLint.Editor

/-- What an editor says. -/
inductive Message
  /-- The session begins, with some folders and perhaps a root. -/
  | started (folders : List Uri) (root : Option Uri)
  | initialized
  | shutdown
  | opened (uri : Uri)
  | saved (uri : Uri)
  | settingsChanged
  /-- A command, with its first argument if that is a text. -/
  | execute (command : String) (argument : Option String)
deriving DecidableEq

/-- How a message is answered. -/
inductive Answer
  /-- Not at all: it was no question. -/
  | silence
  | null
  /-- With what the server can do. -/
  | capabilities
  /-- With what is known of a file. -/
  | analysis (entries : Option (List Entry))
  /-- With an error: the message's parameters are of no use. -/
  | refused (reason : String)
deriving DecidableEq

/-- How much a remark matters. -/
inductive Weight
  | error
  | warning
  | info
deriving DecidableEq

/-- What the server says without being asked. -/
inductive Notice
  | remark (weight : Weight) (text : String)
  /-- The diagnostics of a file. -/
  | diagnostics (uri : String) (ds : List Diagnostic)
deriving DecidableEq

/-- The command that lints a path. -/
def lintCommand : String := "lizard-linter.lint"

/-- The command that asks what is known of a file. -/
def analysisCommand : String := "lizard-linter.fileAnalysis"

/-- Whether a URI names a configuration document. -/
def isConfigUri (u : Uri) : Bool := u.lastSegment? = some Config.fileName.toList

/-- The path that a text names: a URI of a file, or else the text itself. -/
def argumentPath? (text : String) : Option Path :=
  match Uri.parse? text with
  | some u => if u.scheme = "file".toList then u.filePath? else some (.ofText text)
  | none => some (.ofText text)

end ComplexityLint.Editor
