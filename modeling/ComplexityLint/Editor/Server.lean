import ComplexityLint.Editor.Message

/-!
The server of an editor. Its state is a linter; it answers one message after another. The
configuration in force is the last one that was loaded; one that cannot be loaded changes nothing.
-/

namespace ComplexityLint.Editor

/-- How a message was dealt with. -/
structure Turn (σ : Type) where
  answer : Answer
  linter : Linter
  world : σ
  notices : List Notice := []
  /-- What the linter did. -/
  events : List Event := []

/-- What a server works with: the surroundings of its linter, and a way to load the configuration
of a project. -/
structure Setting (σ : Type) where
  host : Host σ
  load : σ → Path → Except Fault Config

variable {σ : Type}

/-- Loads the configuration of the first root. -/
def reload (k : Setting σ) (l : Linter) (w : σ) : Linter × List Notice :=
  match l.roots with
  | [] => (l, [])
  | root :: _ =>
    match k.load w root with
    | .ok c => (l.setConfig c, [])
    | .error f => (l, [.remark .warning ("Keeping previous configuration: " ++ f.message)])

/-- A turn in which nothing is done but the configuration loaded. -/
def reloadTurn (k : Setting σ) (a : Answer) (l : Linter) (w : σ) : Turn σ :=
  let (l, notices) := reload k l w
  { answer := a, linter := l, world := w, notices := notices }

/-- The notices on what a linter published. Only an absolute path has a URI. -/
def published (es : List Event) : List Notice :=
  (Event.publications es).filterMap fun (p, ds) => (Uri.ofPath? p).map fun u => .diagnostics u ds

/-- The remark on a failed request. That a file is of no known language is not worth one. -/
def failureNotice : Fault → List Notice
  | .unsupported _ => []
  | f => [.remark .error ("lizard-lint: " ++ f.message)]

/-- Lints a path. -/
def lintTurn (k : Setting σ) (a : Answer) (p : Path) (l : Linter) (w : σ) : Turn σ :=
  let o := l.lint k.host p w
  let failure := match o.result with
    | .ok _ => []
    | .error f => failureNotice f
  { answer := a, linter := o.linter, world := o.world
    notices := published o.events ++ failure, events := o.events }

/-- A turn in which nothing changes. -/
def idle (a : Answer) (l : Linter) (w : σ) : Turn σ := { answer := a, linter := l, world := w }

/-- Lints the file that a URI names, if it is wanted and names one. -/
def lintUri (k : Setting σ) (wanted : Bool) (u : Uri) (l : Linter) (w : σ) : Turn σ :=
  match u.filePath? with
  | none => idle .silence l w
  | some p => if wanted then lintTurn k .silence p l w else idle .silence l w

/-- The roots of a session: the folders and the root, as paths. -/
def sessionRoots (folders : List Uri) (root : Option Uri) : List Path :=
  (folders ++ root.toList).filterMap Uri.filePath?

/-- Carries out a command. -/
def executeTurn (k : Setting σ) (command : String) (argument : Option String) (l : Linter) (w : σ) :
    Turn σ :=
  match argument.bind argumentPath? with
  | none => idle (.refused "expected a file URI or path argument") l w
  | some p =>
    if command = lintCommand then lintTurn k .null p l w
    else if command = analysisCommand then idle (.analysis (l.fileAnalysis p)) l w
    else idle (.refused ("unknown command " ++ command)) l w

/-- Deals with a message. -/
def handle (k : Setting σ) (m : Message) (l : Linter) (w : σ) : Turn σ :=
  match m with
  | .started folders root =>
    reloadTurn k .capabilities ((sessionRoots folders root).foldl Linter.addRoot l) w
  | .initialized =>
    { idle .silence l w with
      notices := [.remark .info "lizard-lint LSP server initialized"] }
  | .shutdown => idle .null l w
  | .opened u => lintUri k l.config.execution.lintOnOpen u l w
  | .saved u =>
    if isConfigUri u then reloadTurn k .silence l w
    else lintUri k l.config.execution.lintOnSave u l w
  | .settingsChanged => reloadTurn k .silence l w
  | .execute command argument => executeTurn k command argument l w

end ComplexityLint.Editor
