import ComplexityLint.CommandLine.Run
import ComplexityLint.Editor.Envelope
import ComplexityLint.Json.Reader
import ComplexityLint.Shell.Run

/-!
The program. It works on an image: before a command runs, the part of the file system that the
command can look at is taken into a `Disk`, and afterwards what has changed is written back. An
editor is served message by message, each on a fresh image of the project's roots. Analyzers are run
by `Shell.spawn`.
-/

namespace ComplexityLint

open CommandLine

/-- The name of a place for the file system. -/
def real (p : Place) := (⟨"/" ++ Text.shown ("/".intercalate p), ""⟩ : IO.FS.DirEntry).root

/-- The content of a file, and whether it is a script. -/
def fileItem (b : ByteArray) : Item := .file (.ofBytes b) (b.data.toList.take 2 = [35, 33])

/-- Takes in what is at a place and, down to a depth, below it. Links to directories are not
followed below the place. -/
def takeIn : Nat → Place → Disk → IO Disk
  | depth, place, d => do
    match ← (real place).metadata.toBaseIO with
    | .error _ => return d
    | .ok data =>
      match data.type with
      | .dir =>
        let d := if place = [] then d else d.put place .directory
        match depth with
        | 0 => return d
        | depth + 1 =>
          match ← (real place).readDir.toBaseIO with
          | .error _ => return d
          | .ok entries =>
            entries.foldlM (fun d e => do
              let isLink := match ← e.path.symlinkMetadata.toBaseIO with
                | .ok m => m.type == .symlink
                | .error _ => true
              if isLink && (← e.path.isDir) then return d
              takeIn depth (place ++ [Text.spelling e.fileName]) d) d
      | .file =>
        match ← (IO.FS.readBinFile (real place)).toBaseIO with
        | .error _ => return d
        | .ok b => return d.put place (fileItem b)
      | _ => return d.put place .sink

/-- The places that a path passes on its way from a directory. -/
def trail (start : Place) (p : Path) : List Place :=
  let step (q : Place) (s : List Char) : Place :=
    if s = [] ∨ s = ['.'] then q
    else if s = ['.', '.'] then q.dropLast
    else q ++ [String.ofList s]
  p.segments.foldl (fun qs s => qs ++ [step (qs.getLast?.getD []) s])
    [if p.isAbsolute then [] else start]

/-- Takes in what a path leads to, with some levels below it. Around a file its directory is taken
in as well. -/
def takeInPath (d : Disk) (p : Path) (depth : Nat) : IO Disk := do
  let places := trail d.here p
  let d ← places.foldlM (fun d q => takeIn 0 q d) d
  match places.getLast? with
  | none => return d
  | some place =>
    match d.item? place with
    | some .directory => takeIn depth place d
    | _ => if depth = 0 then return d else takeIn depth place.dropLast d

/-- How far down a project is taken in. -/
def projectDepth : Nat := 32

/-- The paths that a request looks at, and how many levels below them. -/
def scope : Request → List (Path × Nat)
  | .check target root .. => (target :: root.toList).map (·, projectDepth)
  | .parse logs dir .. => (dir, 1) :: logs.map (·, 0)
  | .init dir => [(dir, 1)]
  | .metrics => [(⟨"."⟩, 1)]
  | .serve => []

/-- The paths that every image holds. -/
def systemPaths : List Path := [⟨"/bin"⟩, ⟨"/usr/bin"⟩, ⟨"/dev/null"⟩, ⟨"/tmp"⟩]

/-- An image of some paths. -/
def image (paths : List (Path × Nat)) : IO Disk := do
  let here := (← IO.currentDir).toString
  let start : Disk := { here := (trail [] (.ofText here)).getLast?.getD [] }
  let around : List (Path × Nat) := (.ofText here :: systemPaths).map (·, 0)
  (around ++ paths).foldlM (fun d (p, n) => takeInPath d p n) start

/-- Writes back what has changed. -/
def writeBack (old new : Disk) : IO Unit := do
  for (p, i) in old.items do
    if (new.item? p).isNone && (← (real p).pathExists) then
      match i with
      | .directory => IO.FS.removeDirAll (real p)
      | _ => IO.FS.removeFile (real p)
  for (p, i) in new.items do
    if old.item? p ≠ some i then
      match i with
      | .directory => IO.FS.createDirAll (real p)
      | .file c executable =>
        IO.FS.writeBinFile (real p) c.bytes
        if executable then
          IO.setAccessRights (real p) ⟨⟨true, true, true⟩, ⟨true, false, true⟩, ⟨true, false, true⟩⟩
      | .sink => pure ()

/-- How things are shown. Colours can be forced and forbidden; else they are for terminals. -/
def terminal : IO Terminal := do
  let forced := (← IO.getEnv "CLICOLOR_FORCE").any (· ≠ "0")
  let forbidden := (← IO.getEnv "NO_COLOR").isSome || (← IO.getEnv "CLICOLOR") == some "0"
  return { colours := forced || (!forbidden && (← (← IO.getStdout).isTty)) }

/-- Reads a number of bytes, or what is left of the input. -/
partial def readBytes (input : IO.FS.Stream) (n : Nat) (got : ByteArray) : IO ByteArray := do
  if n ≤ got.size then return got
  let more ← input.read (USize.ofNat (n - got.size))
  if more.isEmpty then return got else readBytes input n (got ++ more)

/-- Reads the header of an envelope: the number of bytes that it announces, unless the input is at
its end. -/
partial def readHeader (input : IO.FS.Stream) (size : Nat) : IO (Option Nat) := do
  let line ← input.getLine
  if line.isEmpty then return none
  if Text.trim line.toList = [] then return some size
  if line.startsWith "Content-Length:" then
    readHeader input (Text.decimal (line.toList.filter Char.isDigit))
  else readHeader input size

/-- Sends an envelope. -/
def send (v : Json) : IO Unit := do
  let text := v.pretty
  let output ← IO.getStdout
  output.putStr ("Content-Length: " ++ toString text.utf8ByteSize ++ "\r\n\r\n" ++ text)
  output.flush

/-- Sends a response, if the message expects one. -/
def respond (c : Editor.Call) (r : Editor.Response) : IO Unit :=
  match c.id.bind r.sealed? with
  | none => pure ()
  | some v => send v

/-- Deals with a message on a fresh image of the project's roots. -/
def deal (c : Editor.Call) (m : Editor.Message) (l : Linter) : IO Linter := do
  let new := match m with
    | .started folders root => Editor.sessionRoots folders root
    | _ => []
  let d ← image ((l.roots ++ new).map (·, projectDepth))
  let setting : Editor.Setting Disk :=
    { host := Disk.host Shell.spawn, load := fun d p => (Config.load d p).map (·.config) }
  let turn := Editor.handle setting m l d
  writeBack d turn.world
  turn.notices.forM fun n => send n.sealed
  respond c turn.answer.response
  return turn.linter

/-- Serves an editor until it leaves. -/
partial def serve (l : Linter) : IO Unit := do
  let input ← IO.getStdin
  match ← readHeader input 0 with
  | none => return
  | some size =>
    let body ← readBytes input size .empty
    match ((String.fromUTF8? body).bind Json.read?).bind Editor.Call.ofJson? with
    | none => serve l
    | some c =>
      match c.message? with
      | some m => serve (← deal c m l)
      | none =>
        if c.method = "exit" then return
        respond c Editor.unreadable
        serve l

/-- Carries out a command line on the file system. -/
def carryOut (args : List String) : IO UInt32 := do
  let started ← IO.monoMsNow
  let paths := match CommandLine.reading args with
    | .run _ r => scope r
    | _ => []
  let d ← image paths
  let reply := CommandLine.run Shell.spawn (← terminal) args d
  writeBack d reply.disk
  if let .run _ .serve := CommandLine.reading args then serve {}
  IO.print reply.output
  IO.eprint (reply.errorText (toString ((← IO.monoMsNow) - started) ++ "ms"))
  return UInt32.ofNat reply.code

end ComplexityLint

/-- Runs the program. -/
def main (args : List String) : IO UInt32 := ComplexityLint.carryOut args
