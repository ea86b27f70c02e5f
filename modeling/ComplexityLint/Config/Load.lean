import ComplexityLint.Config
import ComplexityLint.Disk.Store
import ComplexityLint.Fault

/-!
Loading the configuration of a project: the document in its directory, or the defaults where there
is none.
-/

namespace ComplexityLint.Config

/-- A configuration and the document that it was read from. -/
structure Loaded where
  config : Config
  source : Option Path

/-- The size of the largest document that is read. -/
def sizeLimit : Nat := 1024 * 1024

/-- The document's place in a project: in the directory itself, or beside the file. -/
def documentFor (d : Disk) (p : Path) : Path :=
  (if d.isFile p then p.parent?.getD p else p).join (.ofText fileName)

/-- Reads a document. -/
def read (d : Disk) (document : Path) : Except Fault Config :=
  match d.look document with
  | .error r => .error (.file document r.message)
  | .ok .directory => .error (.file document Refusal.isDirectory.message)
  | .ok .sink => .ok {}
  | .ok (.file c _) =>
    if sizeLimit < c.size then
      .error (.config ("Config file too large (" ++ toString c.size ++ " bytes, max "
        ++ toString sizeLimit ++ " bytes): " ++ document.text))
    else match c.text? with
      | none => .error (.file document Disk.notText)
      | some text =>
        match ofToml? text with
        | none => .error (.config (document.text ++ ": TOML parse error"))
        | some config => .ok config

/-- Loads the configuration of a directory, or of the directory that a file is in. -/
def load (d : Disk) (p : Path) : Except Fault Loaded :=
  if !d.pathExists p then .error (.config ("Path does not exist: " ++ p.text))
  else
    let document := documentFor d p
    if !d.pathExists document then .ok ⟨{}, none⟩
    else (read d document).map fun config => ⟨config, some document⟩

end ComplexityLint.Config
