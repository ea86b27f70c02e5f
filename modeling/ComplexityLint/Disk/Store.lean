import ComplexityLint.Disk.Basic

/-!
Reading logs from a disk. Only regular files up to ten mebibytes that hold a text are read.
-/

namespace ComplexityLint.Disk

/-- The size of the largest log that is read. -/
def logLimit : Nat := 10 * 1024 * 1024

/-- What is said of a content that is no text. -/
def notText : String := "stream did not contain valid UTF-8"

/-- The text of a log, or the reason why there is none. -/
def readLog (d : Disk) (p : Path) : Except String String :=
  match d.look p with
  | .error r => .error r.message
  | .ok (.file c _) =>
    if logLimit < c.size then
      .error ("file too large: " ++ toString c.size ++ " bytes (max: " ++ toString logLimit
        ++ " bytes)")
    else match c.text? with
      | none => .error notText
      | some text => .ok text
  | .ok _ => .error "not a regular file"

end ComplexityLint.Disk
