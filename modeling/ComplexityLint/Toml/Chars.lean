/-!
Character classes of TOML, and what may stand between its tokens.
-/

namespace ComplexityLint.Toml

/-- Blanks within a line. -/
def isSpace (c : Char) : Bool := c == ' ' || c == '\t'

/-- Characters that no comment or string may hold as they are. -/
def isControl (c : Char) : Bool := (c.toNat < 32 && c != '\t') || c.toNat == 127

/-- Drops the blanks in front. -/
def skipSpace (s : List Char) : List Char := s.dropWhile isSpace

/-- Reads a line break: a line feed, with or without a carriage return in front. -/
def lineBreak? : List Char → Option (List Char)
  | '\n' :: s => some s
  | '\r' :: '\n' :: s => some s
  | _ => none

/-- Reads the rest of a comment, up to and with the line break. -/
def comment? (s : List Char) : Option (List Char) :=
  let body := s.takeWhile (· ≠ '\n')
  match s.dropWhile (· ≠ '\n') with
  | [] => if body.any isControl then none else some []
  | _ :: rest =>
    let body := if body.getLast? = some '\r' then body.dropLast else body
    if body.any isControl then none else some rest

/-- Reads what may follow on a line that is complete: blanks, a comment, the line break or the end
of the text. -/
def endOfLine? (s : List Char) : Option (List Char) :=
  match skipSpace s with
  | [] => some []
  | '#' :: s => comment? s
  | s => lineBreak? s

/-- Reads blanks, comments and line breaks, at most `fuel` of them. -/
def gapUpTo : Nat → List Char → Option (List Char)
  | 0, s => some s
  | fuel + 1, s =>
    match skipSpace s with
    | '#' :: s => (comment? s).bind (gapUpTo fuel)
    | s => match lineBreak? s with
      | some s => gapUpTo fuel s
      | none => some s

/-- Reads all blanks, comments and line breaks in front. -/
def gap? (s : List Char) : Option (List Char) := gapUpTo (s.length + 1) s

/-- Hexadecimal digits. -/
def isHex (c : Char) : Bool := c.isDigit || ('a' ≤ c && c ≤ 'f') || ('A' ≤ c && c ≤ 'F')

/-- The value of a digit, up to base sixteen. -/
def digitValue (c : Char) : Nat :=
  if c.isDigit then c.toNat - 48 else if c.toNat ≥ 97 then c.toNat - 87 else c.toNat - 55

/-- The value of a text of digits in a base. -/
def ofDigits (base : Nat) (s : List Char) : Nat :=
  s.foldl (fun n c => base * n + digitValue c) 0

end ComplexityLint.Toml
