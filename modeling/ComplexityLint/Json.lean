import ComplexityLint.Text.Digit

/-!
JSON values and their indented text. An object keeps its members in the order given. In a string
only the quote, the backslash and the characters below U+0020 are escaped.
-/

namespace ComplexityLint

/-- A JSON value. The only numbers that occur are whole. -/
inductive Json
  | null
  | bool (b : Bool)
  | number (n : Int)
  | string (s : String)
  | array (items : List Json)
  | object (members : List (String × Json))

namespace Json

open Text (hexDigit)

/-- A character inside a string. -/
def escapeChar (c : Char) : List Char :=
  if c = '"' then ['\\', '"']
  else if c = '\\' then ['\\', '\\']
  else if c = '\x08' then ['\\', 'b']
  else if c = '\x0c' then ['\\', 'f']
  else if c = '\n' then ['\\', 'n']
  else if c = '\r' then ['\\', 'r']
  else if c = '\t' then ['\\', 't']
  else if c.toNat < 32 then
    ['\\', 'u', '0', '0', hexDigit (c.toNat / 16), hexDigit (c.toNat % 16)]
  else [c]

/-- A string in quotes. -/
def quote (s : String) : List Char := '"' :: s.toList.flatMap escapeChar ++ ['"']

/-- A line break and the indentation of a depth. -/
def newline (depth : Nat) : List Char := '\n' :: List.replicate (2 * depth) ' '

mutual

/-- The text of a value that stands at a depth. -/
def chars (depth : Nat) : Json → List Char
  | null => "null".toList
  | bool b => (if b then "true" else "false").toList
  | number n => (toString n).toList
  | string s => quote s
  | array [] => ['[', ']']
  | array (v :: vs) =>
    '[' :: newline (depth + 1) ++ chars (depth + 1) v ++ itemChars (depth + 1) vs
      ++ newline depth ++ [']']
  | object [] => ['\x7b', '\x7d']
  | object (m :: ms) =>
    '\x7b' :: newline (depth + 1) ++ memberChars (depth + 1) m ++ restChars (depth + 1) ms
      ++ newline depth ++ ['\x7d']

/-- The text of the items behind the first one. -/
def itemChars (depth : Nat) : List Json → List Char
  | [] => []
  | v :: vs => ',' :: newline depth ++ chars depth v ++ itemChars depth vs

/-- The text of a member. -/
def memberChars (depth : Nat) : String × Json → List Char
  | (k, v) => quote k ++ ':' :: ' ' :: chars depth v

/-- The text of the members behind the first one. -/
def restChars (depth : Nat) : List (String × Json) → List Char
  | [] => []
  | m :: ms => ',' :: newline depth ++ memberChars depth m ++ restChars depth ms

end

/-- The indented text of a value. -/
def pretty (v : Json) : String := String.ofList (chars 0 v)

end Json

end ComplexityLint
