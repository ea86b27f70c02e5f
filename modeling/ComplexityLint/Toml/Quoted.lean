import ComplexityLint.Text.Reader
import ComplexityLint.Toml.Chars

/-!
Strings: basic ones with escapes, literal ones without, each on one line or between triple quotes.
-/

namespace ComplexityLint.Toml

open Text (Reader)

/-- Reads a character given by `n` hexadecimal digits. -/
def hexEscape? (n : Nat) : Reader Char := fun s =>
  let digits := s.take n
  let code := ofDigits 16 digits
  if digits.length = n ∧ digits.all isHex ∧ (code < 0xD800 ∨ (0xE000 ≤ code ∧ code < 0x110000)) then
    some (Char.ofNat code, s.drop n)
  else none

/-- Reads an escape behind its backslash. -/
def escape? : Reader Char
  | 'b' :: s => some ('\x08', s)
  | 't' :: s => some ('\t', s)
  | 'n' :: s => some ('\n', s)
  | 'f' :: s => some ('\x0c', s)
  | 'r' :: s => some ('\r', s)
  | 'e' :: s => some ('\x1b', s)
  | '"' :: s => some ('"', s)
  | '\\' :: s => some ('\\', s)
  | 'x' :: s => hexEscape? 2 s
  | 'u' :: s => hexEscape? 4 s
  | 'U' :: s => hexEscape? 8 s
  | _ => none

/-- Reads the rest of a basic string, with its closing quote. -/
def basicUpTo : Nat → Reader (List Char)
  | 0, _ => none
  | _ + 1, [] => none
  | fuel + 1, c :: s =>
    if c = '"' then some ([], s)
    else if c = '\\' then do
      let (e, s) ← escape? s
      let (r, s) ← basicUpTo fuel s
      return (e :: r, s)
    else if isControl c then none
    else (basicUpTo fuel s).map fun (r, s) => (c :: r, s)

/-- The quotes of a run that belong to the text before a closing triple, and what follows the
triple: at most two of a run of quotes are text. -/
def closeTriple? (quote : Char) (s : List Char) : Option (List Char × List Char) :=
  let run := (s.takeWhile (· = quote)).length
  if run < 3 then none
  else some (List.replicate (min run 5 - 3) quote, s.drop (min run 5))

/-- Drops a line break directly behind an opening triple. -/
def dropFirstBreak (s : List Char) : List Char := (lineBreak? s).getD s

/-- Drops blanks and line breaks, as a backslash at the end of a line does. A carriage return that
no line feed follows stays. -/
def skipBreaks : List Char → List Char
  | '\r' :: '\n' :: s => skipBreaks s
  | c :: s => if isSpace c || c == '\n' then skipBreaks s else c :: s
  | [] => []

/-- Reads the rest of a basic string between triple quotes. -/
def basicLinesUpTo : Nat → Reader (List Char)
  | 0, _ => none
  | _ + 1, [] => none
  | fuel + 1, c :: s =>
    if c = '"' then
      match closeTriple? '"' (c :: s) with
      | some closed => some closed
      | none => (basicLinesUpTo fuel s).map fun (r, s) => (c :: r, s)
    else if c = '\\' then
      match lineBreak? (skipSpace s) with
      | some s => basicLinesUpTo fuel (skipBreaks s)
      | none => do
        let (e, s) ← escape? s
        let (r, s) ← basicLinesUpTo fuel s
        return (e :: r, s)
    else if c = '\n' ∨ (c = '\r' ∧ s.head? = some '\n') ∨ !isControl c then
      (basicLinesUpTo fuel s).map fun (r, s) => (c :: r, s)
    else none

/-- Reads the rest of a literal string, with its closing quote. -/
def literal? : Reader (List Char)
  | [] => none
  | c :: s =>
    if c = '\x27' then some ([], s)
    else if isControl c then none
    else (literal? s).map fun (r, s) => (c :: r, s)

/-- Reads the rest of a literal string between triple quotes. -/
def literalLines? : Reader (List Char)
  | [] => none
  | c :: s =>
    match closeTriple? '\x27' (c :: s) with
    | some closed => some closed
    | none =>
      if c = '\n' ∨ (c = '\r' ∧ s.head? = some '\n') ∨ !isControl c then
        (literalLines? s).map fun (r, s) => (c :: r, s)
      else none

/-- Reads a string on one line. -/
def quotedLine? : Reader (List Char)
  | '"' :: s => basicUpTo (s.length + 1) s
  | '\x27' :: s => literal? s
  | _ => none

/-- Reads a string of any kind. -/
def quoted? : Reader (List Char)
  | '"' :: '"' :: '"' :: s => let s := dropFirstBreak s; basicLinesUpTo (s.length + 1) s
  | '\x27' :: '\x27' :: '\x27' :: s => literalLines? (dropFirstBreak s)
  | s => quotedLine? s

end ComplexityLint.Toml
