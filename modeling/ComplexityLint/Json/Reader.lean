import ComplexityLint.Json
import ComplexityLint.Text.Digit
import ComplexityLint.Text.Reader

/-!
Reading JSON. The readers accept every JSON text; a number with a fraction or an exponent is taken
for `null`, because nothing that is read here has a use for one.
-/

namespace ComplexityLint.Json

open Text

/-- Blanks between the parts of a text. -/
def isGap (c : Char) : Bool := c = ' ' || c = '\t' || c = '\n' || c = '\r'

/-- Drops the blanks in front. -/
def skipGap (s : List Char) : List Char := s.dropWhile isGap

/-- Reads four hexadecimal digits. -/
def unit? : Reader Nat
  | a :: b :: c :: d :: s => do
    let n := 4096 * (← hexValue? a) + 256 * (← hexValue? b)
    return (n + 16 * (← hexValue? c) + (← hexValue? d), s)
  | _ => none

/-- Reads the digits of an escaped character; two escapes stand for one beyond U+FFFF. -/
def codePoint? : Reader Char := fun s => do
  let (n, s) ← unit? s
  if 0xDC00 ≤ n ∧ n < 0xE000 then none
  else if 0xD800 ≤ n ∧ n < 0xDC00 then
    match s with
    | '\\' :: 'u' :: s =>
      let (m, s) ← unit? s
      if 0xDC00 ≤ m ∧ m < 0xE000 then
        return (Char.ofNat (0x10000 + 1024 * (n - 0xD800) + (m - 0xDC00)), s)
      else none
    | _ => none
  else return (Char.ofNat n, s)

/-- Reads an escape behind its backslash. -/
def escape? : Reader Char
  | '"' :: s => some ('"', s)
  | '\\' :: s => some ('\\', s)
  | '/' :: s => some ('/', s)
  | 'b' :: s => some ('\x08', s)
  | 'f' :: s => some ('\x0c', s)
  | 'n' :: s => some ('\n', s)
  | 'r' :: s => some ('\r', s)
  | 't' :: s => some ('\t', s)
  | 'u' :: s => codePoint? s
  | _ => none

/-- Reads the rest of a string of at most `fuel` characters, with its closing quote. -/
def stringUpTo : Nat → Reader (List Char)
  | 0, _ => none
  | _ + 1, [] => none
  | fuel + 1, c :: s =>
    if c = '"' then some ([], s)
    else if c = '\\' then do
      let (e, s) ← escape? s
      let (r, s) ← stringUpTo fuel s
      return (e :: r, s)
    else if c.toNat < 32 then none
    else (stringUpTo fuel s).map fun (r, s) => (c :: r, s)

/-- Reads the rest of a string, with its closing quote. -/
def string? : Reader String := fun s =>
  (stringUpTo (s.length + 1) s).map fun (t, s) => (String.ofList t, s)

/-- Reads some digits, at least one. -/
def digits? : Reader (List Char) := fun s =>
  match s.takeWhile Char.isDigit with
  | [] => none
  | d => some (d, s.dropWhile Char.isDigit)

/-- Reads a fraction, if there is one, and says whether there was. -/
def fraction? : Reader Bool
  | '.' :: s => (digits? s).map fun (_, s) => (true, s)
  | s => some (false, s)

/-- Reads an exponent, if there is one, and says whether there was. -/
def exponent? : Reader Bool
  | c :: s =>
    if c = 'e' ∨ c = 'E' then
      let s := match s with
        | '+' :: s => s
        | '-' :: s => s
        | s => s
      (digits? s).map fun (_, s) => (true, s)
    else some (false, c :: s)
  | [] => some (false, [])

/-- Reads a number. -/
def number? : Reader Json := fun s => do
  let (negative, s) := match s with
    | '-' :: s => (true, s)
    | s => (false, s)
  let (whole, s) ← digits? s
  if 1 < whole.length ∧ whole.head? = some '0' then none
  let (fraction, s) ← fraction? s
  let (exponent, s) ← exponent? s
  let n : Int := if negative then -decimal whole else decimal whole
  return (if fraction || exponent then .null else .number n, s)

/-- Reads a value that is no string, array or object. -/
def plain? : Reader Json
  | 'n' :: 'u' :: 'l' :: 'l' :: s => some (.null, s)
  | 't' :: 'r' :: 'u' :: 'e' :: s => some (.bool true, s)
  | 'f' :: 'a' :: 'l' :: 's' :: 'e' :: s => some (.bool false, s)
  | s => number? s

mutual

/-- Reads a value, with blanks in front of it. -/
def valueUpTo : Nat → Reader Json
  | 0, _ => none
  | fuel + 1, s =>
    match skipGap s with
    | '"' :: s => (string? s).map fun (t, s) => (.string t, s)
    | '[' :: s =>
      match skipGap s with
      | ']' :: s => some (.array [], s)
      | s => (itemsUpTo fuel s).map fun (vs, s) => (.array vs, s)
    | '\x7b' :: s =>
      match skipGap s with
      | '\x7d' :: s => some (.object [], s)
      | s => (membersUpTo fuel s).map fun (ms, s) => (.object ms, s)
    | s => plain? s

/-- Reads the items of an array, with its closing bracket. -/
def itemsUpTo : Nat → Reader (List Json)
  | 0, _ => none
  | fuel + 1, s => do
    let (v, s) ← valueUpTo fuel s
    match skipGap s with
    | ']' :: s => return ([v], s)
    | ',' :: s =>
      let (vs, s) ← itemsUpTo fuel s
      return (v :: vs, s)
    | _ => none

/-- Reads the members of an object, with its closing brace. -/
def membersUpTo : Nat → Reader (List (String × Json))
  | 0, _ => none
  | fuel + 1, s => do
    match skipGap s with
    | '"' :: s =>
      let (k, s) ← string? s
      match skipGap s with
      | ':' :: s =>
        let (v, s) ← valueUpTo fuel s
        match skipGap s with
        | '\x7d' :: s => return ([(k, v)], s)
        | ',' :: s =>
          let (ms, s) ← membersUpTo fuel s
          return ((k, v) :: ms, s)
        | _ => none
      | _ => none
    | _ => none

end

/-- The value that a text writes. -/
def read? (text : String) : Option Json :=
  let s := text.toList
  match valueUpTo (s.length + 1) s with
  | some (v, rest) => if skipGap rest = [] then some v else none
  | none => none

end ComplexityLint.Json
