import ComplexityLint.Text.Pieces
import ComplexityLint.Text.Reader
import ComplexityLint.Toml.Chars
import ComplexityLint.Toml.Value

/-!
Unquoted values: booleans, integers, floats and date-times. Integers that no 128-bit word holds and
floats beyond the largest double are refused.
-/

namespace ComplexityLint.Toml

open Text

/-- The digits of a number in which single underscores may stand between digits. -/
def grouped? (isDigit : Char → Bool) (s : List Char) : Option (List Char) :=
  let groups := pieces '_' s
  if groups.all fun g => !g.isEmpty && g.all isDigit then some groups.flatten else none

/-- A sign and what it stands in front of. -/
def splitSign : List Char → Bool × List Char
  | '+' :: s => (false, s)
  | '-' :: s => (true, s)
  | s => (false, s)

/-- The digits of a whole number without idle zeros in front. -/
def whole? (s : List Char) : Option (List Char) := do
  let digits ← grouped? Char.isDigit s
  if digits.length > 1 ∧ digits.head? = some '0' then none else some digits

/-- An integer in base ten with a sign, or in another base without. -/
def integer? (s : List Char) : Option Int := do
  let i ← match s with
    | '0' :: 'x' :: s => (grouped? isHex s).map fun d => (ofDigits 16 d : Int)
    | '0' :: 'o' :: s =>
      (grouped? (fun c => '0' ≤ c && c ≤ '7') s).map fun d => (ofDigits 8 d : Int)
    | '0' :: 'b' :: s =>
      (grouped? (fun c => c == '0' || c == '1') s).map fun d => (ofDigits 2 d : Int)
    | s =>
      let (negative, s) := splitSign s
      (whole? s).map fun d => if negative then -(ofDigits 10 d : Int) else (ofDigits 10 d : Int)
  if -(Nat.pow 2 127 : Int) ≤ i ∧ i < (Nat.pow 2 128 : Int) then some i else none

/-- Whether the number `digits · 10 ^ exponent` rounds to a double that is finite. -/
def isFinite (digits : List Char) (exponent : Int) : Bool :=
  let n := ofDigits 10 digits
  let magnitude : Int := (digits.dropWhile (· = '0')).length + exponent
  if n = 0 ∨ magnitude ≤ 308 then true
  else if magnitude > 310 then false
  else
    let limit := Nat.pow 2 1024 - Nat.pow 2 970
    if exponent ≥ 0 then n * Nat.pow 10 exponent.toNat < limit
    else n < limit * Nat.pow 10 (-exponent).toNat

/-- The exponent of a float: absent, or digits with a sign. -/
def exponent? : List Char → Option Int
  | [] => some 0
  | _ :: s =>
    let (negative, s) := splitSign s
    (grouped? Char.isDigit s).map fun d =>
      if negative then -(ofDigits 10 d : Int) else ofDigits 10 d

/-- Whether a text is a float: a whole number with a fraction, an exponent or both, or one of the
two named numbers. -/
def isFloat (s : List Char) : Bool :=
  let (_, s) := splitSign s
  if s = "inf".toList ∨ s = "nan".toList then true
  else
    let isMark (c : Char) : Bool := c == 'e' || c == 'E'
    let mantissa := s.takeWhile (!isMark ·)
    let power := s.dropWhile (!isMark ·)
    let number := do
      let exponent ← exponent? power
      match pieces '.' mantissa with
      | [w] =>
        if power = [] then none
        else
          let w ← whole? w
          return (w, exponent)
      | [w, f] =>
        let w ← whole? w
        let f ← grouped? Char.isDigit f
        return (w ++ f, exponent - f.length)
      | _ => none
    match number with
    | some (digits, exponent) => isFinite digits exponent
    | none => false

/-- Reads a number of exactly `n` digits that is at most `limit`. -/
def fixed? (n limit : Nat) : Reader Nat := fun s =>
  let digits := s.take n
  if digits.length = n ∧ digits.all Char.isDigit ∧ ofDigits 10 digits ≤ limit then
    some (ofDigits 10 digits, s.drop n)
  else none

/-- The number of days of a month. -/
def daysIn (year month : Nat) : Nat :=
  if month = 2 then
    if year % 4 = 0 ∧ (year % 100 ≠ 0 ∨ year % 400 = 0) then 29 else 28
  else if month = 4 ∨ month = 6 ∨ month = 9 ∨ month = 11 then 30
  else 31

/-- Reads one character. -/
def exactly? (c : Char) : List Char → Option (List Char)
  | x :: s => if x = c then some s else none
  | [] => none

/-- Reads a date and gives back what follows. -/
def date? (s : List Char) : Option (List Char) := do
  let (year, s) ← fixed? 4 9999 s
  let s ← exactly? '-' s
  let (month, s) ← fixed? 2 12 s
  let s ← exactly? '-' s
  let (day, s) ← fixed? 2 (daysIn year month) s
  if month = 0 ∨ day = 0 then none else some s

/-- Reads the fraction of a second, if there is one. -/
def fraction? : List Char → Option (List Char)
  | '.' :: s => if (s.head?.any Char.isDigit) then some (s.dropWhile Char.isDigit) else none
  | s => some s

/-- Reads a time of day and gives back what follows. The seconds may be left out. -/
def time? (s : List Char) : Option (List Char) := do
  let (_, s) ← fixed? 2 23 s
  let s ← exactly? ':' s
  let (_, s) ← fixed? 2 59 s
  match s with
  | ':' :: s =>
    let (_, s) ← fixed? 2 60 s
    fraction? s
  | s => some s

/-- Whether a text is the offset of a time zone. -/
def isOffset : List Char → Bool
  | ['Z'] => true
  | ['z'] => true
  | c :: s =>
    let rest := do
      let (_, s) ← fixed? 2 23 s
      let s ← exactly? ':' s
      let (_, s) ← fixed? 2 59 s
      return s
    (c == '+' || c == '-') && rest == some []
  | [] => false

/-- Whether a text is a date, a time, or both with or without an offset. -/
def isDatetime (s : List Char) : Bool :=
  match date? s with
  | some [] => true
  | some (c :: s) =>
    (c == 'T' || c == 't' || c == ' ') &&
      match time? s with
      | some [] => true
      | some s => isOffset s
      | none => false
  | none => time? s == some []

/-- The value of an unquoted text. -/
def scalar? (s : List Char) : Option Value :=
  if s = "true".toList then some (.boolean true)
  else if s = "false".toList then some (.boolean false)
  else match integer? s with
    | some i => some (.integer i)
    | none =>
      if isFloat s then some (.float (String.ofList s))
      else if isDatetime s then some (.datetime (String.ofList s))
      else none

/-- Characters of an unquoted value. -/
def isPlain (c : Char) : Bool :=
  !(c ∈ ['=', ',', '[', ']', '\x7b', '\x7d', ' ', '\t', '#', '\r', '\n', '"', '\x27'])

/-- Reads an unquoted value. One blank may stand between a date and a time. -/
def plain? : Reader Value := fun s =>
  let first := s.takeWhile isPlain
  let rest := s.dropWhile isPlain
  let (text, rest) := match date? first, rest with
    | some [], ' ' :: c :: more =>
      if c.isDigit then
        (first ++ ' ' :: (c :: more).takeWhile isPlain, (c :: more).dropWhile isPlain)
      else (first, rest)
    | _, _ => (first, rest)
  (scalar? text).map (·, rest)

end ComplexityLint.Toml
