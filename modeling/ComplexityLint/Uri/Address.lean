import ComplexityLint.Text.Digit
import ComplexityLint.Text.Pieces

/-!
Addresses of machines: short ones, which are up to four numbers with points between them, and long
ones, which are eight groups of hexadecimal digits with colons between them. In a long address two
colons stand for a row of zeros, and the last two groups can be written as a short address.
-/

namespace ComplexityLint.Uri.Address

open Text

/-- The number that digits write in a base, if they are digits of it. -/
def inBase? (base : Nat) (s : List Char) : Option Nat :=
  s.foldlM
    (fun n c => do
      let d ← hexValue? c
      if d < base then some (base * n + d) else none)
    0

/-- A number of a short address: hexadecimal behind `0x`, octal behind another zero, or decimal.
Nothing behind `0x` is zero. -/
def number? (s : List Char) : Option Nat :=
  match s with
  | [] => none
  | '0' :: c :: s => if c = 'x' ∨ c = 'X' then inBase? 16 s else inBase? 8 (c :: s)
  | s => inBase? 10 s

/-- The address that numbers write in some bytes: all but the last are a byte each, and the last fills
up the bytes that are left, of which there is one at least. -/
def ofNumbers? : Nat → List Nat → Option Nat
  | 0, _ => none
  | _, [] => none
  | bytes + 1, [n] => if n < 256 ^ (bytes + 1) then some n else none
  | bytes + 1, n :: ns =>
    if n < 256 then (ofNumbers? bytes ns).map (n * 256 ^ bytes + ·) else none

/-- Labels without an empty one at the end. -/
def withoutEnd (labels : List (List Char)) : List (List Char) :=
  if labels.getLast? = some [] then labels.dropLast else labels

/-- Whether labels end in a number, and so can only be an address. -/
def endsInNumber (labels : List (List Char)) : Bool :=
  (withoutEnd labels).getLast?.any fun l =>
    (l ≠ [] && l.all Char.isDigit) || (number? l).isSome

/-- The short address that labels write. -/
def short? (labels : List (List Char)) : Option Nat :=
  ((withoutEnd labels).mapM number?).bind (ofNumbers? 4)

/-- A byte in decimal, without zeros in front. -/
def byte? (s : List Char) : Option Nat := do
  if s = [] ∨ (s.head? = some '0' ∧ s ≠ ['0']) then none
  else (inBase? 10 s).filter (· < 256)

/-- A group of a long address. -/
def group? (s : List Char) : Option Nat :=
  if s = [] ∨ 4 < s.length then none else inBase? 16 s

/-- The last groups of a long address: one, or two written as four bytes. -/
def lastGroups? (s : List Char) : Option (List Nat) :=
  match pieces '.' s with
  | [_] => (group? s).map ([·])
  | bytes => do
    match ← bytes.mapM byte? with
    | [a, b, c, d] => some [256 * a + b, 256 * c + d]
    | _ => none

/-- Groups with colons between them. With `last` they end a long address. -/
def groups? (last : Bool) (s : List Char) : Option (List Nat) :=
  if s = [] then some []
  else
    let all := pieces ':' s
    if last then do
      let front ← all.dropLast.mapM group?
      let back ← lastGroups? (all.getLast?.getD [])
      return front ++ back
    else all.mapM group?

/-- The eight groups of a long address. -/
def long? (s : List Char) : Option (List Nat) :=
  match before? [':', ':'] s with
  | none => (groups? true s).filter fun gs => gs.length = 8
  | some front => do
    let head ← groups? false front
    let tail ← groups? true (s.drop (front.length + 2))
    if head.length + tail.length ≤ 7 then
      return head ++ List.replicate (8 - head.length - tail.length) 0 ++ tail
    else none

end ComplexityLint.Uri.Address
