import ComplexityLint.Text.Digit
import ComplexityLint.Text.Spelling

/-!
Percent escapes: a byte as a per cent sign and two hexadecimal digits. A per cent sign that no two
such digits follow stands for itself.
-/

namespace ComplexityLint.Uri

open Text

/-- A hexadecimal digit. -/
def upperHex (n : Nat) : Char := if n < 10 then Char.ofNat (48 + n) else Char.ofNat (55 + n)

/-- The bytes that a text with escapes stands for. -/
def decodeBytes : List Char → List UInt8
  | '%' :: a :: b :: s =>
    match hexValue? a, hexValue? b with
    | some m, some n => UInt8.ofNat (16 * m + n) :: decodeBytes s
    | _, _ => 37 :: decodeBytes (a :: b :: s)
  | c :: s => charBytes c ++ decodeBytes s
  | [] => []

/-- The spelling of the bytes that a text with escapes stands for. -/
def decode (s : List Char) : List Char := spell (decodeBytes s)

/-- The escape of a byte. -/
def escape (b : UInt8) : List Char := ['%', upperHex (b.toNat / 16), upperHex (b.toNat % 16)]

/-- Whether a character cannot stand in a segment of a path as it is. -/
def isReserved (c : Char) : Bool :=
  c.toNat < 33 || 126 < c.toNat
    || ['"', '#', '%', '/', '<', '>', '?', '\\', '\x60', '\x7b', '\x7d'].contains c

/-- The spelling of a segment of a path as a text with escapes where they are needed. -/
def encode (s : List Char) : List Char :=
  s.flatMap fun c => if isReserved c then (letterBytes c).flatMap escape else [c]

end ComplexityLint.Uri
