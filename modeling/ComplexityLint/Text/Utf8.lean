/-!
UTF-8: the bytes of a text, and bytes read as a text with a substitute. The longest start of a
character that goes wrong, and each byte that starts none, stands as one U+FFFD.
-/

namespace ComplexityLint.Text

/-- The bytes of a character. -/
def charBytes (c : Char) : List UInt8 := (String.singleton c).toUTF8.data.toList

/-- The bytes of a text. -/
def bytesOf (s : List Char) : List UInt8 := s.flatMap charBytes

/-- The ranges of the bytes that follow a lead byte. -/
def tails? (b : UInt8) : Option (List (UInt8 × UInt8)) :=
  let any : UInt8 × UInt8 := (0x80, 0xBF)
  if b < 0x80 then some []
  else if b < 0xC2 then none
  else if b < 0xE0 then some [any]
  else if b = 0xE0 then some [(0xA0, 0xBF), any]
  else if b = 0xED then some [(0x80, 0x9F), any]
  else if b < 0xF0 then some [any, any]
  else if b = 0xF0 then some [(0x90, 0xBF), any, any]
  else if b < 0xF4 then some [any, any, any]
  else if b = 0xF4 then some [(0x80, 0x8F), any, any]
  else none

/-- How many bytes at the front lie in their ranges. -/
def fitting : List (UInt8 × UInt8) → List UInt8 → Nat
  | (lo, hi) :: ranges, b :: bytes => if lo ≤ b && b ≤ hi then fitting ranges bytes + 1 else 0
  | _, _ => 0

/-- The character that a lead byte and its tail encode. -/
def assembled (lead : UInt8) (tail : List UInt8) : Char :=
  let start := match tail.length with
    | 0 => lead.toNat
    | 1 => lead.toNat % 32
    | 2 => lead.toNat % 16
    | _ => lead.toNat % 8
  Char.ofNat (tail.foldl (fun n b => 64 * n + b.toNat % 64) start)

/-- Reads bytes as characters. -/
def decodeLossy : List UInt8 → List Char
  | [] => []
  | b :: bytes =>
    match tails? b with
    | none => '\uFFFD' :: decodeLossy bytes
    | some ranges =>
      let n := fitting ranges bytes
      let c := if n = ranges.length then assembled b (bytes.take n) else '\uFFFD'
      c :: decodeLossy (bytes.drop n)
termination_by bytes => bytes.length
decreasing_by all_goals simp only [List.length_drop, List.length_cons]; omega

end ComplexityLint.Text
