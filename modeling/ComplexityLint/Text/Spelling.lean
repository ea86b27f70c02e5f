import ComplexityLint.Text.Utf8

/-!
Spellings: any bytes written as a text. A character stands for its encoding; a byte that belongs to
no character is spelt by one of the last 128 code points. The encodings of those code points are
spelt byte by byte as well, so every row of bytes has one spelling. A text without those code points
is its own spelling and is shown as it is.
-/

namespace ComplexityLint.Text

/-- Whether a character spells a single byte. -/
def isByte (c : Char) : Bool := 0x10FF80 ≤ c.toNat

/-- The spelling of a byte that belongs to no character. -/
def byteLetter (b : UInt8) : Char := Char.ofNat (0x10FF00 + b.toNat)

/-- The bytes that a letter of a spelling stands for. -/
def letterBytes (c : Char) : List UInt8 :=
  if isByte c then [UInt8.ofNat (c.toNat - 0x10FF00)] else charBytes c

/-- The bytes that a spelling stands for. -/
def spelledBytes (s : List Char) : List UInt8 := s.flatMap letterBytes

/-- The number of those bytes. -/
def spelledSize (s : String) : Nat := s.utf8ByteSize - 3 * s.toList.countP isByte

/-- The spelling of some bytes. -/
def spell : List UInt8 → List Char
  | [] => []
  | b :: bytes =>
    match tails? b with
    | none => byteLetter b :: spell bytes
    | some ranges =>
      let n := fitting ranges bytes
      if n = ranges.length then
        let c := assembled b (bytes.take n)
        (if isByte c then (charBytes c).map byteLetter else [c]) ++ spell (bytes.drop n)
      else byteLetter b :: spell bytes
termination_by bytes => bytes.length
decreasing_by all_goals simp only [List.length_drop, List.length_cons]; omega

/-- The spelling of a text. -/
def spelling (s : String) : String :=
  if s.toList.any isByte then String.ofList (spell (bytesOf s.toList)) else s

/-- A spelling as it is shown: each run of bytes that is no start of a character, and each start
that goes wrong, as one substitute. -/
def shown (s : String) : String :=
  if s.toList.any isByte then String.ofList (decodeLossy (spelledBytes s.toList)) else s

theorem spelling_eq_self {s : String} (h : s.toList.any isByte = false) : spelling s = s := by
  simp [spelling, h]

theorem shown_eq_self {s : String} (h : s.toList.any isByte = false) : shown s = s := by
  simp [shown, h]

end ComplexityLint.Text
