import ComplexityLint.Disk.Content
import ComplexityLint.Text.Digit

/-!
Backslash sequences in printed text. An octal sequence stands for one byte, so what is printed need
not be a text.
-/

namespace ComplexityLint.Shell

open Text

/-- What a letter behind a backslash stands for. -/
def escaped? : Char → Option UInt8
  | 'a' => some 7
  | 'b' => some 8
  | 't' => some 9
  | 'n' => some 10
  | 'v' => some 11
  | 'f' => some 12
  | 'r' => some 13
  | '\\' => some 92
  | '"' => some 34
  | _ => none

/-- Whether a character is an octal digit. -/
def isOctal (c : Char) : Bool := '0' ≤ c && c ≤ '7'

/-- The value of octal digits, in one byte. -/
def octal (s : List Char) : UInt8 := UInt8.ofNat (s.foldl (fun n c => 8 * n + (c.toNat - 48)) 0)

/-- The bytes that a text with backslash sequences prints. With `zero`, an octal sequence can have a
leading zero in front of its three digits. -/
def unescape (zero : Bool) (s : List Char) : List UInt8 := go (s.length + 1) s
where
  /-- The fuel is more than the length of the text. -/
  go : Nat → List Char → List UInt8
    | n + 1, '\\' :: c :: s =>
      match escaped? c with
      | some b => b :: go n s
      | none =>
        let s := if zero && c = '0' then s else c :: s
        let digits := (s.takeWhile isOctal).take 3
        if isOctal c then octal digits :: go n (s.drop digits.length)
        else 92 :: letterBytes c ++ go n (s.drop 1)
    | n + 1, c :: s => letterBytes c ++ go n s
    | _, _ => []

/-- A directive of a format: its flag and width, and the letter that says what is printed. -/
structure Directive where
  left : Bool
  zero : Bool
  width : Nat
  letter : Char

/-- Reads what stands behind a per cent sign. -/
def directive? (s : List Char) : Option (Directive × List Char) :=
  let flags := s.takeWhile fun c => c = '-' || c = '0'
  let s := s.dropWhile fun c => c = '-' || c = '0'
  let width := s.takeWhile Char.isDigit
  match s.dropWhile Char.isDigit with
  | [] => none
  | c :: rest =>
    some (⟨flags.contains '-', flags.contains '0',
      decimal width, c⟩, rest)

/-- Prints one argument. -/
def Directive.print (d : Directive) (arg : String) : List UInt8 :=
  let body := match d.letter with
    | 's' => spelledBytes arg.toList
    | 'b' => unescape true arg.toList
    | 'c' => spelledBytes (arg.toList.take 1)
    | _ => spelledBytes (toString (arg.toInt?.getD 0)).toList
  let pad := List.replicate (d.width - body.length) (if d.zero && !d.left then 48 else 32)
  if d.left then body ++ pad else pad ++ body

/-- Prints a format once: the bytes, and the arguments that are left. -/
def printOnce : Nat → List Char → List String → List UInt8 × List String
  | n + 1, '%' :: '%' :: f, args => let (out, left) := printOnce n f args; (37 :: out, left)
  | n + 1, '%' :: f, args =>
    match directive? f with
    | none => ([37], args)
    | some (d, f) =>
      let (out, left) := printOnce n f (args.drop 1)
      (d.print (args.head?.getD "") ++ out, left)
  | n + 1, '\\' :: c :: f, args =>
    let digits := ((c :: f).takeWhile isOctal).take 3
    if digits = [] then
      let (out, left) := printOnce n f args
      (unescape false ['\\', c] ++ out, left)
    else
      let (out, left) := printOnce n ((c :: f).drop digits.length) args
      (octal digits :: out, left)
  | n + 1, c :: f, args => let (out, left) := printOnce n f args; (letterBytes c ++ out, left)
  | _, _, args => ([], args)

/-- Prints a format as often as it takes to use up the arguments. -/
def printAll (format : List Char) (args : List String) : List UInt8 := go (args.length + 1) args
where
  /-- The fuel is more than the number of arguments. -/
  go : Nat → List String → List UInt8
    | 0, _ => []
    | n + 1, args =>
      let (out, left) := printOnce (format.length + 1) format args
      if left = [] ∨ left.length = args.length then out else out ++ go n left

/-- The content of some bytes. -/
def contentOf (bs : List UInt8) : Content := .ofBytes ⟨bs.toArray⟩

end ComplexityLint.Shell
