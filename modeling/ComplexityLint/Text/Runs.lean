/-!
Properties of code points, written as runs. A property is a row of words: a word is a class and a
length, both in base 36, with a point between them, and says that so many code points are of the
class, from where the word before ended. No class is class zero, and so is what comes behind the
last run.
-/

namespace ComplexityLint.Text

/-- The words of a text, with blanks or ends of lines between them. -/
def words (s : String) : List (List Char) :=
  (s.toList.foldr
    (fun c ws => if c = ' ' ∨ c = '\n' then [] :: ws else match ws with
      | [] => [[c]]
      | w :: ws => (c :: w) :: ws)
    [[]]).filter (· ≠ [])

/-- The value of a digit in base 36. -/
def digit36 (c : Char) : Nat := if c.isDigit then c.toNat - 48 else c.toNat - 87

/-- The number that a text writes in base 36. -/
def base36 (s : List Char) : Nat := s.foldl (fun n c => 36 * n + digit36 c) 0

/-- A property, run by run: classes and lengths. -/
abbrev Runs := List (Nat × Nat)

/-- Reads a property. -/
def runsOf (s : String) : Runs :=
  (words s).map fun w =>
    (base36 (w.takeWhile (· ≠ '.')), base36 ((w.dropWhile (· ≠ '.')).drop 1))

/-- The class of a code point. -/
def Runs.classOf : Runs → Nat → Nat
  | [], _ => 0
  | (k, length) :: rs, n => if n < length then k else Runs.classOf rs (n - length)

end ComplexityLint.Text
