/-!
Patterns of the shell: a star stands for any text, a question mark for any character, and brackets
for a character of a set. They select branches, are cut off the ends of values, and name files. A
letter that stands in quotes stands for itself.
-/

namespace ComplexityLint.Shell

/-- A letter, and whether it stands in quotes. -/
structure Letter where
  char : Char
  quoted : Bool
deriving DecidableEq

/-- Letters side by side: a value, or a pattern for values. -/
abbrev Field := List Letter

/-- The letters of a value. -/
def letters (quoted : Bool) (v : String) : Field := v.toList.map fun c => ⟨c, quoted⟩

/-- What letters spell. -/
def Field.chars (f : Field) : List Char := f.map Letter.char

/-- What letters spell. -/
def Field.text (f : Field) : String := String.ofList f.chars

/-- What a place of a pattern stands for. -/
inductive Wild
  | anyText
  | self (c : Char)
  /-- A character inside of some ranges, or outside of all of them. -/
  | oneOf (inside : Bool) (ranges : List (Char × Char))
deriving DecidableEq

namespace Wild

/-- Whether it stands for a character. -/
def covers (w : Wild) (c : Char) : Bool :=
  match w with
  | anyText => true
  | self d => c = d
  | oneOf inside ranges => ranges.any (fun r => r.1 ≤ c && c ≤ r.2) = inside

/-- Whether it stands for itself only. -/
def isSelf : Wild → Bool
  | self _ => true
  | _ => false

end Wild

/-- The ranges of a set and what comes behind its closing bracket, if there is one. The first
letter belongs to the set, whatever it is. -/
def ranges? (started : Bool) (p : Field) : Option (List (Char × Char) × Field) :=
  match p with
  | [] => none
  | a :: p =>
    if started && a = ⟨']', false⟩ then some ([], p)
    else
      let high := if p.head? = some ⟨'-', false⟩ then p[1]?.filter (· ≠ ⟨']', false⟩) else none
      let rest := if high.isSome then p.drop 2 else p
      (ranges? true rest).map fun (rs, rest) => ((a.char, (high.getD a).char) :: rs, rest)
termination_by p.length
decreasing_by grind

/-- The set behind an opening bracket. A mark of exclamation in front asks for what is outside. -/
def set? (p : Field) : Option (Wild × Field) :=
  if p.head? = some ⟨'!', false⟩ then
    (ranges? false (p.drop 1)).map fun (rs, rest) => (.oneOf false rs, rest)
  else (ranges? false p).map fun (rs, rest) => (.oneOf true rs, rest)

/-- Reads a pattern, letter by letter. The fuel is the number of letters. -/
def wildsFrom : Nat → Field → List Wild
  | n + 1, ⟨c, quoted⟩ :: p =>
    if quoted then .self c :: wildsFrom n p
    else if c = '*' then .anyText :: wildsFrom n p
    else if c = '?' then .oneOf false [] :: wildsFrom n p
    else if c = '[' then
      match set? p with
      | some (w, rest) => w :: wildsFrom n rest
      | none => .self c :: wildsFrom n p
    else .self c :: wildsFrom n p
  | _, _ => []

/-- Reads a pattern. -/
def wilds (p : Field) : List Wild := wildsFrom p.length p

/-- Whether a text is one that a pattern stands for. -/
def covers : List Wild → List Char → Bool
  | [], s => s = []
  | .anyText :: p, s => (List.range (s.length + 1)).any fun n => covers p (s.drop n)
  | w :: p, c :: s => w.covers c && covers p s
  | _ :: _, [] => false

/-- A text without the shortest or the longest start that a pattern stands for. -/
def withoutStart (long : Bool) (p : List Wild) (s : List Char) : List Char :=
  let cuts := (List.range (s.length + 1)).filter fun n => covers p (s.take n)
  s.drop ((if long then cuts.getLast? else cuts.head?).getD 0)

/-- A text without the shortest or the longest end that a pattern stands for. -/
def withoutEnd (long : Bool) (p : List Wild) (s : List Char) : List Char :=
  let cuts := (List.range (s.length + 1)).filter fun n => covers p (s.drop n)
  s.take ((if long then cuts.head? else cuts.getLast?).getD s.length)

end ComplexityLint.Shell
