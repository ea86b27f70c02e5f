import ComplexityLint.Shell.Word
import ComplexityLint.Text.Reader

/-!
Sums of the shell: whole numbers and parameters with the usual operators, which bind in the usual
order. Comparisons give one or zero.
-/

namespace ComplexityLint.Shell

open Text (Reader)

/-- The operators of a level, the tightest level first. -/
def operators : Nat → List String
  | 1 => ["*", "/", "%"]
  | 2 => ["+", "-"]
  | 3 => ["<=", ">=", "<", ">"]
  | 4 => ["==", "!="]
  | _ => []

/-- Applies an operator. Nothing can be divided by zero. -/
def outcome? (op : String) (a b : Int) : Option Int :=
  let truth (t : Bool) : Option Int := some (if t then 1 else 0)
  match op with
  | "*" => some (a * b)
  | "/" => if b = 0 then none else some (a.tdiv b)
  | "%" => if b = 0 then none else some (a.tmod b)
  | "+" => some (a + b)
  | "-" => some (a - b)
  | "<=" => truth (a ≤ b)
  | ">=" => truth (b ≤ a)
  | "<" => truth (a < b)
  | ">" => truth (b < a)
  | "==" => truth (a = b)
  | "!=" => truth (a ≠ b)
  | _ => none

/-- Drops the blanks in front. -/
def skipBlanks (s : List Char) : List Char := s.dropWhile fun c => c = ' ' || c = '\t' || c = '\n'

/-- Reads a number or a parameter. -/
def operand? (value : List Char → Int) : Reader Int := fun s =>
  match s with
  | '$' :: '{' :: s => let (name, rest) := cutAt '}' s; some (value name, rest)
  | '$' :: '#' :: s => some (value ['#'], s)
  | _ =>
    let dollar := s.head? = some '$'
    let s := if dollar then s.drop 1 else s
    match s with
    | [] => none
    | c :: rest =>
      if c.isDigit && dollar then some (value [c], rest)
      else if c.isDigit then
        let digits := s.takeWhile Char.isDigit
        some (Text.decimal digits, s.dropWhile Char.isDigit)
      else if startsName c then some (value (s.takeWhile continuesName), s.dropWhile continuesName)
      else none

mutual

/-- Reads a sum whose operators are of a level or of a tighter one. -/
def sumUpTo (value : List Char → Int) : Nat → Nat → Reader Int
  | 0, _, _ => none
  | fuel + 1, 0, s =>
    match skipBlanks s with
    | '(' :: s => do
      let (a, s) ← sumUpTo value fuel 4 s
      match skipBlanks s with
      | ')' :: s => return (a, s)
      | _ => none
    | '-' :: s => (sumUpTo value fuel 0 s).map fun (a, s) => (-a, s)
    | '+' :: s => sumUpTo value fuel 0 s
    | s => operand? value s
  | fuel + 1, level + 1, s => do
    let (a, s) ← sumUpTo value fuel level s
    sumRest value fuel level a s

/-- Reads the rest of a sum behind its first operand. -/
def sumRest (value : List Char → Int) : Nat → Nat → Int → Reader Int
  | 0, _, _, _ => none
  | fuel + 1, level, a, s =>
    match leading? (operators (level + 1)) (skipBlanks s) with
    | none => some (a, s)
    | some (op, s) => do
      let (b, s) ← sumUpTo value fuel level s
      sumRest value fuel level (← outcome? op a b) s

end

/-- What a sum comes to, if it can be read. -/
def sum? (value : List Char → Int) (s : List Char) : Option Int :=
  match sumUpTo value (8 * s.length + 8) 4 s with
  | some (a, rest) => if skipBlanks rest = [] then some a else none
  | none => none

end ComplexityLint.Shell
