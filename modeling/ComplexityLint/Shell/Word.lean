import ComplexityLint.Text.Digit
import ComplexityLint.Text.Pieces

/-!
The words and marks of a shell script. A word is a row of parts: text, the value of a parameter, the
output of an inner script, or a sum, each inside quotes or not.
-/

namespace ComplexityLint.Shell

/-- A part of a word. -/
inductive Part
  | text (s : List Char) (quoted : Bool)
  | value (parameter : List Char) (quoted : Bool)
  | output (script : List Char) (quoted : Bool)
  | sum (text : List Char) (quoted : Bool)
deriving DecidableEq

/-- A word, part by part. -/
abbrev Word := List Part

/-- What a script is made of. -/
inductive Token
  | word (w : Word)
  /-- A separator, an operator or the end of a line. -/
  | mark (s : String)
  /-- The sign in front of a redirection's target. -/
  | redirect (fd : Nat) (sign : String)
deriving DecidableEq

/-- A token and the line that it stands in, counted from one. -/
structure Lexeme where
  line : Nat
  token : Token

/-- Whether a name can start with a character. -/
def startsName (c : Char) : Bool := c.isAlpha || c = '_'

/-- Whether a name can go on with a character. -/
def continuesName (c : Char) : Bool := c.isAlphanum || c = '_'

/-- What ends a word outside quotes. -/
def endsWord (c : Char) : Bool := [' ', '\t', '\n', ';', '&', '|', '(', ')', '<', '>'].contains c

/-- Cuts at the first character that is wanted, which is dropped, unless a backslash stands before
it. -/
def cutAt (stop : Char) : List Char → List Char × List Char
  | [] => ([], [])
  | '\\' :: c :: s => let (inner, rest) := cutAt stop s; ('\\' :: c :: inner, rest)
  | c :: s => if c = stop then ([], s) else let (inner, rest) := cutAt stop s; (c :: inner, rest)

/-- Cuts at the bracket that closes `depth` open ones and drops it. Brackets in quotes do not
count. -/
def cutAtClosing (opening closing : Char) : Nat → Option Char → List Char → List Char × List Char
  | _, _, [] => ([], [])
  | depth, quote, '\\' :: c :: s =>
    let (inner, rest) := cutAtClosing opening closing depth quote s
    ('\\' :: c :: inner, rest)
  | depth, quote, c :: s =>
    let go (depth : Nat) (quote : Option Char) : List Char × List Char :=
      let (inner, rest) := cutAtClosing opening closing depth quote s
      (c :: inner, rest)
    match quote with
    | some q => go depth (if c = q then none else quote)
    | none =>
      if c = '\'' ∨ c = '"' then go depth (some c)
      else if c = opening then go (depth + 1) none
      else if c = closing then if depth ≤ 1 then ([], s) else go (depth - 1) none
      else go depth none

/-- What stands behind a dollar sign. -/
def parameter (quoted : Bool) (s : List Char) : Part × List Char :=
  match s with
  | '(' :: s =>
    let (inner, rest) := cutAtClosing '(' ')' 1 none s
    if inner.head? = some '(' && inner.getLast? = some ')' then
      (.sum (inner.drop 1).dropLast quoted, rest)
    else (.output inner quoted, rest)
  | '{' :: s => let (name, rest) := cutAtClosing '{' '}' 1 none s; (.value name quoted, rest)
  | c :: s =>
    if startsName c then
      (.value (c :: s.takeWhile continuesName) quoted, s.dropWhile continuesName)
    else if c.isDigit || ['@', '*', '#', '?', '$', '!', '-'].contains c then (.value [c] quoted, s)
    else (.text ['$'] quoted, c :: s)
  | [] => (.text ['$'] quoted, [])

/-- Reads a word, or the rest of one. The fuel is more than the length of the text. -/
def word : Nat → Bool → List Char → Word × List Char
  | 0, _, s => ([], s)
  | n + 1, quoted, s =>
    let next (p : Part) (s : List Char) : Word × List Char :=
      let (parts, rest) := word n quoted s
      (p :: parts, rest)
    match s with
    | [] => ([], [])
    | '$' :: s => let (p, rest) := parameter quoted s; next p rest
    | '\x60' :: s => let (script, rest) := cutAt '\x60' s; next (.output script quoted) rest
    | '\\' :: '\n' :: s => word n quoted s
    | '"' :: s => let (parts, rest) := word n (!quoted) s; (.text [] true :: parts, rest)
    | '\\' :: c :: s =>
      if quoted && !(['$', '\x60', '"', '\\'].contains c) then next (.text ['\\', c] true) s
      else next (.text [c] true) s
    | c :: s =>
      if quoted then next (.text [c] true) s
      else if c = '\'' then
        next (.text (s.takeWhile (· ≠ '\'')) true) ((s.dropWhile (· ≠ '\'')).drop 1)
      else if endsWord c then ([], c :: s)
      else next (.text [c] false) s

/-- Reads a whole text as a word, with what ends words elsewhere as text. -/
def operand (quoted : Bool) (s : List Char) : Word := go (s.length + 1) s
where
  /-- The fuel is more than the length of the text. -/
  go : Nat → List Char → Word
    | 0, _ => []
    | n + 1, s =>
      let (parts, rest) := word (s.length + 1) quoted s
      match rest with
      | [] => parts
      | c :: rest => parts ++ .text [c] quoted :: go n rest

/-- The operators, longer ones first. -/
def marks : List String := [";;", "&&", "||", ";", "&", "|", "(", ")", "\n"]

/-- The signs of redirections, longer ones first. -/
def signs : List String := [">>", ">&", "<&", ">|", "<<-", "<<", "<", ">"]

/-- The first of some texts that a script starts with, and what comes behind it. -/
def leading? (ws : List String) (s : List Char) : Option (String × List Char) :=
  (ws.find? fun w => w.toList.isPrefixOf s).map fun w => (w, s.drop w.length)

/-- A redirection at the front: its file number if one is written, and its sign. -/
def redirection? (s : List Char) : Option (Token × List Char) :=
  let digits := s.takeWhile Char.isDigit
  (leading? signs (s.dropWhile Char.isDigit)).map fun (sign, rest) =>
    let usual := if sign.toList.head? = some '<' then 0 else 1
    let fd := if digits = [] then usual else Text.decimal digits
    (.redirect fd sign, rest)

/-- Splits off the lines in front of the one that holds only `stop`. -/
def linesBefore (strip : Bool) (stop : List Char) : List (List Char) →
    List (List Char) × List (List Char)
  | [] => ([], [])
  | l :: ls =>
    let l := if strip then l.dropWhile (· = '\t') else l
    if l = stop then ([], ls)
    else let (body, rest) := linesBefore strip stop ls; (l :: body, rest)

/-- An input that stands in the script itself, up to the line that the text names: its text, and the
rest of the script without it. Quotes in the name say that the text is taken as it is. -/
def inlineInput (strip : Bool) (s : List Char) : Word × List Char :=
  let s := s.dropWhile (· = ' ')
  let name := s.takeWhile (!endsWord ·)
  let isQuote (c : Char) : Bool := c = '\'' || c = '"' || c = '\\'
  let line := (s.dropWhile (!endsWord ·)).takeWhile (· ≠ '\n')
  let below := (s.dropWhile (· ≠ '\n')).drop 1
  let (body, rest) := linesBefore strip (name.filter (!isQuote ·)) (Text.pieces '\n' below)
  let text := body.flatMap (· ++ ['\n'])
  let input : Word :=
    if name.any isQuote then [.text text true]
    else
      let text := text.flatMap fun c => if c = '"' then ['\\', '"'] else [c]
      .text [] true :: (word (text.length + 1) true text).1
  (input, line ++ '\n' :: ['\n'].intercalate rest)

/-- The tokens of a script. The fuel is more than the length of the text. -/
def lexemes : Nat → Nat → List Char → List Lexeme
  | 0, _, _ => []
  | _, _, [] => []
  | n + 1, line, c :: s =>
    if c = ' ' ∨ c = '\t' then lexemes n line s
    else if c = '#' then lexemes n line (s.dropWhile (· ≠ '\n'))
    else if c = '\\' ∧ s.head? = some '\n' then lexemes n (line + 1) (s.drop 1)
    else match redirection? (c :: s) with
      | some (.redirect fd "<<", rest) =>
        let (input, rest) := inlineInput false rest
        ⟨line, .redirect fd "<<"⟩ :: ⟨line, .word input⟩ :: lexemes n line rest
      | some (.redirect fd "<<-", rest) =>
        let (input, rest) := inlineInput true rest
        ⟨line, .redirect fd "<<"⟩ :: ⟨line, .word input⟩ :: lexemes n line rest
      | some (t, rest) => ⟨line, t⟩ :: lexemes n line rest
      | none =>
        match leading? marks (c :: s) with
        | some (m, rest) =>
          ⟨line, .mark m⟩ :: lexemes n (if m = "\n" then line + 1 else line) rest
        | none =>
          let (w, rest) := word (s.length + 2) false (c :: s)
          let read := (c :: s).take (s.length + 1 - rest.length)
          ⟨line, .word w⟩ :: lexemes n (line + read.count '\n') rest

/-- The tokens of a script. -/
def tokens (script : List Char) : List Lexeme := lexemes (script.length + 1) 1 script

end ComplexityLint.Shell
