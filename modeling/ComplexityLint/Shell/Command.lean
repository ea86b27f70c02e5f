import ComplexityLint.Shell.Word

/-!
Commands of a shell script, and how they are read from its tokens.
-/

namespace ComplexityLint.Shell

/-- Where a file number is to lead. -/
structure Redirection where
  fd : Nat
  sign : String
  target : Word
deriving DecidableEq

/-- A command. -/
inductive Command
  | nothing
  | simple (line : Nat) (words : List Word) (redirections : List Redirection)
  | sequence (first second : Command)
  | onSuccess (first second : Command)
  | onFailure (first second : Command)
  | negated (c : Command)
  | piped (first second : Command)
  | branch (condition yes no : Command)
  /-- Repeats the body as long as the condition ends as wanted. -/
  | loop (wanted : Bool) (condition body : Command)
  /-- Runs the body for each word, or for each argument of the script. -/
  | each (name : List Char) (words : Option (List Word)) (body : Command)
  /-- Runs the body if one of the patterns stands for the subject, else what is left. -/
  | choice (subject : Word) (patterns : List Word) (body rest : Command)
  | directed (line : Nat) (c : Command) (redirections : List Redirection)
  /-- Runs a command whose effects on the shell itself are forgotten. -/
  | apart (c : Command)
  /-- Makes a command that scripts can call by a name. -/
  | define (name : List Char) (body : Command)

/-- Whether there is nothing to do. -/
def Command.isNothing : Command → Bool
  | nothing => true
  | _ => false

/-- The text of a word without quotes and parameters. -/
def plain? (w : Word) : Option (List Char) :=
  w.foldr
    (fun p s => match p, s with
      | .text t false, some s => some (t ++ s)
      | _, _ => none)
    (some [])

/-- Whether a script goes on with a reserved word. -/
def atWord (w : String) (ts : List Lexeme) : Bool :=
  match ts with
  | ⟨_, .word v⟩ :: _ => plain? v = some w.toList
  | _ => false

/-- Whether a script goes on with a mark. -/
def atMark (m : String) (ts : List Lexeme) : Bool :=
  match ts with
  | ⟨_, .mark k⟩ :: _ => k = m
  | _ => false

/-- What comes behind a reserved word that has to be there. -/
def afterWord? (w : String) (ts : List Lexeme) : Option (List Lexeme) :=
  if atWord w ts then some (ts.drop 1) else none

/-- What comes behind a mark that has to be there. -/
def afterMark? (m : String) (ts : List Lexeme) : Option (List Lexeme) :=
  if atMark m ts then some (ts.drop 1) else none

/-- Skips the ends of lines. -/
def skipLines (ts : List Lexeme) : List Lexeme := ts.dropWhile fun t => t.token = .mark "\n"

/-- Skips what separates commands. -/
def skipSeparators (ts : List Lexeme) : List Lexeme :=
  ts.dropWhile fun t => [Token.mark "\n", .mark ";", .mark "&"].contains t.token

/-- Whether a list of commands is at its end. -/
def atEnd (ts : List Lexeme) : Bool :=
  ts.isEmpty || atMark ")" ts || atMark ";;" ts
    || ["then", "do", "done", "fi", "else", "elif", "\x7d", "esac"].any fun w => atWord w ts

/-- The words and redirections at the front. -/
def wordsOf : List Lexeme → List Word × List Redirection × List Lexeme
  | ⟨_, .word w⟩ :: ts => let (ws, rs, rest) := wordsOf ts; (w :: ws, rs, rest)
  | ⟨_, .redirect fd sign⟩ :: ⟨_, .word w⟩ :: ts =>
    let (ws, rs, rest) := wordsOf ts
    (ws, ⟨fd, sign, w⟩ :: rs, rest)
  | ts => ([], [], ts)

/-- Puts redirections around a command. -/
def redirected (line : Nat) (c : Command) (ts : List Lexeme) : Command × List Lexeme :=
  match wordsOf ts with
  | ([], r :: rs, rest) => (.directed line c (r :: rs), rest)
  | _ => (c, ts)

/-- The patterns at the front, with bars between them. -/
def patternsOf : List Lexeme → List Word × List Lexeme
  | ⟨_, .word w⟩ :: ⟨_, .mark "|"⟩ :: ts => let (ws, rest) := patternsOf ts; (w :: ws, rest)
  | ⟨_, .word w⟩ :: ts => ([w], ts)
  | ts => ([], ts)

mutual

/-- Reads commands up to the end of their list. -/
def commands? : Nat → List Lexeme → Option (Command × List Lexeme)
  | 0, _ => none
  | n + 1, ts =>
    let ts := skipSeparators ts
    if atEnd ts then some (.nothing, ts)
    else do
      let (first, ts) ← chain? n ts
      if skipSeparators ts |>.isEmpty then return (first, [])
      if !atEnd ts && (skipSeparators ts).length = ts.length then none
      let (second, ts) ← commands? n ts
      return (.sequence first second, ts)

/-- Reads commands that are joined by `&&` and `||`. -/
def chain? : Nat → List Lexeme → Option (Command × List Lexeme)
  | 0, _ => none
  | n + 1, ts => do
    let (first, ts) ← pipeline? n ts
    links? n first ts

/-- Reads what is joined to a command by `&&` and `||`. -/
def links? : Nat → Command → List Lexeme → Option (Command × List Lexeme)
  | 0, _, _ => none
  | n + 1, first, ts =>
    if atMark "&&" ts then do
      let (second, ts) ← pipeline? n (skipLines (ts.drop 1))
      links? n (.onSuccess first second) ts
    else if atMark "||" ts then do
      let (second, ts) ← pipeline? n (skipLines (ts.drop 1))
      links? n (.onFailure first second) ts
    else some (first, ts)

/-- Reads commands that are joined by pipes. -/
def pipeline? : Nat → List Lexeme → Option (Command × List Lexeme)
  | 0, _ => none
  | n + 1, ts =>
    if atWord "!" ts then do
      let (c, ts) ← pipeline? n (ts.drop 1)
      return (.negated c, ts)
    else do
      let (first, ts) ← command? n ts
      if atMark "|" ts then
        let (second, ts) ← pipeline? n (skipLines (ts.drop 1))
        return (.piped first second, ts)
      else return (first, ts)

/-- Reads one command. -/
def command? : Nat → List Lexeme → Option (Command × List Lexeme)
  | 0, _ => none
  | _ + 1, [] => none
  | n + 1, t :: ts => do
    if atMark "(" (t :: ts) then
      let (c, ts) ← commands? n ts
      return redirected t.line (.apart c) (← afterMark? ")" ts)
    else if atWord "\x7b" (t :: ts) then
      let (c, ts) ← commands? n ts
      return redirected t.line c (← afterWord? "\x7d" ts)
    else if atWord "if" (t :: ts) then
      let (c, ts) ← branch? n ts
      return redirected t.line c ts
    else if atWord "while" (t :: ts) || atWord "until" (t :: ts) then
      let (condition, ts) ← commands? n ts
      let (body, ts) ← commands? n (← afterWord? "do" ts)
      return redirected t.line (.loop (atWord "while" [t]) condition body)
        (← afterWord? "done" ts)
    else if atWord "for" (t :: ts) then
      match wordsOf ts with
      | (name :: rest, [], ts) =>
        let list ← match rest with
          | [] => some none
          | first :: ws => if plain? first = some "in".toList then some (some ws) else none
        let (body, ts) ← commands? n (← afterWord? "do" (skipSeparators ts))
        return redirected t.line (.each (← plain? name) list body) (← afterWord? "done" ts)
      | _ => none
    else if atWord "case" (t :: ts) then
      match ts with
      | ⟨_, .word subject⟩ :: ts =>
        let (c, ts) ← choice? n subject (← afterWord? "in" (skipSeparators ts))
        return redirected t.line c ts
      | _ => none
    else match t.token, ts with
    | .word name, ⟨_, .mark "("⟩ :: ⟨_, .mark ")"⟩ :: ts =>
      let (body, ts) ← command? n (skipLines ts)
      return (.define (← plain? name) body, ts)
    | _, _ => match wordsOf (t :: ts) with
      | ([], [], _) => none
      | (ws, rs, rest) => return (.simple t.line ws rs, rest)

/-- Reads the branches of a choice, up to and with `esac`. -/
def choice? : Nat → Word → List Lexeme → Option (Command × List Lexeme)
  | 0, _, _ => none
  | n + 1, subject, ts => do
    let ts := skipSeparators ts
    if atWord "esac" ts then return (.nothing, ts.drop 1)
    let (patterns, ts) := patternsOf (if atMark "(" ts then ts.drop 1 else ts)
    let (body, ts) ← commands? n (← afterMark? ")" ts)
    let ts := if atMark ";;" ts then ts.drop 1 else ts
    let (rest, ts) ← choice? n subject ts
    return (.choice subject patterns body rest, ts)

/-- Reads what comes behind `if` or `elif`, up to and with `fi`. -/
def branch? : Nat → List Lexeme → Option (Command × List Lexeme)
  | 0, _ => none
  | n + 1, ts => do
    let (condition, ts) ← commands? n ts
    let (yes, ts) ← commands? n (← afterWord? "then" ts)
    if atWord "elif" ts then
      let (no, ts) ← branch? n (ts.drop 1)
      return (.branch condition yes no, ts)
    else if atWord "else" ts then
      let (no, ts) ← commands? n (ts.drop 1)
      return (.branch condition yes no, ← afterWord? "fi" ts)
    else return (.branch condition yes .nothing, ← afterWord? "fi" ts)

end

/-- Reads a whole script. -/
def script? (text : List Char) : Option Command :=
  let ts := tokens text
  match commands? (4 * ts.length + 4) ts with
  | some (c, []) => some c
  | _ => none

end ComplexityLint.Shell
