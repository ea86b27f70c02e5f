/-!
Cutting a text at every occurrence of a character, and at the first occurrence of a word.
-/

namespace ComplexityLint.Text

/-- Cuts a text at every `sep`: one piece more than there are separators. -/
def pieces (sep : Char) : List Char → List (List Char)
  | [] => [[]]
  | c :: s =>
    if c = sep then [] :: pieces sep s
    else match pieces sep s with
      | [] => [[c]]
      | p :: ps => (c :: p) :: ps

/-- What stands before the first occurrence of `word`, if there is one. -/
def before? (word : List Char) : List Char → Option (List Char)
  | [] => if word = [] then some [] else none
  | c :: s => if word.isPrefixOf (c :: s) then some [] else (before? word s).map (c :: ·)

end ComplexityLint.Text
