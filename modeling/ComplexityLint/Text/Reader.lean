/-!
Readers: functions that take a value off the front of a text.
-/

namespace ComplexityLint.Text

/-- A reader takes a value off the front of a text, or refuses the text. -/
abbrev Reader (α : Type) := List Char → Option (α × List Char)

end ComplexityLint.Text
