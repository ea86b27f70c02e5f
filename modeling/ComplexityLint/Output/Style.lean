/-!
Text attributes of a terminal. A styled text is an opening sequence, the text and a reset; where
the text itself holds a reset, the style is opened again behind it. Without colours, and without
any attribute, the text stands alone.
-/

namespace ComplexityLint.Output

/-- Colours of the text. -/
inductive Colour
  | red
  | green
  | yellow
  | blue
  | cyan
deriving DecidableEq

/-- The parameter that selects a colour. -/
def Colour.code : Colour → String
  | red => "31"
  | green => "32"
  | yellow => "33"
  | blue => "34"
  | cyan => "36"

/-- Attributes of a text. -/
structure Style where
  bold : Bool := false
  dimmed : Bool := false
  underline : Bool := false
  colour : Option Colour := none
deriving DecidableEq

namespace Style

/-- No attribute. -/
def plain : Style := {}

/-- The parameters of a style, in the order of their numbers, the colour last. -/
def codes (s : Style) : List String :=
  (if s.bold then ["1"] else []) ++ (if s.dimmed then ["2"] else [])
    ++ (if s.underline then ["4"] else []) ++ (s.colour.map Colour.code).toList

/-- The sequence that ends every style. -/
def reset : List Char := ['\x1b', '[', '0', 'm']

/-- The sequence that opens a style. -/
def opening (s : Style) : List Char :=
  '\x1b' :: '[' :: (";".intercalate s.codes).toList ++ ['m']

/-- Opens a style again behind every reset of a text. -/
def reopen (start : List Char) : List Char → List Char
  | '\x1b' :: '[' :: '0' :: 'm' :: s => reset ++ start ++ reopen start s
  | c :: s => c :: reopen start s
  | [] => []

/-- A text in a style, on a terminal with or without colours. -/
def paint (colours : Bool) (s : Style) (text : String) : String :=
  if !colours || s.codes.isEmpty then text
  else String.ofList (s.opening ++ reopen s.opening text.toList ++ reset)

end Style

end ComplexityLint.Output
