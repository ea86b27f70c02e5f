/-!
The values of a TOML document. Floats and date-times are kept as written: nothing reads them.
-/

namespace ComplexityLint.Toml

/-- A typed value. -/
inductive Value
  | string (s : String)
  | integer (i : Int)
  | float (text : String)
  | boolean (b : Bool)
  | datetime (text : String)
  | array (items : List Value)
  | table (members : List (String × Value))

/-- The keys of a table with their values. -/
abbrev Table := List (String × Value)

/-- The value under a key. -/
def Table.get? (t : Table) (key : String) : Option Value := List.lookup key t

end ComplexityLint.Toml
