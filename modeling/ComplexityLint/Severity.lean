/-!
How grave a diagnostic is. Every violation is a warning; the other two grades serve filters.
-/

namespace ComplexityLint

/-- The grades, from the mildest to the gravest. -/
inductive Severity
  | info
  | warning
  | error
deriving DecidableEq

namespace Severity

/-- The place of a grade in the order. -/
def rank : Severity → Nat
  | info => 0
  | warning => 1
  | error => 2

instance : LE Severity := ⟨fun a b => a.rank ≤ b.rank⟩

instance (a b : Severity) : Decidable (a ≤ b) := inferInstanceAs (Decidable (a.rank ≤ b.rank))

/-- All grades. -/
def all : List Severity := [info, warning, error]

/-- The name of a grade. -/
def name : Severity → String
  | info => "info"
  | warning => "warning"
  | error => "error"

/-- Reads the name of a grade, in any case of its letters. Case folding beyond ASCII reaches none of the
names. -/
def parse (s : String) : Except String Severity :=
  match s.toLower with
  | "info" => .ok info
  | "warning" => .ok warning
  | "warn" => .ok warning
  | "error" => .ok error
  | _ => .error ("Unknown severity: " ++ s)

theorem parse_name (s : Severity) : parse s.name = .ok s := by
  have hlower : s.name.toLower = s.name := by cases s <;> decide +kernel
  rw [parse, hlower]
  cases s <;> rfl

end Severity

end ComplexityLint
