import ComplexityLint.Report.Record

/-!
The four metrics of a function that can be held to a limit, and a value per metric: limits,
overrides and marks are all of this shape.
-/

namespace ComplexityLint

/-- A number of a function record that can be limited. -/
inductive Metric
  | complexity
  | tokens
  | parameters
  | lines
deriving DecidableEq

namespace Metric

/-- All metrics, in the order in which they are evaluated. -/
def all : List Metric := [parameters, lines, tokens, complexity]

/-- The name in messages and results. -/
def id : Metric → String
  | complexity => "cyclomatic-complexity"
  | tokens => "token-count"
  | parameters => "num-of-parameters"
  | lines => "lines-of-code-without-comments"

/-- The name in configuration documents. -/
def key : Metric → String
  | complexity => "cyclomaticComplexity"
  | tokens => "tokenCount"
  | parameters => "numOfParameters"
  | lines => "linesOfCodeWithoutComments"

/-- The words between the function's name and the observed number in a message. -/
def description : Metric → String
  | complexity => "Cyclomatic complexity of"
  | tokens => "Token count of"
  | parameters => "Number of parameters"
  | lines => "Lines of code without comments"

/-- What a record says about the metric. -/
def observe : Metric → FunctionRecord → UInt32
  | complexity, r => r.complexity
  | tokens, r => r.tokens
  | parameters, r => r.parameters
  | lines, r => r.lines

/-- The metric of that id or key. -/
def ofName? (name : String) : Option Metric := all.find? fun m => m.id = name || m.key = name

end Metric

/-- A value for each metric. -/
structure PerMetric (α : Type) where
  complexity : α
  tokens : α
  parameters : α
  lines : α
deriving DecidableEq

namespace PerMetric

variable {α : Type}

/-- The same value for every metric. -/
def const (a : α) : PerMetric α := ⟨a, a, a, a⟩

/-- The value of a metric. -/
def get (p : PerMetric α) : Metric → α
  | .complexity => p.complexity
  | .tokens => p.tokens
  | .parameters => p.parameters
  | .lines => p.lines

/-- Replaces the value of a metric. -/
def set (p : PerMetric α) (m : Metric) (a : α) : PerMetric α :=
  match m with
  | .complexity => { p with complexity := a }
  | .tokens => { p with tokens := a }
  | .parameters => { p with parameters := a }
  | .lines => { p with lines := a }

@[simp] theorem get_const (a : α) (m : Metric) : (const a).get m = a := by cases m <;> rfl

@[simp] theorem get_set_self (p : PerMetric α) (m : Metric) (a : α) : (p.set m a).get m = a := by
  cases m <;> rfl

@[simp] theorem get_set_of_ne (p : PerMetric α) {m k : Metric} (a : α) (h : k ≠ m) :
    (p.set m a).get k = p.get k := by
  cases m <;> cases k <;> first | rfl | exact absurd rfl h

@[ext] theorem ext_get {p q : PerMetric α} (h : ∀ m, p.get m = q.get m) : p = q := by
  cases p
  cases q
  have hc := h .complexity
  have ht := h .tokens
  have hp := h .parameters
  have hl := h .lines
  simp_all [get]

end PerMetric

end ComplexityLint
