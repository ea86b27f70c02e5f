import ComplexityLint.Metric

/-!
Limits on metrics. A metric without a limit, or with the limit zero, is not checked; a function
violates a limit when it lies strictly above it.
-/

namespace ComplexityLint

/-- The largest permitted value of each metric. -/
abbrev Thresholds := PerMetric (Option UInt32)

/-- One number of one function above its limit. -/
structure Violation where
  function : String
  metric : Metric
  observed : UInt32
  threshold : UInt32
  startLine : UInt32
deriving DecidableEq

/-- The text of a violation. -/
def Violation.message (v : Violation) : String :=
  v.function ++ ": " ++ v.metric.description ++ " " ++ toString v.observed.toNat
    ++ " higher then threshold (" ++ toString v.threshold.toNat ++ ")"

namespace Thresholds

/-- No limits. -/
def unset : Thresholds := PerMetric.const none

/-- The limit that is checked, if any: a set one other than zero. -/
def active (t : Thresholds) (m : Metric) : Option UInt32 := (t.get m).filter (0 < ·)

/-- The violation of one metric. -/
def violation? (t : Thresholds) (r : FunctionRecord) (m : Metric) : Option Violation :=
  (t.active m).bind fun limit =>
    if limit < m.observe r then
      some { function := r.name, metric := m, observed := m.observe r, threshold := limit
             startLine := r.startLine }
    else none

/-- The violations of a function, in the order of evaluation. -/
def evaluate (t : Thresholds) (r : FunctionRecord) : List Violation :=
  Metric.all.filterMap (t.violation? r)

/-- Replaces the limits that are given anew and keeps the others. -/
def override (t : Thresholds) (o : PerMetric (Option UInt32)) : Thresholds where
  complexity := o.complexity <|> t.complexity
  tokens := o.tokens <|> t.tokens
  parameters := o.parameters <|> t.parameters
  lines := o.lines <|> t.lines

end Thresholds

/-- Which metrics of a function are marked. -/
abbrev Flags := PerMetric Bool

namespace Flags

/-- Nothing is marked. -/
def clear : Flags := PerMetric.const false

/-- Marks a metric. -/
def mark (f : Flags) (m : Metric) : Flags := f.set m true

/-- Marks the metrics of some violations. -/
def ofViolations (vs : List Violation) : Flags := vs.foldl (fun f v => f.mark v.metric) clear

/-- Whether some metric is marked. -/
def any (f : Flags) : Bool := Metric.all.any f.get

end Flags

end ComplexityLint
