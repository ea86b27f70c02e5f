/-!
What the analyzer measures of one function.
-/

namespace ComplexityLint

/-- One measured function: where it stands and its four numbers. -/
structure FunctionRecord where
  name : String
  file : String
  complexity : UInt32
  tokens : UInt32
  parameters : UInt32
  lines : UInt32
  startLine : UInt32
  endLine : UInt32
deriving DecidableEq

end ComplexityLint
