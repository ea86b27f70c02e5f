import ComplexityLint.Diagnostic.Basic
import ComplexityLint.Json

/-!
Diagnostics as a JSON array of objects.
-/

namespace ComplexityLint.Output

/-- A place. -/
def positionJson (p : Position) : Json :=
  .object [("line", .number p.line.toNat), ("character", .number p.character.toNat)]

/-- A diagnostic with all it holds. -/
def diagnosticJson (d : Diagnostic) : Json :=
  .object
    [("metric", .string d.metric.key),
     ("severity", .string d.severity.name),
     ("message", .string d.message),
     ("file_path", .string d.file),
     ("range", .object [("start", positionJson d.range.start), ("end", positionJson d.range.stop)]),
     ("source", .string Diagnostic.source)]

/-- The array of all diagnostics. -/
def listing (ds : List Diagnostic) : Json := .array (ds.map diagnosticJson)

end ComplexityLint.Output
