import ComplexityLint.Output.Listing
import ComplexityLint.Proofs.Json.Reading

/-!
The list of diagnostics as JSON loses nothing: a diagnostic is read back from its object
(`Holds.ofJson?`), and the list from its text (`listOfText?_pretty`).
-/

namespace ComplexityLint

open Json (Document)

/-! ### Reading a diagnostic back -/

/-- The place in a member of the range. -/
def Position.ofJson? (v : Json) (k : String) : Option Position := do
  return ⟨← v.word? ["range", k, "line"], ← v.word? ["range", k, "character"]⟩

/-- The diagnostic that an object holds. The metric is named by its key. -/
def Diagnostic.ofJson? (v : Json) : Option Diagnostic := do
  return {
    metric := ← (v.text? ["metric"]).bind fun s => Metric.all.find? (·.key = s)
    severity := ← (v.text? ["severity"]).bind fun s => Severity.all.find? (·.name = s)
    message := ← v.text? ["message"]
    file := ← v.text? ["file_path"]
    range := ⟨← Position.ofJson? v "start", ← Position.ofJson? v "end"⟩ }

/-- The diagnostics that a document holds. -/
def Diagnostic.listOfText? (text : String) : Option (List Diagnostic) := do
  let vs ← (← Json.read? text).items? []
  vs.mapM ofJson?

namespace Output

theorem find?_key (m : Metric) : Metric.all.find? (·.key = m.key) = some m := by
  cases m <;> rfl

theorem find?_name (s : Severity) : Severity.all.find? (·.name = s.name) = some s := by
  cases s <;> rfl

/-- An object has all that a diagnostic tells. -/
structure Holds (v : Json) (d : Diagnostic) : Prop where
  metric : v.text? ["metric"] = some d.metric.key
  severity : v.text? ["severity"] = some d.severity.name
  message : v.text? ["message"] = some d.message
  file : v.text? ["file_path"] = some d.file
  startLine : v.whole? ["range", "start", "line"] = some (d.range.start.line.toNat : Int)
  startCharacter :
    v.whole? ["range", "start", "character"] = some (d.range.start.character.toNat : Int)
  stopLine : v.whole? ["range", "end", "line"] = some (d.range.stop.line.toNat : Int)
  stopCharacter : v.whole? ["range", "end", "character"] = some (d.range.stop.character.toNat : Int)
  source : v.text? ["source"] = some Diagnostic.source

theorem holds_diagnosticJson (d : Diagnostic) : Holds (diagnosticJson d) d where
  metric := rfl
  severity := rfl
  message := rfl
  file := rfl
  startLine := rfl
  startCharacter := rfl
  stopLine := rfl
  stopCharacter := rfl
  source := rfl

theorem Holds.ofJson? {v : Json} {d : Diagnostic} (h : Holds v d) : Diagnostic.ofJson? v = some d := by
  simp [Diagnostic.ofJson?, Position.ofJson?, h.metric, h.severity, h.message, h.file, find?_key,
    find?_name, Json.word?_of_whole? h.startLine, Json.word?_of_whole? h.startCharacter,
    Json.word?_of_whole? h.stopLine, Json.word?_of_whole? h.stopCharacter]

/-! ### The list -/

theorem forall₂_holds (ds : List Diagnostic) :
    List.Forall₂ (fun v d => Holds v d ∧ Diagnostic.ofJson? v = some d) (ds.map diagnosticJson) ds := by
  rw [List.forall₂_map_left_iff, List.forall₂_same]
  exact fun d _ => ⟨holds_diagnosticJson d, (holds_diagnosticJson d).ofJson?⟩

theorem listOfText?_pretty (ds : List Diagnostic) :
    Diagnostic.listOfText? (listing ds).pretty = some ds := by
  have hitems : (ds.map diagnosticJson).mapM Diagnostic.ofJson? = some ds := by
    induction ds with
    | nil => rfl
    | cons d ds ih =>
      rw [List.map_cons, List.mapM_cons, (holds_diagnosticJson d).ofJson?, ih]
      rfl
  rw [Diagnostic.listOfText?, Json.read?_pretty]
  exact hitems

/-- **The list as JSON loses nothing.** Its text is a document of one array and of no other value; the
array has an object for each diagnostic, in the same order, that holds all of it and from which it is
read back; and no two lists have one text. -/
theorem listing_lossless :
    (∀ ds : List Diagnostic, ∃ items,
      (∀ v, Document v (listing ds).pretty ↔ v = .array items) ∧
      Json.read? (listing ds).pretty = some (.array items) ∧
      List.Forall₂ (fun v d => Holds v d ∧ Diagnostic.ofJson? v = some d) items ds ∧
      Diagnostic.listOfText? (listing ds).pretty = some ds) ∧
    Function.Injective fun ds => (listing ds).pretty := by
  constructor
  · intro ds
    exact ⟨ds.map diagnosticJson, fun _ => Json.document_pretty_iff, Json.read?_pretty (listing ds),
      forall₂_holds ds, listOfText?_pretty ds⟩
  · intro ds ds' htext
    have hlist := listOfText?_pretty ds
    rw [show (listing ds).pretty = (listing ds').pretty from htext, listOfText?_pretty ds'] at hlist
    exact (Option.some.inj hlist).symm

end Output

end ComplexityLint
