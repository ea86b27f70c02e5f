import ComplexityLint.Output.Sarif
import ComplexityLint.Proofs.Diagnostic.Blocks
import ComplexityLint.Proofs.Diagnostic.Lines
import ComplexityLint.Proofs.Json.Reading
import ComplexityLint.Proofs.Keyed
import ComplexityLint.Report.Body

/-!
The results and the rules of a SARIF log. Each result names its rule by the id of a metric, and the
ids of the rules are those of the results, each once, in the order of first occurrence
(`ids_rules`). From this alone follows that no reference dangles and no rule is idle (`Resolves`).
-/

namespace ComplexityLint

/-! ### Rows -/

/-- The diagnostics of some records, each with the record it comes from. -/
def Diagnostic.withRows (t : Thresholds) (rs : List FunctionRecord) :
    List (FunctionRecord × Diagnostic) :=
  rs.flatMap fun r => (ofRecord t r).map (Prod.mk r)

theorem Diagnostic.map_snd_withRows (t : Thresholds) (rs : List FunctionRecord) :
    (withRows t rs).map Prod.snd = rs.flatMap (ofRecord t) := by
  rw [withRows, List.map_flatMap]
  simp [Function.comp_def]

theorem Diagnostic.mem_withRows {t : Thresholds} {rs : List FunctionRecord}
    {p : FunctionRecord × Diagnostic} (hp : p ∈ withRows t rs) : p.2 ∈ ofRecord t p.1 := by
  obtain ⟨r, -, hp⟩ := List.mem_flatMap.mp hp
  obtain ⟨d, hd, rfl⟩ := List.mem_map.mp hp
  exact hd

namespace Output

open Json (Document)

/-! ### The parts of a log -/

/-- The results and the rules of a log that has one run. -/
def HasRun (log : Json) (results rules : List Json) : Prop :=
  ∃ run, log.items? ["runs"] = some [run] ∧ run.items? ["results"] = some results ∧
    run.items? ["tool", "driver", "rules"] = some rules

theorem hasRun_sarif (ds : List Diagnostic) :
    HasRun (sarif ds) (ds.map resultJson) ((metricsOf ds).map ruleJson) :=
  ⟨_, rfl, rfl, rfl⟩

/-- What a result says of a diagnostic of a row. -/
structure Shows (v : Json) (r : FunctionRecord) (d : Diagnostic) : Prop where
  rule : v.text? ["ruleId"] = some d.metric.id
  level : v.text? ["level"] = some (match d.severity with
    | .error => "error"
    | .warning => "warning"
    | .info => "note")
  message : v.text? ["message", "text"] = some d.message
  place : ∃ w, v.items? ["locations"] = some [w] ∧
    w.text? ["physicalLocation", "artifactLocation", "uri"] = some d.file ∧
    w.whole? ["physicalLocation", "region", "startLine"] = some (max 1 r.startLine.toNat : Nat) ∧
    w.whole? ["physicalLocation", "region", "startColumn"] = some 1

theorem shows_resultJson {t : Thresholds} {r : FunctionRecord} {d : Diagnostic}
    (hd : d ∈ Diagnostic.ofRecord t r) : Shows (resultJson d) r d := by
  obtain ⟨v, -, rfl⟩ := List.mem_map.mp hd
  refine ⟨rfl, rfl, rfl, _, rfl, rfl, ?_, rfl⟩
  rw [← (Diagnostic.onLine_of_mem_ofRecord hd).line]
  rfl

/-! ### Rules -/

theorem metricsOf_eq (ds : List Diagnostic) : metricsOf ds = (ds.map (·.metric)).eraseDups := by
  induction ds using List.reverseRecOn with
  | nil => rfl
  | append_singleton ds d ih =>
    rw [metricsOf, List.foldl_append]
    change (if d.metric ∈ metricsOf ds then metricsOf ds else metricsOf ds ++ [d.metric]) = _
    rw [List.map_append, List.map_singleton, eraseDups_concat, ih]
    simp only [List.mem_eraseDups]

theorem id_injective : Function.Injective Metric.id := by
  intro m k h
  cases m <;> cases k <;> first | rfl | exact absurd h (by decide)

/-- The rules and results of a log belong together: no two rules have one id, they are in the order in
which the results first name them, a result names exactly one rule, and each rule is named. -/
structure Resolves (results rules : List Json) : Prop where
  distinct : (rules.map (·.text? ["id"])).Nodup
  ordered : (rules.map (·.text? ["id"])).Pairwise fun a b =>
    (results.map (·.text? ["ruleId"])).idxOf a < (results.map (·.text? ["ruleId"])).idxOf b
  resolved : ∀ v ∈ results, (rules.map (·.text? ["id"])).count (v.text? ["ruleId"]) = 1
  used : ∀ rule ∈ rules, ∃ v ∈ results, v.text? ["ruleId"] = rule.text? ["id"]

/-- **The ids of the rules are the references of the results**, each once. -/
theorem ids_rules (ds : List Diagnostic) :
    ((metricsOf ds).map ruleJson).map (·.text? ["id"]) =
      ((ds.map resultJson).map (·.text? ["ruleId"])).eraseDups := by
  have hsome : Function.Injective fun m : Metric => some m.id :=
    (Option.some_injective _).comp id_injective
  calc ((metricsOf ds).map ruleJson).map (·.text? ["id"])
      = (ds.map (·.metric)).eraseDups.map fun m => some m.id := by
        rw [metricsOf_eq, List.map_map]
        rfl
    _ = ((ds.map (·.metric)).map fun m => some m.id).eraseDups := (eraseDups_map hsome _).symm
    _ = ((ds.map resultJson).map (·.text? ["ruleId"])).eraseDups := by
        rw [List.map_map, List.map_map]
        rfl

theorem resolves_of_eraseDups {results rules : List Json}
    (h : rules.map (·.text? ["id"]) = (results.map (·.text? ["ruleId"])).eraseDups) :
    Resolves results rules where
  distinct := by
    rw [h]
    exact nodup_eraseDups _
  ordered := by
    rw [h]
    exact pairwise_idxOf_eraseDups _
  resolved v hv := by
    rw [h]
    refine List.count_eq_one_of_mem (nodup_eraseDups _) ?_
    rw [List.mem_eraseDups]
    exact List.mem_map_of_mem hv
  used rule hrule := by
    have hid := List.mem_map_of_mem (f := (·.text? ["id"])) hrule
    rw [h, List.mem_eraseDups] at hid
    exact List.mem_map.mp hid

/-- **A log is consistent in itself and with its report.** It has one run, with a result for each
diagnostic of the report, in the same order, that shows it at the line of its row; rules and results
belong together; and the rules are told by the metrics of the diagnostics alone. -/
theorem sarif_integrity (t : Thresholds) (text : String) :
    let rows := Diagnostic.withRows t (Report.parse text)
    let ds := (Batch.assemble t (Report.parse text)).diagnostics
    rows.map Prod.snd = ds ∧
    ∃ log results rules, Document log (sarif ds).pretty ∧ HasRun log results rules ∧
      List.Forall₂ (fun v (r, d) => Shows v r d) results rows ∧ Resolves results rules ∧
      ∀ ds' : List Diagnostic, ds'.map (·.metric) = ds.map (·.metric) →
        ∃ results', HasRun (sarif ds') results' rules := by
  intro rows ds
  have hrows : rows.map Prod.snd = ds := by
    rw [Diagnostic.map_snd_withRows, ← Batch.diagnostics_assemble]
  refine ⟨hrows, sarif ds, ds.map resultJson, (metricsOf ds).map ruleJson,
    Json.document_pretty (sarif ds), hasRun_sarif ds, ?_, resolves_of_eraseDups (ids_rules ds), ?_⟩
  · rw [← hrows, List.map_map, List.forall₂_map_left_iff, List.forall₂_same]
    exact fun p hp => shows_resultJson (Diagnostic.mem_withRows hp)
  · intro ds' hmetrics
    have hrules : metricsOf ds' = metricsOf ds := by rw [metricsOf_eq, metricsOf_eq, hmetrics]
    rw [← hrules]
    exact ⟨ds'.map resultJson, hasRun_sarif ds'⟩

end Output

end ComplexityLint
