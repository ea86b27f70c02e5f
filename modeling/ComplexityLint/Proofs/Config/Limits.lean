import ComplexityLint.CommandLine.Request
import ComplexityLint.Config
import ComplexityLint.Proofs.Threshold
import ComplexityLint.Proofs.Toml.Keys

/-!
Where limits come from. A metric has an id, a key and an option, and all three lead to one limit: the
one that the document stores for the metric, unless the option gives another (`limits_of_document`).
Besides a table of limits a document may hold an array of them, without keys, and then it is the place
that counts.
-/

namespace ComplexityLint.Config

open Toml (Value Table document?)
open CommandLine (Given overridesOf)

/-- The place of a metric where limits stand without keys. -/
def place : Metric → Nat
  | .complexity => 0
  | .tokens => 1
  | .parameters => 2
  | .lines => 3

/-- What a value says of a metric: under its key in a table, at its place in an array. -/
def valueFor? (v : Value) (m : Metric) : Option Value :=
  match v with
  | .table ms => Table.get? ms m.key
  | .array vs => vs[place m]?
  | _ => none

/-- What a document stores for a metric. -/
def stored? (t : Table) (m : Metric) : Option Value := (t.get? "thresholds").bind (valueFor? · m)

/-- A limit as a document stores it. -/
def written (n : UInt32) : Value := .integer n.toNat

theorem written_injective : Function.Injective written := fun _ _ h =>
  UInt32.toNat_inj.mp (Int.ofNat.inj (Value.integer.inj h))

/-! ### A table of limits -/

theorem limit?_eq_some_iff {v : Value} {limit : Option UInt32} :
    limit? v = some limit ↔ ∃ n, v = written n ∧ limit = some n := by
  constructor
  · intro h
    rw [limit?.eq_def] at h
    split at h
    · rename_i i
      split at h
      · rename_i hi
        cases h
        refine ⟨_, ?_, rfl⟩
        rw [written, UInt32.toNat_ofNat_of_lt' (by omega), Int.toNat_of_nonneg hi.1]
      · cases h
    · cases h
  · rintro ⟨n, rfl, rfl⟩
    have hlt : (n.toNat : Int) < (UInt32.size : Int) := Int.ofNat_lt.mpr n.toNat_lt_size
    rw [written, limit?, if_pos ⟨Int.natCast_nonneg _, hlt⟩, Int.toNat_natCast, UInt32.ofNat_toNat]

/-- What is read is what is stored, and nothing if nothing is. -/
theorem field_limit?_eq_some_iff {v : Option Value} {limit : Option UInt32} :
    field limit? none v = some limit ↔ v = limit.map written := by
  cases v with
  | none => cases limit <;> simp [field]
  | some v => cases limit <;> simp [field, limit?_eq_some_iff]

/-- The keys that are read are those of the metrics. -/
theorem limitKeys_eq_map_key :
    limitKeys = ([.complexity, .tokens, .parameters, .lines] : List Metric).map Metric.key := rfl

theorem fields?_valueFor? {v : Value} {get : String → Option Value}
    (h : fields? limitKeys v = some get) (m : Metric) : get m.key = valueFor? v m := by
  rw [limitKeys_eq_map_key] at h
  cases v with
  | table ms =>
    cases h
    rfl
  | array vs =>
    cases h
    refine (lookup_zip _ vs m.key).trans ?_
    cases m <;> rfl
  | datetime text =>
    cases h
    rfl
  | string | integer | float | boolean => cases h

/-- A table of limits is read metric by metric. -/
theorem valueFor?_of_thresholds? {v : Value} {limits : Thresholds} (h : thresholds? v = some limits)
    (m : Metric) : valueFor? v m = (limits.get m).map written := by
  obtain ⟨get, hget, h⟩ := Option.bind_eq_some_iff.mp h
  obtain ⟨complexity, hcomplexity, h⟩ := Option.bind_eq_some_iff.mp h
  obtain ⟨tokens, htokens, h⟩ := Option.bind_eq_some_iff.mp h
  obtain ⟨parameters, hparameters, h⟩ := Option.bind_eq_some_iff.mp h
  obtain ⟨lines, hlines, h⟩ := Option.bind_eq_some_iff.mp h
  cases h
  rw [← fields?_valueFor? hget]
  cases m with
  | complexity => exact field_limit?_eq_some_iff.mp hcomplexity
  | tokens => exact field_limit?_eq_some_iff.mp htokens
  | parameters => exact field_limit?_eq_some_iff.mp hparameters
  | lines => exact field_limit?_eq_some_iff.mp hlines

theorem stored?_of_ofTable? {t : Table} {c : Config} (h : ofTable? t = some c) (m : Metric) :
    stored? t m = (c.thresholds.get m).map written := by
  obtain ⟨limits, hlimits, h⟩ := Option.bind_eq_some_iff.mp h
  obtain ⟨execution, -, h⟩ := Option.bind_eq_some_iff.mp h
  cases h
  rw [stored?]
  cases hv : t.get? "thresholds" with
  | none =>
    rw [hv] at hlimits
    cases hlimits
    simp [Thresholds.unset]
  | some v =>
    rw [hv] at hlimits
    exact valueFor?_of_thresholds? hlimits m

/-- What is stored determines the limits. -/
theorem thresholds_eq_of_stored? {t t' : Table} {c c' : Config} (h : ofTable? t = some c)
    (h' : ofTable? t' = some c') (hsame : ∀ m, stored? t' m = stored? t m) :
    c'.thresholds = c.thresholds := by
  refine PerMetric.ext_get fun m => Option.map_injective written_injective ?_
  rw [← stored?_of_ofTable? h, ← stored?_of_ofTable? h', hsame]

/-! ### The order of tables and keys -/

theorem stored?_perm {t t' : Table} (hkeys : (t.map (·.1)).Nodup) (h : t'.Perm t) (m : Metric) :
    stored? t' m = stored? t m := by
  rw [stored?, Table.get?_perm hkeys h, stored?]

theorem stored?_perm_members {t t' : Table} (ht : (Value.table t).Distinct)
    {ms ms' : List (String × Value)} (hms : t.get? "thresholds" = some (.table ms))
    (hms' : t'.get? "thresholds" = some (.table ms')) (h : ms'.Perm ms) (m : Metric) :
    stored? t' m = stored? t m := by
  rw [stored?, stored?, hms, hms']
  cases ht with
  | table _ hvalues =>
    cases hvalues _ (mem_of_lookup hms) with
    | table hkeys _ => exact Table.get?_perm hkeys h m.key

/-! ### Names and options -/

theorem ofName?_id (m : Metric) : Metric.ofName? m.id = some m := by
  cases m <;> decide +kernel

theorem ofName?_key (m : Metric) : Metric.ofName? m.key = some m := by
  cases m <;> decide +kernel

theorem overridesOf_eq (g : Given) :
    overridesOf g =
      { complexity := (g.value? "ccn").bind CommandLine.limit?
        tokens := (g.value? "tokens").bind CommandLine.limit?
        parameters := (g.value? "params").bind CommandLine.limit?
        lines := (g.value? "nloc").bind CommandLine.limit? } := rfl

/-- **Where a limit comes from.** A document in which something else than an integer of 32 bits is
stored for a metric is void. Of any other that is read, the id and the key of a metric find the limit
that is stored for it, and none if nothing is stored. Nothing else in the document counts, and neither
does the order of its tables or that of the keys of the limits. The options `ccn`, `tokens`, `params`
and `nloc` of a command replace the limits of their metrics and no others. -/
theorem limits_of_document (text : String) :
    (∀ t m v, document? text = some t → stored? t m = some v → (∀ n, v ≠ written n) →
      ofToml? text = none) ∧
    ∀ c, ofToml? text = some c → ∃ t, document? text = some t ∧
      (∀ m, c.thresholdByName m.id = c.thresholds.get m ∧
        c.thresholdByName m.key = c.thresholds.get m ∧
        stored? t m = (c.thresholds.get m).map written) ∧
      (∀ text' t' c', document? text' = some t' → ofToml? text' = some c' →
        ((∀ m, stored? t' m = stored? t m) → c'.thresholds = c.thresholds) ∧
        (t'.Perm t → c'.thresholds = c.thresholds) ∧
        ∀ ms ms', t.get? "thresholds" = some (.table ms) →
          t'.get? "thresholds" = some (.table ms') → ms'.Perm ms →
          c'.thresholds = c.thresholds) ∧
      (∀ o m, (c.thresholds.override o).get m =
        match o.get m with
        | some n => some n
        | none => c.thresholds.get m) ∧
      ∀ g, overridesOf g =
        { complexity := (g.value? "ccn").bind CommandLine.limit?
          tokens := (g.value? "tokens").bind CommandLine.limit?
          parameters := (g.value? "params").bind CommandLine.limit?
          lines := (g.value? "nloc").bind CommandLine.limit? } := by
  have hread : ∀ {text t c}, document? text = some t → ofToml? text = some c →
      ofTable? t = some c := by
    intro text t c ht hc
    rwa [ofToml?, ht] at hc
  refine ⟨fun t m v ht hv hvoid => ?_, fun c hc => ?_⟩
  · refine Option.eq_none_iff_forall_ne_some.mpr fun c hc => ?_
    have hstored := stored?_of_ofTable? (hread ht hc) m
    rw [hv] at hstored
    obtain ⟨n, -, hn⟩ := Option.map_eq_some_iff.mp hstored.symm
    exact hvoid n hn.symm
  · obtain ⟨t, ht, htc⟩ := Option.bind_eq_some_iff.mp hc
    have hdistinct := Toml.distinct_document? ht
    refine ⟨t, ht, fun m => ⟨?_, ?_, stored?_of_ofTable? htc m⟩, ?_, fun o m => ?_, overridesOf_eq⟩
    · rw [thresholdByName, ofName?_id]
      rfl
    · rw [thresholdByName, ofName?_key]
      rfl
    · intro text' t' c' ht' hc'
      have hsame := thresholds_eq_of_stored? htc (hread ht' hc')
      refine ⟨hsame, fun hperm => hsame fun m => ?_, fun ms ms' hms hms' hperm => hsame fun m => ?_⟩
      · cases hdistinct with
        | table hkeys _ => exact stored?_perm hkeys hperm m
      · exact stored?_perm_members hdistinct hms hms' hperm m
    · rw [Thresholds.get_override]
      cases o.get m <;> rfl

/-- Limits in two orders, and one that voids its document. -/
theorem limits_of_tokens :
    (∃ c ∈ ofToml? "[thresholds]\ntokenCount = 7\n[execution]\nanalyzer = \"l\"\n",
      ∃ c' ∈ ofToml? "thresholds = \x7blines = 1, tokenCount = 7\x7d\n",
        c.thresholdByName "token-count" = some 7 ∧ c.thresholdByName "lines" = none ∧
        c'.thresholds = c.thresholds) ∧
    ofToml? "[thresholds]\ntokenCount = -1\n" = none := by
  have hc : ofToml? "[thresholds]\ntokenCount = 7\n[execution]\nanalyzer = \"l\"\n" = some
      { thresholds := ⟨none, some 7, none, none⟩, execution := { analyzer := "l" } } := by
    decide +kernel
  have hc' : ofToml? "thresholds = \x7blines = 1, tokenCount = 7\x7d\n" = some
      { thresholds := ⟨none, some 7, none, none⟩ } := by
    decide +kernel
  have hvoid : ((document? "[thresholds]\ntokenCount = -1\n").bind (stored? · .tokens)).map
      (fun v => (limit? v).isNone) = some true := by
    decide +kernel
  obtain ⟨t, -, hlimits, hother, -⟩ := (limits_of_document _).2 _ hc
  obtain ⟨t', ht', hlimits', -⟩ := (limits_of_document _).2 _ hc'
  refine ⟨⟨_, hc, _, hc', (hlimits .tokens).1, rfl, (hother _ t' _ ht' hc').1 fun m => ?_⟩, ?_⟩
  · rw [(hlimits m).2.2, (hlimits' m).2.2]
  · obtain ⟨v, hv, hnone⟩ := Option.map_eq_some_iff.mp hvoid
    obtain ⟨t, ht, hv⟩ := Option.bind_eq_some_iff.mp hv
    refine (limits_of_document _).1 t .tokens v ht hv fun n hn => ?_
    rw [limit?_eq_some_iff.mpr ⟨n, hn, rfl⟩] at hnone
    cases hnone

/-- **Limits can come from elsewhere than a table**: from an array in its place. -/
theorem limit_of_array :
    (¬ ∀ text t c m, document? text = some t → ofToml? text = some c →
      (∀ ms, t.get? "thresholds" ≠ some (.table ms)) → c.thresholds.get m = none) ∧
    ∃ t ∈ document? "thresholds = [7]\n", ∃ vs, t.get? "thresholds" = some (.array vs) ∧
      ∃ c ∈ ofToml? "thresholds = [7]\n", c.thresholdByName "cyclomaticComplexity" = some 7 := by
  have hc : ofToml? "thresholds = [7]\n" =
      some { thresholds := ⟨some 7, none, none, none⟩ } := by
    decide +kernel
  have harray : ((document? "thresholds = [7]\n").bind (·.get? "thresholds")).map
      (· matches .array _) = some true := by
    decide +kernel
  obtain ⟨v, hv, hmatch⟩ := Option.map_eq_some_iff.mp harray
  obtain ⟨t, ht, hv⟩ := Option.bind_eq_some_iff.mp hv
  cases v with
  | array vs =>
    refine ⟨fun h => ?_, t, ht, vs, hv, _, hc, rfl⟩
    have hnone := h _ t _ .complexity ht hc fun ms hms => by
      rw [hv] at hms
      cases hms
    cases hnone
  | string | integer | float | boolean | datetime | table => cases hmatch

end ComplexityLint.Config
