import ComplexityLint.Diagnostic.Basic
import Mathlib.Data.ENat.Basic
import Mathlib.Data.List.Nodup

/-!
What limits and violations say of one metric. A metric is violated exactly if its number lies above a
limit that is checked (`violation?_eq_some_iff`), and the marks of some violations are those of their
metrics (`get_ofViolations`). So a function is evaluated metric by metric (`evaluate_eq`). Limits are
compared by what they let pass: no limit and the limit zero let pass anything (`ceiling`).
-/

namespace ComplexityLint

theorem Metric.mem_all (m : Metric) : m ∈ Metric.all := by cases m <;> decide

theorem Metric.nodup_all : Metric.all.Nodup := by decide

namespace Thresholds

/-- The number of a metric lies above a limit that is set and not zero. -/
def Exceeded (t : Thresholds) (r : FunctionRecord) (m : Metric) : Prop :=
  ∃ limit, t.get m = some limit ∧ limit ≠ 0 ∧ limit < m.observe r

/-- What is said of a metric whose limit is exceeded. -/
def violationOf (t : Thresholds) (r : FunctionRecord) (m : Metric) : Violation where
  function := r.name
  metric := m
  observed := m.observe r
  threshold := (t.get m).getD 0
  startLine := r.startLine

/-- The highest number that passes. Without a limit, and with the limit zero, any number does. -/
def ceiling (t : Thresholds) (m : Metric) : ℕ∞ :=
  match t.get m with
  | none => ⊤
  | some limit => if limit = 0 then ⊤ else limit.toNat

/-- Limits that let pass whatever others let pass. -/
def NoStricter (t' t : Thresholds) : Prop := ∀ m, t.ceiling m ≤ t'.ceiling m

/-! ### Limits that are given anew -/

theorem get_override (t : Thresholds) (o : PerMetric (Option UInt32)) (m : Metric) :
    (t.override o).get m = (o.get m <|> t.get m) := by
  cases m <;> rfl

/-- A limit that is given anew is checked unless it is zero, and the others are as before. -/
theorem active_override (t : Thresholds) (o : PerMetric (Option UInt32)) (m : Metric) :
    (t.override o).active m = match o.get m with
      | some n => if n = 0 then none else some n
      | none => t.active m := by
  rw [active, get_override]
  cases o.get m with
  | none => rfl
  | some n =>
    by_cases hn : n = 0
    · simp [hn]
    · simp [hn, UInt32.pos_iff_ne_zero.mpr hn]

/-! ### Evaluation -/

theorem violation?_eq_some_iff {t : Thresholds} {r : FunctionRecord} {m : Metric} :
    (t.violation? r m).isSome ↔ ∃ limit ∈ t.active m, limit < m.observe r := by
  rw [violation?]
  cases t.active m with
  | none => simp
  | some limit => by_cases h : limit < m.observe r <;> simp [h]

/-- A function has a violation exactly if one of its numbers lies above a limit that is checked. -/
theorem evaluate_ne_nil_iff {t : Thresholds} {r : FunctionRecord} :
    t.evaluate r ≠ [] ↔ ∃ m, ∃ limit ∈ t.active m, limit < m.observe r := by
  simp only [evaluate, ne_eq, List.filterMap_eq_nil_iff, not_forall, ← violation?_eq_some_iff,
    Option.isSome_iff_ne_none, Metric.mem_all, exists_prop, true_and]

theorem isSome_violation?_iff {t : Thresholds} {r : FunctionRecord} {m : Metric} :
    (t.violation? r m).isSome ↔ t.Exceeded r m := by
  rw [violation?_eq_some_iff, Exceeded, active]
  simp [UInt32.pos_iff_ne_zero, and_assoc]

instance (t : Thresholds) (r : FunctionRecord) (m : Metric) : Decidable (t.Exceeded r m) :=
  decidable_of_iff _ isSome_violation?_iff

theorem violation?_eq (t : Thresholds) (r : FunctionRecord) (m : Metric) :
    t.violation? r m = if t.Exceeded r m then some (t.violationOf r m) else none := by
  by_cases h : t.Exceeded r m
  · obtain ⟨limit, hget, hzero, hlt⟩ := id h
    have hactive : t.active m = some limit := by
      rw [active, hget]
      simp [UInt32.pos_iff_ne_zero, hzero]
    rw [if_pos h, violation?, hactive, violationOf, hget]
    exact if_pos hlt
  · rw [if_neg h, ← Option.not_isSome_iff_eq_none, isSome_violation?_iff]
    exact h

/-- **Evaluation goes metric by metric**: those whose limits are exceeded, in the order of all. -/
theorem evaluate_eq (t : Thresholds) (r : FunctionRecord) :
    t.evaluate r = (Metric.all.filter (t.Exceeded r)).map (t.violationOf r) := by
  rw [evaluate, ← List.filterMap_eq_map, List.filterMap_filter]
  simp only [violation?_eq, decide_eq_true_eq]
  rfl

theorem map_metric_evaluate (t : Thresholds) (r : FunctionRecord) :
    (t.evaluate r).map (·.metric) = Metric.all.filter (t.Exceeded r) := by
  rw [evaluate_eq, List.map_map]
  exact List.map_id _

theorem mem_evaluate {t : Thresholds} {r : FunctionRecord} {v : Violation} :
    v ∈ t.evaluate r ↔ t.Exceeded r v.metric ∧ v = t.violationOf r v.metric := by
  rw [evaluate_eq, List.mem_map]
  constructor
  · rintro ⟨m, hm, rfl⟩
    exact ⟨of_decide_eq_true (List.mem_filter.mp hm).2, rfl⟩
  · rintro ⟨hexceeded, hv⟩
    exact ⟨v.metric, List.mem_filter.mpr ⟨Metric.mem_all _, decide_eq_true hexceeded⟩, hv.symm⟩

/-! ### Two sets of limits -/

theorem exceeded_iff_ceiling_lt {t : Thresholds} {r : FunctionRecord} {m : Metric} :
    t.Exceeded r m ↔ t.ceiling m < (m.observe r).toNat := by
  rw [Exceeded, ceiling]
  cases t.get m with
  | none => simp
  | some limit =>
    by_cases hzero : limit = 0
    · simp [hzero]
    · simp [hzero, UInt32.lt_iff_toNat_lt]

theorem exceeded_of_noStricter {t t' : Thresholds} (h : t'.NoStricter t) {r : FunctionRecord}
    {m : Metric} (hm : t'.Exceeded r m) : t.Exceeded r m :=
  exceeded_iff_ceiling_lt.mpr ((h m).trans_lt (exceeded_iff_ceiling_lt.mp hm))

theorem exceeded_set_of_ne (t : Thresholds) {k m : Metric} (limit : Option UInt32) (hm : m ≠ k)
    (r : FunctionRecord) : Exceeded (t.set k limit) r m ↔ t.Exceeded r m := by
  rw [Exceeded, Exceeded, PerMetric.get_set_of_ne t limit hm]

theorem violationOf_set_of_ne (t : Thresholds) {k m : Metric} (limit : Option UInt32) (hm : m ≠ k)
    (r : FunctionRecord) : violationOf (t.set k limit) r m = t.violationOf r m := by
  rw [violationOf, violationOf, PerMetric.get_set_of_ne t limit hm]

end Thresholds

namespace Flags

theorem get_mark (f : Flags) (k m : Metric) : (f.mark k).get m = (f.get m || k == m) := by
  by_cases hk : m = k
  · rw [hk, mark, PerMetric.get_set_self]
    simp
  · rw [mark, PerMetric.get_set_of_ne _ _ hk]
    simp [Ne.symm hk]

theorem get_foldl_mark (vs : List Violation) (f : Flags) (m : Metric) :
    (vs.foldl (fun f v => f.mark v.metric) f).get m = (f.get m || vs.any (·.metric == m)) := by
  induction vs generalizing f with
  | nil => simp
  | cons v vs ih => rw [List.foldl_cons, ih, get_mark, List.any_cons, Bool.or_assoc]

theorem get_ofViolations (vs : List Violation) (m : Metric) :
    (ofViolations vs).get m = true ↔ ∃ v ∈ vs, v.metric = m := by
  rw [ofViolations, get_foldl_mark]
  simp [clear]

theorem any_iff {f : Flags} : f.any = true ↔ ∃ m, f.get m = true := by
  rw [any, List.any_eq_true]
  simp only [Metric.mem_all, true_and]

theorem get_ofViolations_evaluate (t : Thresholds) (r : FunctionRecord) (m : Metric) :
    (ofViolations (t.evaluate r)).get m = true ↔ t.Exceeded r m := by
  rw [get_ofViolations]
  constructor
  · rintro ⟨v, hv, rfl⟩
    exact (Thresholds.mem_evaluate.mp hv).1
  · intro hexceeded
    exact ⟨t.violationOf r m, Thresholds.mem_evaluate.mpr ⟨hexceeded, rfl⟩, rfl⟩

theorem any_ofViolations_evaluate (t : Thresholds) (r : FunctionRecord) :
    (ofViolations (t.evaluate r)).any = true ↔ t.evaluate r ≠ [] := by
  rw [any_iff, Thresholds.evaluate_ne_nil_iff]
  simp only [get_ofViolations_evaluate, ← Thresholds.isSome_violation?_iff,
    Thresholds.violation?_eq_some_iff]

end Flags

end ComplexityLint
