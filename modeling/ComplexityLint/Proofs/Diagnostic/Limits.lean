import ComplexityLint.Proofs.Diagnostic.Blocks
import ComplexityLint.Proofs.Threshold

/-!
One report under two sets of limits. The runs are those of the blocks of the report under any limits,
so two batches are compared run by run. Limits that let pass more leave fewer diagnostics, in the same
order (`sublist_findings`), and a limit has no say in the diagnostics of other metrics
(`without_assemble_set`).
-/

namespace ComplexityLint

namespace Diagnostic

/-- A diagnostic without its message, which tells the limit: the metric, the file and the place. -/
def finding (d : Diagnostic) : Metric × String × Range := (d.metric, d.file, d.range)

theorem ofRecord_eq (t : Thresholds) (r : FunctionRecord) :
    ofRecord t r =
      (Metric.all.filter (t.Exceeded r)).map fun m => ofViolation r.file (t.violationOf r m) := by
  rw [ofRecord, Thresholds.evaluate_eq, List.map_map]
  rfl

theorem findings_ofRecord (t : Thresholds) (r : FunctionRecord) :
    (ofRecord t r).map finding =
      (Metric.all.filter (t.Exceeded r)).map fun m => (m, r.file, .ofLine r.startLine) := by
  rw [ofRecord_eq, List.map_map]
  rfl

/-- The diagnostics of the metrics other than `k` are those of the limits other than that of `k`. -/
theorem filter_ofRecord (t : Thresholds) (k : Metric) (r : FunctionRecord) :
    (ofRecord t r).filter (·.metric ≠ k) =
      (Metric.all.filter fun m => m ≠ k ∧ t.Exceeded r m).map
        fun m => ofViolation r.file (t.violationOf r m) := by
  rw [ofRecord_eq, List.filter_map, List.filter_filter]
  congr 1
  refine List.filter_congr fun m _ => ?_
  simp [ofViolation, Thresholds.violationOf]

theorem filter_ofRecord_set (t : Thresholds) (k : Metric) (limit : Option UInt32)
    (r : FunctionRecord) :
    (ofRecord (t.set k limit) r).filter (·.metric ≠ k) = (ofRecord t r).filter (·.metric ≠ k) := by
  have hsame : Metric.all.filter (fun m => m ≠ k ∧ Thresholds.Exceeded (t.set k limit) r m) =
      Metric.all.filter fun m => m ≠ k ∧ t.Exceeded r m :=
    List.filter_congr fun m _ =>
      decide_eq_decide.mpr (and_congr_right fun hm => t.exceeded_set_of_ne limit hm r)
  rw [filter_ofRecord, filter_ofRecord, hsame]
  refine List.map_congr_left fun m hm => ?_
  rw [t.violationOf_set_of_ne limit (of_decide_eq_true (List.mem_filter.mp hm).2).1]

end Diagnostic

namespace Batch

open Diagnostic (finding)

/-- The findings of a run that another run of the same file has as well, in the same order. -/
structure Within (run other : FileRun) : Prop where
  file : run.file = other.file
  findings : (run.diagnostics.map finding).Sublist (other.diagnostics.map finding)

/-- A batch less the diagnostics of a metric. -/
def without (k : Metric) (b : Batch) : Batch :=
  b.map fun run => ⟨run.file, run.diagnostics.filter (·.metric ≠ k)⟩

/-- Limits that let pass more leave fewer findings of some records. -/
theorem sublist_findings {t t' : Thresholds} (h : t'.NoStricter t) (rs : List FunctionRecord) :
    ((rs.flatMap (Diagnostic.ofRecord t')).map finding).Sublist
      ((rs.flatMap (Diagnostic.ofRecord t)).map finding) := by
  induction rs with
  | nil => exact List.Sublist.refl _
  | cons r rs ih =>
    rw [List.flatMap_cons, List.flatMap_cons, List.map_append, List.map_append,
      Diagnostic.findings_ofRecord, Diagnostic.findings_ofRecord]
    refine List.Sublist.append (List.Sublist.map _ ?_) ih
    refine List.monotone_filter_right Metric.all fun m hm => ?_
    exact decide_eq_true (Thresholds.exceeded_of_noStricter h (of_decide_eq_true hm))

theorem forall_within {t t' : Thresholds} (h : t'.NoStricter t) (rs : List FunctionRecord) :
    List.Forall₂ Within (assemble t' rs) (assemble t rs) := by
  rw [assemble_eq_map, assemble_eq_map, List.forall₂_map_left_iff, List.forall₂_map_right_iff,
    List.forall₂_same]
  exact fun b _ => ⟨rfl, sublist_findings h b⟩

theorem without_assemble_set (t : Thresholds) (k : Metric) (limit : Option UInt32)
    (rs : List FunctionRecord) :
    (assemble (t.set k limit) rs).without k = (assemble t rs).without k := by
  rw [assemble_eq_map, assemble_eq_map, without, without, List.map_map, List.map_map]
  refine List.map_congr_left fun b _ => ?_
  simp only [Function.comp_apply, runOf, List.filter_flatMap, Diagnostic.filter_ofRecord_set]

/-- **Limits act metric by metric, and in one direction.** A function is reported for just the metrics
whose limit is set, not zero and strictly below its number, in the order of parameters, lines, tokens
and complexity and once each, with its own numbers; just these metrics are marked, and some metric is marked exactly if something is
reported. Of a report, limits that let pass more, where no limit and the limit zero let pass anything,
leave the same runs and in each run fewer findings in the same order. When a single limit is replaced,
the diagnostics of the other metrics stay what they are. -/
theorem assemble_under_limits (t : Thresholds) :
    (∀ r : FunctionRecord,
      (t.evaluate r).map (·.metric) =
        ([.parameters, .lines, .tokens, .complexity] : List Metric).filter (t.Exceeded r) ∧
      ((t.evaluate r).map (·.metric)).Nodup ∧
      (∀ v ∈ t.evaluate r, v.function = r.name ∧ v.observed = v.metric.observe r ∧
        t.get v.metric = some v.threshold ∧ v.startLine = r.startLine) ∧
      (∀ m, (Flags.ofViolations (t.evaluate r)).get m = true ↔ t.Exceeded r m) ∧
      ((Flags.ofViolations (t.evaluate r)).any = true ↔ t.evaluate r ≠ [])) ∧
    (∀ t' : Thresholds, t'.NoStricter t → ∀ rs,
      (assemble t' rs).map (·.file) = (assemble t rs).map (·.file) ∧
      List.Forall₂ Within (assemble t' rs) (assemble t rs)) ∧
    ∀ k limit rs, (assemble (t.set k limit) rs).without k = (assemble t rs).without k := by
  refine ⟨fun r => ⟨t.map_metric_evaluate r, ?_, fun v hv => ?_, Flags.get_ofViolations_evaluate t r,
    Flags.any_ofViolations_evaluate t r⟩, fun t' h rs => ⟨?_, forall_within h rs⟩,
    without_assemble_set t⟩
  · rw [t.map_metric_evaluate r]
    exact Metric.nodup_all.filter _
  · obtain ⟨⟨limit, hget, -⟩, hv⟩ := Thresholds.mem_evaluate.mp hv
    have hthreshold : v.threshold = limit := by
      rw [hv, Thresholds.violationOf, hget]
      rfl
    exact ⟨congrArg Violation.function hv, congrArg Violation.observed hv, by rw [hthreshold, hget],
      congrArg Violation.startLine hv⟩
  · rw [assemble_eq_map, assemble_eq_map, List.map_map, List.map_map]
    rfl

/-- A limit that is raised and one that becomes zero: of two functions, one keeps a finding and the
other none. -/
theorem assemble_under_limits_of_zero :
    let strict : Thresholds := { Thresholds.unset with complexity := some 2, tokens := some 5 }
    let lenient : Thresholds := { strict with complexity := some 4, tokens := some 0 }
    let rs : List FunctionRecord := [⟨"f", "a.c", 5, 9, 1, 5, 1, 9⟩, ⟨"g", "b.c", 3, 9, 1, 5, 11, 19⟩]
    lenient.NoStricter strict ∧
      (assemble lenient rs).map (·.file) = ["a.c", "b.c"] ∧
      List.Forall₂ Within (assemble lenient rs) (assemble strict rs) ∧
      (assemble strict rs).map (·.diagnostics.map (·.metric)) =
        [[.tokens, .complexity], [.tokens, .complexity]] ∧
      (assemble lenient rs).map (·.diagnostics.map (·.metric)) = [[.complexity], []] := by
  intro strict lenient rs
  have hlenient : lenient.NoStricter strict := fun m => by cases m <;> decide
  obtain ⟨hfiles, hwithin⟩ := (assemble_under_limits strict).2.1 lenient hlenient rs
  exact ⟨hlenient, hfiles.trans (by decide +kernel), hwithin, by decide +kernel, by decide +kernel⟩

end Batch

end ComplexityLint
