import ComplexityLint.Proofs.Linter.Sink
import ComplexityLint.Proofs.Output.Table
import ComplexityLint.Proofs.Threshold

/-!
What is marked after a report, against what its batch warns of. A batch has the warnings of every row,
but a registry keeps one entry for each function name of a file. So the marks of an entry are the
warnings of the last row of its name (`marks_of_ingest`): each mark has its warning, and a warning of
an earlier row of the same name is marked only if the last row repeats it.
-/

namespace ComplexityLint

theorem Diagnostic.exists_metric_ofRecord_iff {t : Thresholds} {r : FunctionRecord} {m : Metric} :
    (∃ d ∈ ofRecord t r, d.metric = m) ↔
      (Flags.ofViolations (t.evaluate r)).get m = true := by
  rw [Flags.get_ofViolations, ofRecord]
  simp [ofViolation]

namespace Batch

/-- Among the diagnostics of a row's file there is one of the metric that stems from this row. -/
def Warns (b : Batch) (t : Thresholds) (r : FunctionRecord) (m : Metric) : Prop :=
  ∃ d ∈ b.ofFile r.file, d ∈ Diagnostic.ofRecord t r ∧ d.metric = m

theorem warns_assemble_iff {t : Thresholds} {rs : List FunctionRecord} {r : FunctionRecord}
    (hr : r ∈ rs) {m : Metric} :
    (assemble t rs).Warns t r m ↔ (Flags.ofViolations (t.evaluate r)).get m = true := by
  rw [← Diagnostic.exists_metric_ofRecord_iff]
  constructor
  · rintro ⟨d, -, hd, hm⟩
    exact ⟨d, hd, hm⟩
  · rintro ⟨d, hd, hm⟩
    have hown : r ∈ rs.filter fun r' => r'.file = r.file :=
      List.mem_filter.mpr ⟨hr, decide_eq_true rfl⟩
    refine ⟨d, ?_, hd, hm⟩
    rw [ofFile_assemble]
    exact List.mem_flatMap.mpr ⟨r, hown, hd⟩

end Batch

namespace Report

/-- The rows of a function. -/
def rowsOf (text file name : String) : List FunctionRecord :=
  (parse text).filter fun r => r.file = file ∧ r.name = name

theorem mem_rowsOf {text file name : String} {r : FunctionRecord} :
    r ∈ rowsOf text file name ↔ r ∈ parse text ∧ r.file = file ∧ r.name = name := by
  rw [rowsOf, List.mem_filter, decide_eq_true_eq]

end Report

namespace Linter

open Report (rowsOf)

/-- After a report, what is known of a function is what its last row says, whatever was taken in
before. -/
theorem latest?_append_intakes (l : Linter) (past : List Intake) {text file name : String}
    {last : FunctionRecord} (hlast : (rowsOf text file name).getLast? = some last) :
    Registry.latest? ((past ++ l.intakes text).filter fun i => i.record.file = file) name =
      some (Intake.entry ⟨last, l.config.thresholds⟩) := by
  have hrows : ((l.intakes text).filter fun i => i.record.file = file).filter
        (fun i => i.record.name = name) =
      (rowsOf text file name).map fun r => ⟨r, l.config.thresholds⟩ := by
    rw [intakes, List.filter_filter, List.filter_map, rowsOf]
    congr 1
    refine List.filter_congr fun r _ => ?_
    simp [Bool.and_comm]
  rw [Registry.latest?, List.filter_append, List.filter_append, hrows, List.getLast?_append,
    List.getLast?_map, hlast]
  rfl

/-- After a report, a function of it has one entry in its file, with the numbers of its last row and
the marks of that row under the limits in force. -/
theorem entry_of_ingest {l : Linter} {past : List Intake} (hl : l.registry = Registry.ofHistory past)
    {text file name : String} {last : FunctionRecord}
    (hlast : (rowsOf text file name).getLast? = some last) :
    ∃ es, (l.ingest text).2.fileAnalysis (.ofText file) = some es ∧
      (es.map (·.record.name)).Nodup ∧ Intake.entry ⟨last, l.config.thresholds⟩ ∈ es := by
  obtain ⟨hparsed, hfile, hname⟩ := Report.mem_rowsOf.mp (List.mem_of_getLast? hlast)
  let is := past ++ l.intakes text
  have hin : (⟨last, l.config.thresholds⟩ : Intake) ∈ is :=
    List.mem_append_right _ (List.mem_map_of_mem hparsed)
  have hregistry : (l.ingest text).2.registry = Registry.ofHistory is := by
    rw [ingest_eq, hl, Registry.foldl_take]
  refine ⟨Registry.entriesOf (is.filter fun i => i.record.file = file), ?_, ?_, ?_⟩
  · rw [fileAnalysis_ofText, hregistry, Registry.file?_ofHistory,
      if_pos (List.mem_map.mpr ⟨_, hin, hfile⟩)]
  · rw [Registry.names_entriesOf]
    exact nodup_eraseDups _
  · have hown : (⟨last, l.config.thresholds⟩ : Intake) ∈ is.filter fun i => i.record.file = file :=
      List.mem_filter.mpr ⟨hin, decide_eq_true hfile⟩
    rw [Registry.entriesOf, List.mem_filterMap]
    exact ⟨name, List.mem_eraseDups.mpr (List.mem_map.mpr ⟨_, hown, hname⟩),
      l.latest?_append_intakes past hlast⟩

theorem warns_ingest_iff {l : Linter} {text : String} {r : FunctionRecord}
    (hr : r ∈ Report.parse text) {m : Metric} :
    (l.ingest text).1.Warns l.config.thresholds r m ↔
      (Flags.ofViolations (l.config.thresholds.evaluate r)).get m = true := by
  rw [ingest_fst, batch, Batch.warns_assemble_iff hr]

end Linter

end ComplexityLint
