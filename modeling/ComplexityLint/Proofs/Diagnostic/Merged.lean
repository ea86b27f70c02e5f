import ComplexityLint.Proofs.Diagnostic.Batch
import Mathlib.Data.List.Perm.Basic

/-!
Merging as bookkeeping. The merged batch has each file once, in the order of first appearance, and
each diagnostic under the file where it was, as often as it was there: merging only brings the
diagnostics of a file together (`filed_merged`). What is merged already stays as it is
(`merged_of_nodup`).
-/

namespace ComplexityLint.Batch

/-- The diagnostics of a batch, each with the file of its run. -/
def filed (b : Batch) : List (String × Diagnostic) :=
  b.flatMap fun run => run.diagnostics.map fun d => (run.file, d)

theorem filed_cons (run : FileRun) (b : Batch) :
    filed (run :: b) = (run.diagnostics.map fun d => (run.file, d)) ++ filed b := rfl

theorem filed_concat (b : Batch) (run : FileRun) :
    filed (b ++ [run]) = filed b ++ run.diagnostics.map fun d => (run.file, d) := by
  rw [filed, List.flatMap_append, List.flatMap_singleton]
  rfl

theorem map_snd_filed (b : Batch) : b.filed.map Prod.snd = b.diagnostics := by
  induction b with
  | nil => rfl
  | cons run b ih =>
    rw [filed_cons, List.map_append, ih, List.map_map]
    exact congrArg (· ++ diagnostics b) (List.map_id run.diagnostics)

theorem merged_concat (b : Batch) (run : FileRun) :
    merged (b ++ [run]) = mergeRun run b.merged := by
  rw [merged, List.foldl_append]
  rfl

/-! ### Nothing is lost, doubled or moved -/

/-- One more run adds its own diagnostics, under its own file. -/
theorem filed_mergeRun (run : FileRun) (ms : Batch) :
    (filed (mergeRun run ms)).Perm (filed ms ++ run.diagnostics.map fun d => (run.file, d)) := by
  induction ms with
  | nil =>
    rw [mergeRun, filed_cons]
    exact List.perm_append_comm
  | cons m ms ih =>
    rw [mergeRun]
    split
    · rename_i hfile
      -- the new diagnostics stand in the middle, behind those of the same file
      rw [filed_cons, filed_cons, List.map_append, hfile, List.append_assoc, List.append_assoc]
      exact List.perm_append_comm.append_left _
    · rw [filed_cons, filed_cons, List.append_assoc]
      exact ih.append_left _

theorem filed_merged (b : Batch) : (filed b.merged).Perm (filed b) := by
  induction b using List.reverseRecOn with
  | nil => exact List.Perm.refl _
  | append_singleton b run ih =>
    rw [merged_concat, filed_concat]
    exact (filed_mergeRun run (merged b)).trans (ih.append_right _)

theorem count_merged (b : Batch) : count b.merged = count b := by
  have hperm : (diagnostics b.merged).Perm (diagnostics b) := by
    rw [← map_snd_filed, ← map_snd_filed]
    exact (filed_merged b).map Prod.snd
  exact hperm.length_eq

/-! ### Merging twice -/

theorem mergeRun_of_notMem {run : FileRun} {ms : Batch} (h : run.file ∉ ms.map (·.file)) :
    mergeRun run ms = ms ++ [run] := by
  induction ms with
  | nil => rfl
  | cons m ms ih =>
    rw [List.map_cons, List.mem_cons, not_or] at h
    rw [mergeRun, if_neg (Ne.symm h.1), ih h.2, List.cons_append]

theorem merged_of_nodup {b : Batch} (h : (b.map (·.file)).Nodup) : b.merged = b := by
  induction b using List.reverseRecOn with
  | nil => rfl
  | append_singleton b run ih =>
    rw [List.map_append, List.map_singleton, List.nodup_append] at h
    obtain ⟨hb, -, hnew⟩ := h
    have hrun : run.file ∉ b.map (·.file) := fun hmem =>
      hnew run.file hmem run.file (List.mem_singleton_self _) rfl
    rw [merged_concat, ih hb, mergeRun_of_notMem hrun]

/-! ### The merged batch -/

theorem map_file_merged (b : Batch) : b.merged.map (·.file) = (b.map (·.file)).eraseDups := by
  rw [merged_eq, List.map_map]
  exact List.map_id b.files

theorem nodup_files_merged (b : Batch) : (b.merged.map (·.file)).Nodup := by
  rw [map_file_merged]
  exact nodup_eraseDups _

/-- **A merged batch.** Its files are those of the runs, each once, in the order of first appearance.
The entry of a file has the diagnostics of all runs of this file, run after run; it is there, and
empty, also if none of these runs has any. So each diagnostic is found again under its file, as often
as before, and their number is the same. Merging once more changes nothing. -/
theorem merged_by_file (b : Batch) :
    (b.merged.map (·.file)).Nodup ∧
    b.merged.map (·.file) = (b.map (·.file)).eraseDups ∧
    (∀ entry ∈ b.merged,
      entry.diagnostics = (b.filter fun run => run.file = entry.file).flatMap (·.diagnostics)) ∧
    (∀ run ∈ b, (∀ run' ∈ b, run'.file = run.file → run'.diagnostics = []) →
      ⟨run.file, []⟩ ∈ b.merged) ∧
    (filed b.merged).Perm (filed b) ∧
    count b.merged = count b ∧
    merged b.merged = b.merged := by
  refine ⟨nodup_files_merged b, map_file_merged b, ?_, ?_, filed_merged b, count_merged b,
    merged_of_nodup (nodup_files_merged b)⟩
  · intro entry hentry
    rw [merged_eq] at hentry
    obtain ⟨f, -, rfl⟩ := List.mem_map.mp hentry
    rfl
  · intro run hrun hclean
    have hnone : b.ofFile run.file = [] := by
      rw [ofFile, diagnostics, List.flatMap_eq_nil_iff]
      intro run' hrun'
      obtain ⟨hmem, hfile⟩ := List.mem_filter.mp hrun'
      exact hclean run' hmem (of_decide_eq_true hfile)
    rw [merged_eq, List.mem_map]
    exact ⟨run.file, mem_files.mpr ⟨run, hrun, rfl⟩, by rw [hnone]⟩

/-- Two batches, one behind the other, that share a file, and another file that is clean in both. -/
theorem merged_by_file_of_shared_file :
    let d : UInt32 → Diagnostic := fun line => ⟨.tokens, .warning, "m", "a.c", .ofLine line⟩
    let b : Batch := [⟨"b.c", []⟩, ⟨"a.c", [d 1]⟩] ++ [⟨"b.c", []⟩, ⟨"a.c", [d 9, d 1]⟩]
    b.merged.map (·.file) = ["b.c", "a.c"] ∧ ⟨"b.c", []⟩ ∈ b.merged ∧
      ∀ entry ∈ b.merged, entry.file = "a.c" → entry.diagnostics = [d 1, d 9, d 1] := by
  intro d b
  obtain ⟨-, hfiles, hentries, hclean, -⟩ := merged_by_file b
  refine ⟨hfiles.trans (by decide +kernel), ?_, fun entry hentry hfile => ?_⟩
  · exact hclean ⟨"b.c", []⟩ (by decide +kernel) (by decide +kernel)
  · rw [hentries entry hentry, hfile]
    rfl

end ComplexityLint.Batch
