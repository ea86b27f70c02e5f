import ComplexityLint.Diagnostic.Batch
import ComplexityLint.Proofs.Keyed
import ComplexityLint.Proofs.Path
import Mathlib.Data.List.Flatten
import Mathlib.Data.List.Induction

/-!
A batch by its files. Merging a batch gives one entry per file name, in the order of first
appearance, with the diagnostics of all runs of that name (`merged_eq`). Files are told apart by
their names as they are written, but a path is known by its steps: where a batch writes one path in
several ways, the diagnostics of the path are spread over several entries. Of several batches, the
last one that covers a path has all its diagnostics only if the ones before it have none.
-/

namespace ComplexityLint

namespace Batch

/-- The file names, in the order of first appearance. -/
def files (b : Batch) : List String := (b.map (·.file)).eraseDups

/-- The diagnostics of a file name, run after run. -/
def ofFile (b : Batch) (f : String) : List Diagnostic :=
  diagnostics (b.filter fun run => run.file = f)

/-- The diagnostics of a path, run after run, however the runs write it. -/
def ofPath (b : Batch) (p : Path) : List Diagnostic :=
  diagnostics (b.filter fun run => (Path.ofText run.file).same p)

/-- The ways in which a batch writes a path, in the order of first appearance. -/
def spellings (b : Batch) (p : Path) : List String := b.files.filter fun f => (Path.ofText f).same p

/-! ### Merging -/

theorem mem_files {b : Batch} {f : String} : f ∈ b.files ↔ ∃ run ∈ b, run.file = f := by
  rw [files, List.mem_eraseDups, List.mem_map]

theorem files_concat (b : Batch) (run : FileRun) :
    files (b ++ [run]) = if run.file ∈ b.files then b.files else b.files ++ [run.file] := by
  rw [files, List.map_append, List.map_singleton, eraseDups_concat, files]
  simp only [List.mem_eraseDups]

theorem ofFile_eq_nil_of_notMem {b : Batch} {f : String} (h : f ∉ b.files) : b.ofFile f = [] := by
  have hnone : b.filter (fun run => run.file = f) = [] :=
    List.filter_eq_nil_iff.mpr fun run hrun heq =>
      h (mem_files.mpr ⟨run, hrun, of_decide_eq_true heq⟩)
  rw [ofFile, hnone]
  rfl

theorem ofFile_append (b b' : Batch) (f : String) :
    ofFile (b ++ b') f = b.ofFile f ++ b'.ofFile f := by
  rw [ofFile, List.filter_append, diagnostics, List.flatMap_append]
  rfl

theorem mergeRun_map {files : List String} (hnd : files.Nodup) (g : String → List Diagnostic)
    (run : FileRun) (hnew : run.file ∉ files → g run.file = []) :
    mergeRun run (files.map fun f => ⟨f, g f⟩) =
      (if run.file ∈ files then files else files ++ [run.file]).map
        fun f => ⟨f, if f = run.file then g f ++ run.diagnostics else g f⟩ := by
  rw [map_entries (mergeRun run) run.file (fun f => ⟨f, g f ++ run.diagnostics⟩)
    (fun f es => rfl) hnd
    fun h => by simp [mergeRun, hnew h]]
  exact List.map_congr_left fun f _ => by split <;> rfl

/-- **Merging**: one entry per file name, with the diagnostics of all its runs. -/
theorem merged_eq (b : Batch) : b.merged = b.files.map fun f => ⟨f, b.ofFile f⟩ := by
  induction b using List.reverseRecOn with
  | nil => rfl
  | append_singleton b run ih =>
    have hstep : merged (b ++ [run]) = mergeRun run (merged b) := by
      rw [merged, List.foldl_append, ← merged, List.foldl_cons, List.foldl_nil]
    have hnd : (files b).Nodup := nodup_eraseDups _
    rw [hstep, ih, mergeRun_map hnd _ _ ofFile_eq_nil_of_notMem, files_concat]
    refine List.map_congr_left fun f _ => ?_
    rw [ofFile_append]
    by_cases hf : f = run.file
    · simp [hf, ofFile, diagnostics]
    · simp [hf, Ne.symm hf, ofFile, diagnostics]

/-! ### The ways to write a path -/

theorem mem_spellings {b : Batch} {p : Path} {f : String} :
    f ∈ b.spellings p ↔ f ∈ b.files ∧ (Path.ofText f).same p = true := List.mem_filter

theorem covers_iff {b : Batch} {p : Path} : b.covers p = true ↔ b.spellings p ≠ [] := by
  rw [covers, List.any_eq_true]
  constructor
  · rintro ⟨run, hrun, hsame⟩
    exact List.ne_nil_of_mem (mem_spellings.mpr ⟨mem_files.mpr ⟨run, hrun, rfl⟩, hsame⟩)
  · intro hne
    obtain ⟨f, hf⟩ := List.exists_mem_of_ne_nil _ hne
    obtain ⟨hfile, hsame⟩ := mem_spellings.mp hf
    obtain ⟨run, hrun, rfl⟩ := mem_files.mp hfile
    exact ⟨run, hrun, hsame⟩

theorem covers_eq_false_iff {b : Batch} {p : Path} :
    b.covers p = false ↔ b.spellings p = [] := by
  rw [← Bool.not_eq_true, covers_iff, not_not]

theorem covers_of_mem_files {b : Batch} {f : String} (hf : f ∈ b.files) :
    b.covers (.ofText f) = true :=
  covers_iff.mpr (List.ne_nil_of_mem (mem_spellings.mpr ⟨hf, Path.same_iff.mpr rfl⟩))

theorem ofFile_eq_nil_of_not_covers {b : Batch} {f : String} (h : b.covers (.ofText f) = false) :
    b.ofFile f = [] := by
  refine ofFile_eq_nil_of_notMem fun hf => ?_
  rw [covers_of_mem_files hf] at h
  cases h

/-- Whether a path is covered depends on its steps only. -/
theorem covers_congr {b : Batch} {p q : Path} (h : p.same q = true) : b.covers p = b.covers q := by
  rw [Path.same_iff] at h
  simp only [covers, Path.same, h]

/-- Some of the runs hold all the diagnostics exactly if the others hold none. -/
theorem diagnostics_filter_eq_iff (b : Batch) (keep : FileRun → Bool) :
    diagnostics (b.filter keep) = b.diagnostics ↔
      ∀ run ∈ b, keep run = false → run.diagnostics = [] := by
  induction b with
  | nil => simp
  | cons run b ih =>
    have hcons : diagnostics (run :: b) = run.diagnostics ++ diagnostics b := rfl
    rw [hcons, List.forall_mem_cons, ← ih]
    cases hk : keep run with
    | true =>
      rw [List.filter_cons_of_pos hk]
      simp [diagnostics]
    | false =>
      rw [List.filter_cons_of_neg (by simp [hk])]
      -- what is kept of the others is no longer than the others, so this run has nothing to add
      have hle : (diagnostics (b.filter keep)).length ≤ (diagnostics b).length :=
        (List.filter_sublist.flatMap _).length_le
      constructor
      · intro h
        have hlen := congrArg List.length h
        rw [List.length_append] at hlen
        have hnil : run.diagnostics = [] := List.eq_nil_of_length_eq_zero (by omega)
        exact ⟨fun _ => hnil, by rw [h, hnil, List.nil_append]⟩
      · rintro ⟨hnil, h⟩
        rw [hnil rfl, List.nil_append, h]

/-- The runs of a file name are among those of its path. -/
theorem filter_file_eq (b : Batch) {p : Path} {f : String} (hf : (Path.ofText f).same p = true) :
    b.filter (fun run => run.file = f) =
      (b.filter fun run => (Path.ofText run.file).same p).filter fun run => run.file = f := by
  rw [List.filter_filter]
  refine List.filter_congr fun run _ => ?_
  by_cases h : run.file = f <;> simp [h, hf]

theorem ofFile_sublist_ofPath (b : Batch) {p : Path} {f : String}
    (hf : (Path.ofText f).same p = true) : (b.ofFile f).Sublist (b.ofPath p) := by
  rw [ofFile, filter_file_eq b hf, ofPath]
  exact List.filter_sublist.flatMap _

theorem ofPath_eq_nil_of_not_covers {b : Batch} {p : Path} (h : b.covers p = false) :
    b.ofPath p = [] := by
  rw [covers, List.any_eq_false] at h
  rw [ofPath, List.filter_eq_nil_iff.mpr h]
  rfl

/-- A single spelling holds all the diagnostics of a path exactly if the others hold none. -/
theorem ofFile_eq_ofPath_iff {b : Batch} {p : Path} {f : String} (hf : f ∈ b.spellings p) :
    b.ofFile f = b.ofPath p ↔
      ∀ run ∈ b, (Path.ofText run.file).same p = true → run.file ≠ f → run.diagnostics = [] := by
  rw [ofFile, filter_file_eq b (mem_spellings.mp hf).2, ofPath, diagnostics_filter_eq_iff]
  simp only [List.mem_filter, decide_eq_false_iff_not, and_imp]

/-! ### Assembling -/

theorem map_file_push (file : String) (ds : List Diagnostic) (b : Batch) :
    (push file ds b).map (·.file) =
      if file ∈ b.getLast?.map (·.file) then b.map (·.file) else b.map (·.file) ++ [file] := by
  fun_induction push file ds b with
  | case1 => rfl
  | case2 run h => simp [h]
  | case3 run h => simp [h]
  | case4 run next rest ih =>
    rw [List.map_cons, ih, List.getLast?_cons_cons, List.map_cons (l := next :: rest)]
    split <;> rfl

theorem files_push (file : String) (ds : List Diagnostic) (b : Batch) :
    (push file ds b).files = if file ∈ b.files then b.files else b.files ++ [file] := by
  rw [files, map_file_push]
  split
  · rename_i hlast
    obtain ⟨run, hrun, hfile⟩ := Option.map_eq_some_iff.mp hlast
    rw [if_pos (mem_files.mpr ⟨run, List.mem_of_mem_getLast? hrun, hfile⟩), files]
  · rw [eraseDups_concat, files]
    simp only [List.mem_eraseDups]

theorem ofFile_push (file : String) (ds : List Diagnostic) (b : Batch) (f : String) :
    (push file ds b).ofFile f = b.ofFile f ++ if file = f then ds else [] := by
  fun_induction push file ds b with
  | case1 => by_cases hf : file = f <;> simp [ofFile, diagnostics, hf]
  | case2 run h => by_cases hf : file = f <;> simp [ofFile, diagnostics, h, hf]
  | case3 run h =>
    by_cases hf : file = f <;> by_cases hr : run.file = f <;> simp [ofFile, diagnostics, hf, hr]
  | case4 run next rest ih =>
    rw [← List.singleton_append, ofFile_append, ih, ← List.append_assoc, ← ofFile_append]
    rfl

/-- The batch of some records does not depend on the observer, and the observer sees them one after
another. -/
theorem assembleWith_eq {σ : Type} (t : Thresholds)
    (observe : FunctionRecord → List Violation → σ → σ) (rs : List FunctionRecord) (s : σ) :
    assembleWith t observe rs s =
      (assemble t rs, rs.foldl (fun s r => observe r (t.evaluate r) s) s) := by
  have hfold : ∀ {τ : Type} (watch : FunctionRecord → List Violation → τ → τ) (b : Batch) (u : τ),
      rs.foldl (fun p r => (push r.file (Diagnostic.ofRecord t r) p.1, watch r (t.evaluate r) p.2))
          (b, u) =
        (rs.foldl (fun b r => push r.file (Diagnostic.ofRecord t r) b) b,
          rs.foldl (fun u r => watch r (t.evaluate r) u) u) := by
    induction rs with
    | nil => intro _ _ _ _; rfl
    | cons r rs ih => intro _ watch b u; exact ih watch _ _
  have hassemble := hfold (fun _ _ u => u) [] ()
  exact (hfold observe [] s).trans (Prod.ext (congrArg Prod.fst hassemble).symm rfl)

theorem assemble_concat (t : Thresholds) (rs : List FunctionRecord) (r : FunctionRecord) :
    assemble t (rs ++ [r]) = push r.file (Diagnostic.ofRecord t r) (assemble t rs) := by
  rw [assemble, assembleWith, List.foldl_append]
  rfl

/-- The files of a batch are those of the records. -/
theorem files_assemble (t : Thresholds) (rs : List FunctionRecord) :
    (assemble t rs).files = (rs.map (·.file)).eraseDups := by
  induction rs using List.reverseRecOn with
  | nil => rfl
  | append_singleton rs r ih =>
    rw [assemble_concat, files_push, ih, List.map_append, List.map_singleton, eraseDups_concat]
    simp only [List.mem_eraseDups]

/-- The diagnostics of a file are those of its records, in their order. -/
theorem ofFile_assemble (t : Thresholds) (rs : List FunctionRecord) (f : String) :
    (assemble t rs).ofFile f = (rs.filter fun r => r.file = f).flatMap (Diagnostic.ofRecord t) := by
  induction rs using List.reverseRecOn with
  | nil => rfl
  | append_singleton rs r ih =>
    rw [assemble_concat, ofFile_push, ih, List.filter_append, List.flatMap_append]
    by_cases hf : r.file = f <;> simp [hf]

theorem file_of_mem_ofFile_assemble {t : Thresholds} {rs : List FunctionRecord} {f : String}
    {d : Diagnostic} (hd : d ∈ (assemble t rs).ofFile f) : d.file = f := by
  rw [ofFile_assemble, List.mem_flatMap] at hd
  obtain ⟨r, hr, hd⟩ := hd
  obtain ⟨v, -, rfl⟩ := List.mem_map.mp hd
  exact of_decide_eq_true (List.mem_filter.mp hr).2

theorem mem_files_assemble {t : Thresholds} {rs : List FunctionRecord} {f : String} :
    f ∈ (assemble t rs).files ↔ ∃ r ∈ rs, r.file = f := by
  rw [files_assemble, List.mem_eraseDups, List.mem_map]

section OneFile

variable {rs : List FunctionRecord} {s : String} (hfile : ∀ r ∈ rs, r.file = s)
include hfile

theorem files_assemble_of_one (hne : rs ≠ []) (t : Thresholds) : (assemble t rs).files = [s] := by
  obtain ⟨r, rs, rfl⟩ := List.exists_cons_of_ne_nil hne
  obtain ⟨rfl, hrest⟩ := List.forall_mem_cons.mp hfile
  have hnone : (rs.map (·.file)).filter (fun f => !f == r.file) = [] := by
    rw [List.filter_eq_nil_iff]
    simpa using hrest
  rw [files_assemble, List.map_cons, List.eraseDups_cons, hnone, List.eraseDups_nil]

theorem ofFile_assemble_of_one (t : Thresholds) :
    (assemble t rs).ofFile s = rs.flatMap (Diagnostic.ofRecord t) := by
  have hall : rs.filter (fun r => r.file = s) = rs :=
    List.filter_eq_self.mpr fun r hr => decide_eq_true (hfile r hr)
  rw [ofFile_assemble, hall]

end OneFile

/-! ### Several batches -/

theorem ofFile_flatten (bs : List Batch) (f : String) :
    ofFile bs.flatten f = bs.flatMap (·.ofFile f) := by
  induction bs with
  | nil => rfl
  | cons b bs ih => rw [List.flatten_cons, ofFile_append, ih, List.flatMap_cons]

theorem covers_flatten_iff {bs : List Batch} {q : Path} :
    covers bs.flatten q = true ↔ ∃ b ∈ bs, b.covers q = true := by
  simp only [covers, List.any_flatten, List.any_eq_true]

theorem ofPath_sublist_flatten {bs : List Batch} {b : Batch} (hb : b ∈ bs) (q : Path) :
    (b.ofPath q).Sublist (ofPath bs.flatten q) :=
  ((List.sublist_flatten_of_mem hb).filter _).flatMap _

/-- When the diagnostics of one name in one batch are all those of some name in several batches of
which that one comes last. -/
theorem ofFile_eq_ofFile_flatten_iff {bs before after : List Batch} {last : Batch} {f file : String}
    (hbs : bs = before ++ last :: after)
    (hown : ∀ b ∈ bs, ∀ f, ∀ d ∈ b.ofFile f, d.file = f)
    (hafter : ∀ b ∈ after, b.ofFile file = []) :
    last.ofFile f = ofFile bs.flatten file ↔
      (f = file ∧ ∀ b ∈ before, b.ofFile f = []) ∨
        (last.ofFile f = [] ∧ ofFile bs.flatten file = []) := by
  have hall : ofFile bs.flatten file = before.flatMap (·.ofFile file) ++ last.ofFile file := by
    rw [hbs, ofFile_flatten, List.flatMap_append, List.flatMap_cons,
      List.flatMap_eq_nil_iff.mpr hafter, List.append_nil]
  constructor
  · intro heq
    by_cases hname : f = file
    · -- the last list is the end of all, so nothing stands before it
      rw [hname, hall, List.self_eq_append_left] at heq
      exact .inl ⟨hname, by rw [hname]; exact List.flatMap_eq_nil_iff.mp heq⟩
    · -- a diagnostic of both would have both names
      have hnil : last.ofFile f = [] := List.eq_nil_iff_forall_not_mem.mpr fun d hd => by
        have hf : d.file = f := hown last (by simp [hbs]) f d hd
        rw [heq, ofFile_flatten, List.mem_flatMap] at hd
        obtain ⟨b, hb, hd⟩ := hd
        exact hname (hf.symm.trans (hown b hb file d hd))
      exact .inr ⟨hnil, heq.symm.trans hnil⟩
  · rintro (⟨rfl, hbefore⟩ | ⟨hnil, hnil'⟩)
    · rw [hall, List.flatMap_eq_nil_iff.mpr hbefore, List.nil_append]
    · exact hnil.trans hnil'.symm

/-- Of batches that cover a path, there is a last one. -/
theorem exists_last_covering {bs : List Batch} {q : Path} (h : ∃ b ∈ bs, b.covers q = true) :
    ∃ before last after, bs = before ++ last :: after ∧ last.covers q = true ∧
      ∀ b ∈ after, b.covers q = false := by
  induction bs with
  | nil => obtain ⟨_, hb, _⟩ := h; cases hb
  | cons b bs ih =>
    by_cases hlater : ∃ b ∈ bs, b.covers q = true
    · obtain ⟨before, last, after, rfl, hlast, hafter⟩ := ih hlater
      exact ⟨b :: before, last, after, rfl, hlast, hafter⟩
    · have hnone : ∀ b ∈ bs, b.covers q = false := fun b' hb' =>
        Bool.eq_false_iff.mpr fun hcovers => hlater ⟨b', hb', hcovers⟩
      obtain ⟨b', hb', hcovers⟩ := h
      rcases List.mem_cons.mp hb' with rfl | hmem
      · exact ⟨[], b', bs, rfl, hcovers, hnone⟩
      · exact absurd ⟨b', hmem, hcovers⟩ hlater

end Batch

end ComplexityLint
