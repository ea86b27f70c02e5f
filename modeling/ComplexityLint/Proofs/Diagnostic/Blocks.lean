import ComplexityLint.Proofs.Diagnostic.Batch
import Mathlib.Data.List.SplitBy

/-!
The runs of a batch and the rows of a report. Neighbouring records of one file make a block, and
there is one way to cut a report into blocks that are as long as can be (`cut_iff`). A batch has one
run for each of these blocks, whatever the limits are (`assemble_blocks`).
-/

namespace ComplexityLint

namespace Batch

/-- The longest blocks of neighbouring records of one file. -/
def blocks (rs : List FunctionRecord) : List (List FunctionRecord) :=
  rs.splitBy fun r r' => r.file = r'.file

/-- Records cut into blocks of one file each, of which no two neighbours can be joined. -/
structure Cut (rs : List FunctionRecord) (bs : List (List FunctionRecord)) : Prop where
  joined : bs.flatten = rs
  filled : [] ∉ bs
  single : ∀ b ∈ bs, ∀ r ∈ b, ∀ r' ∈ b, r.file = r'.file
  maximal : bs.IsChain fun b b' => ∀ r ∈ b, ∀ r' ∈ b', r.file ≠ r'.file

/-- The run of a block, of the file that its first record names. -/
def runOf (t : Thresholds) (b : List FunctionRecord) : FileRun where
  file := (b.head?.map (·.file)).getD ""
  diagnostics := b.flatMap (Diagnostic.ofRecord t)

/-- A run that is of the file of a block and has the diagnostics of its records, one record after
another. -/
structure Tells (t : Thresholds) (b : List FunctionRecord) (run : FileRun) : Prop where
  file : ∀ r ∈ b, run.file = r.file
  diagnostics :
    run.diagnostics = b.flatMap fun r => (t.evaluate r).map (Diagnostic.ofViolation r.file)

/-! ### Cutting -/

theorem isChain_file_iff {b : List FunctionRecord} :
    (b.IsChain fun r r' => decide (r.file = r'.file) = true) ↔
      ∀ r ∈ b, ∀ r' ∈ b, r.file = r'.file := by
  simp only [decide_eq_true_eq]
  have : Trans (fun r r' : FunctionRecord => r.file = r'.file)
      (fun r r' : FunctionRecord => r.file = r'.file) (fun r r' => r.file = r'.file) := ⟨Eq.trans⟩
  have : Std.Symm fun r r' : FunctionRecord => r.file = r'.file := ⟨fun _ _ => Eq.symm⟩
  rw [List.isChain_iff_pairwise]
  refine ⟨fun h r hr r' hr' => ?_, List.pairwise_of_forall_mem_list⟩
  exact h.forall_of_forall (fun r _ => (rfl : r.file = r.file)) hr hr'

/-- **There is one way to cut a report.** -/
theorem cut_iff {rs : List FunctionRecord} {bs : List (List FunctionRecord)} :
    Cut rs bs ↔ bs = blocks rs := by
  rw [eq_comm, blocks, List.splitBy_eq_iff]
  simp only [isChain_file_iff, decide_eq_false_iff_not]
  -- of two blocks, the records at which they meet stand for all
  have hmeet : ∀ b b' : List FunctionRecord, b ≠ [] → b' ≠ [] →
      (∀ r ∈ b, ∀ r' ∈ b, r.file = r'.file) → (∀ r ∈ b', ∀ r' ∈ b', r.file = r'.file) →
      ((∀ r ∈ b, ∀ r' ∈ b', r.file ≠ r'.file) ↔
        ∃ ha hb, ¬ (b.getLast ha).file = (b'.head hb).file) := by
    intro b b' hb hb' hsingle hsingle'
    constructor
    · intro h
      exact ⟨hb, hb', h _ (List.getLast_mem hb) _ (List.head_mem hb')⟩
    · rintro ⟨_, _, hne⟩ r hr r' hr' heq
      refine hne ?_
      rw [← hsingle r hr _ (List.getLast_mem hb), heq, hsingle' r' hr' _ (List.head_mem hb')]
  constructor
  · intro h
    refine ⟨h.joined.symm, h.filled, h.single, ?_⟩
    refine (List.IsChain.iff_of_mem_imp fun b b' hb hb' => ?_).mp h.maximal
    exact hmeet b b' (ne_of_mem_of_not_mem hb h.filled) (ne_of_mem_of_not_mem hb' h.filled)
      (h.single b hb) (h.single b' hb')
  · rintro ⟨hjoined, hfilled, hsingle, hchain⟩
    refine ⟨hjoined.symm, hfilled, hsingle, ?_⟩
    refine (List.IsChain.iff_of_mem_imp fun b b' hb hb' => ?_).mpr hchain
    exact hmeet b b' (ne_of_mem_of_not_mem hb hfilled) (ne_of_mem_of_not_mem hb' hfilled)
      (hsingle b hb) (hsingle b' hb')

theorem cut_blocks (rs : List FunctionRecord) : Cut rs (blocks rs) := cut_iff.mpr rfl

/-! ### The run of a block -/

theorem runOf_eq (t : Thresholds) {b : List FunctionRecord} {r : FunctionRecord} (hr : r ∈ b)
    (hsingle : ∀ r ∈ b, ∀ r' ∈ b, r.file = r'.file) :
    runOf t b = ⟨r.file, b.flatMap (Diagnostic.ofRecord t)⟩ := by
  cases b with
  | nil => cases hr
  | cons r' b =>
    have hfile : r'.file = r.file := hsingle r' List.mem_cons_self r hr
    rw [runOf, List.head?_cons, Option.map_some, Option.getD_some, hfile]

/-- Only the last run of a batch can grow. -/
theorem push_concat (file : String) (ds : List Diagnostic) (b : Batch) (run : FileRun) :
    push file ds (b ++ [run]) =
      if run.file = file then b ++ [⟨file, run.diagnostics ++ ds⟩] else b ++ [run, ⟨file, ds⟩] := by
  induction b with
  | nil => rfl
  | cons first b ih =>
    obtain ⟨next, rest, hrest⟩ := List.exists_cons_of_ne_nil (l := b ++ [run]) (by simp)
    rw [List.cons_append, hrest, push, ← hrest, ih]
    split <;> rfl

theorem push_of_other {file : String} {b : Batch} (h : ∀ run ∈ b.getLast?, run.file ≠ file)
    (ds : List Diagnostic) : push file ds b = b ++ [⟨file, ds⟩] := by
  rcases List.eq_nil_or_concat' b with rfl | ⟨b, run, rfl⟩
  · rfl
  · rw [push_concat, if_neg (h run (by simp)), List.append_assoc]
    rfl

/-- A block behind the records of other files makes one run. -/
theorem assemble_append_block (t : Thresholds) (rs : List FunctionRecord)
    {b : List FunctionRecord} (hne : b ≠ []) (hsingle : ∀ r ∈ b, ∀ r' ∈ b, r.file = r'.file)
    (hother : ∀ run ∈ (assemble t rs).getLast?, ∀ r ∈ b, run.file ≠ r.file) :
    assemble t (rs ++ b) = assemble t rs ++ [runOf t b] := by
  induction b using List.reverseRecOn with
  | nil => exact absurd rfl hne
  | append_singleton b r ih =>
    rw [← List.append_assoc, assemble_concat, runOf_eq t (r := r) (by simp) hsingle]
    rcases b with _ | ⟨r', b⟩
    · -- the first record of a block opens the run
      rw [List.append_nil, push_of_other fun run hrun => hother run hrun r (by simp)]
      simp
    · -- any further one goes on with it
      have hshorter : ∀ s ∈ r' :: b, ∀ s' ∈ r' :: b, s.file = s'.file := fun s hs s' hs' =>
        hsingle s (List.mem_append_left _ hs) s' (List.mem_append_left _ hs')
      have hfile : r'.file = r.file := hsingle r' (by simp) r (by simp)
      rw [ih (List.cons_ne_nil r' b) hshorter fun run hrun s hs =>
          hother run hrun s (List.mem_append_left _ hs),
        runOf_eq t List.mem_cons_self hshorter, push_concat, if_pos hfile]
      simp

/-- **One run for each block.** -/
theorem assemble_of_cut (t : Thresholds) {rs : List FunctionRecord} {bs : List (List FunctionRecord)}
    (h : Cut rs bs) : assemble t rs = bs.map (runOf t) := by
  induction bs using List.reverseRecOn generalizing rs with
  | nil =>
    rw [← h.joined]
    rfl
  | append_singleton bs b ih =>
    obtain ⟨rfl, hfilled, hsingle, hchain⟩ := h
    rw [List.isChain_append] at hchain
    have hrest : assemble t bs.flatten = bs.map (runOf t) :=
      ih ⟨rfl, fun hnil => hfilled (List.mem_append_left _ hnil),
        fun b hb => hsingle b (List.mem_append_left _ hb), hchain.1⟩
    rw [List.flatten_append, List.flatten_singleton, assemble_append_block, hrest, List.map_append,
      List.map_singleton]
    · exact fun hnil => hfilled (by simp [hnil])
    · exact hsingle b (by simp)
    · -- the last run is that of the block before, which is of another file
      intro run hrun r hr
      rw [hrest, List.getLast?_map] at hrun
      obtain ⟨b', hb', rfl⟩ := Option.map_eq_some_iff.mp hrun
      have hmem : b' ∈ bs := List.mem_of_getLast? hb'
      obtain ⟨r', hr'⟩ := List.exists_mem_of_ne_nil b'
        (ne_of_mem_of_not_mem (List.mem_append_left _ hmem) hfilled)
      rw [runOf_eq t hr' (hsingle b' (List.mem_append_left _ hmem))]
      exact hchain.2.2 b' hb' b (by simp) r' hr' r hr

theorem assemble_eq_map (t : Thresholds) (rs : List FunctionRecord) :
    assemble t rs = (blocks rs).map (runOf t) :=
  assemble_of_cut t (cut_blocks rs)

theorem forall_tells (t : Thresholds) (rs : List FunctionRecord) :
    List.Forall₂ (Tells t) (blocks rs) (assemble t rs) := by
  rw [assemble_eq_map, List.forall₂_map_right_iff, List.forall₂_same]
  intro b hb
  refine ⟨fun r hr => ?_, rfl⟩
  rw [runOf_eq t hr ((cut_blocks rs).single b hb)]

/-- Neighbouring runs are of different files. -/
theorem isChain_assemble (t : Thresholds) (rs : List FunctionRecord) :
    (assemble t rs).IsChain fun run next => run.file ≠ next.file := by
  obtain ⟨-, hfilled, hsingle, hchain⟩ := cut_blocks rs
  rw [assemble_eq_map, List.isChain_map]
  refine hchain.imp_of_mem_imp fun b b' hb hb' hne => ?_
  obtain ⟨r, hr⟩ := List.exists_mem_of_ne_nil b (ne_of_mem_of_not_mem hb hfilled)
  obtain ⟨r', hr'⟩ := List.exists_mem_of_ne_nil b' (ne_of_mem_of_not_mem hb' hfilled)
  rw [runOf_eq t hr (hsingle b hb), runOf_eq t hr' (hsingle b' hb')]
  exact hne r hr r' hr'

/-- All records have their say, in order. -/
theorem diagnostics_assemble (t : Thresholds) (rs : List FunctionRecord) :
    diagnostics (assemble t rs) = rs.flatMap (Diagnostic.ofRecord t) := by
  calc diagnostics (assemble t rs)
      = (blocks rs).flatMap (fun b => b.flatMap (Diagnostic.ofRecord t)) := by
        rw [assemble_eq_map, diagnostics, List.flatMap_map]
        rfl
    _ = (blocks rs).flatten.flatMap (Diagnostic.ofRecord t) := by
        rw [List.flatten_eq_flatMap, List.flatMap_assoc]
        rfl
    _ = rs.flatMap (Diagnostic.ofRecord t) := by rw [(cut_blocks rs).joined]

theorem count_assemble (t : Thresholds) (rs : List FunctionRecord) :
    count (assemble t rs) = (rs.flatMap t.evaluate).length := by
  rw [count, diagnostics_assemble]
  induction rs with
  | nil => rfl
  | cons r rs ih =>
    rw [List.flatMap_cons, List.length_append, ih, List.flatMap_cons, List.length_append,
      Diagnostic.ofRecord, List.length_map]

/-- **A batch follows the blocks of its report.** There is one way to cut the records into blocks of
neighbours of one file that are as long as can be. There is one run for each of these blocks, of the
file of the block and with the diagnostics of its records in order, and no other run; so neighbouring
runs are of different files, nothing is lost, doubled or moved, and the limits have no say in which
files get a run. An observer changes nothing of this, and sees each record once, in order, with its
violations. -/
theorem assemble_blocks (t : Thresholds) (rs : List FunctionRecord) :
    (∀ bs, Cut rs bs ↔ bs = blocks rs) ∧
    List.Forall₂ (Tells t) (blocks rs) (assemble t rs) ∧
    (assemble t rs).IsChain (fun run next => run.file ≠ next.file) ∧
    diagnostics (assemble t rs) =
      rs.flatMap (fun r => (t.evaluate r).map (Diagnostic.ofViolation r.file)) ∧
    count (assemble t rs) = (rs.flatMap t.evaluate).length ∧
    (∀ t' : Thresholds, (assemble t' rs).map (·.file) = (assemble t rs).map (·.file)) ∧
    ∀ {σ : Type} (observe : FunctionRecord → List Violation → σ → σ) (s : σ),
      assembleWith t observe rs s =
        (assemble t rs, rs.foldl (fun s r => observe r (t.evaluate r) s) s) := by
  refine ⟨fun bs => cut_iff, forall_tells t rs, isChain_assemble t rs, diagnostics_assemble t rs,
    count_assemble t rs, fun t' => ?_, fun observe s => assembleWith_eq t observe rs s⟩
  rw [assemble_eq_map, assemble_eq_map, List.map_map, List.map_map]
  rfl

/-- A file whose rows stand apart has two runs, the second of them without diagnostics. -/
example :
    let limit : Thresholds := { Thresholds.unset with complexity := some 2 }
    (assemble limit [⟨"f", "a.c", 3, 9, 1, 5, 1, 9⟩, ⟨"g", "b.c", 4, 9, 1, 5, 1, 9⟩,
        ⟨"h", "a.c", 1, 9, 1, 5, 11, 19⟩]).map (fun run => (run.file, run.diagnostics.length)) =
      [("a.c", 1), ("b.c", 1), ("a.c", 0)] := by
  decide +kernel

end Batch

end ComplexityLint
