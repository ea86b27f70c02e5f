import ComplexityLint.Proofs.Linter.Sink

/-!
What is left to be seen of logs that are read one after another. Each log is published on its own,
so of a path that several logs speak of only the diagnostics of the last one stay
(`shown_of_readLogs`), while the batch that is returned has those of all.
-/

namespace ComplexityLint

open Event (publications)

namespace Linter

variable {σ : Type}

/-- The batches of the logs that can be read, in order. -/
def batches (h : Host σ) (l : Linter) (logs : List Path) (w : σ) : List Batch :=
  (l.reports (.readLogs h logs w)).map l.batch

/-- Everything that is published for some batches, one after another. -/
def publicationsOf (bs : List Batch) : List (Path × List Diagnostic) :=
  bs.flatMap fun b => publications (publish b)

theorem batches_cons (h : Host σ) (l : Linter) (log : Path) (logs : List Path) (w : σ) :
    l.batches h (log :: logs) w = l.batches h [log] w ++ l.batches h logs w := by
  simp only [batches, reports, ← List.map_append, ← List.filterMap_append, List.singleton_append]

/-- What was learned from other logs has no part in a batch. -/
theorem batches_readLog (h : Host σ) (l : Linter) (log : Path) (logs : List Path) (w : σ) :
    (l.readLog h log w).linter.batches h logs w = l.batches h logs w := by
  rw [(readLog_linter h l log w).1, foldl_learn]
  rfl

/-- One log: its batch is found and published, or nothing. -/
theorem readLog_published (h : Host σ) (l : Linter) (log : Path) (w : σ) :
    (l.readLog h log w).result = (l.batches h [log] w).flatten ∧
      publications (l.readLog h log w).events = publicationsOf (l.batches h [log] w) := by
  simp only [batches, reports, publicationsOf, List.filterMap_cons, List.filterMap_nil, Host.logged]
  cases hex : h.pathExists w log with
  | false => simp [readLog, hex, Reply.text?, Event.publications]
  | true =>
    cases hread : h.read w log with
    | error f => simp [readLog, hex, hread, Reply.text?, Event.publications]
    | ok text => simp [readLog, hex, hread, Reply.text?, ingest_fst]

/-- Several logs: the batches are found together, but published one after another. -/
theorem readLogs_published (h : Host σ) (l : Linter) (logs : List Path) (w : σ) :
    (l.readLogs h logs w).result = (l.batches h logs w).flatten ∧
      publications (l.readLogs h logs w).events = publicationsOf (l.batches h logs w) := by
  induction logs generalizing l with
  | nil => exact ⟨rfl, rfl⟩
  | cons log logs ih =>
    obtain ⟨hresult, hpubs⟩ := readLog_published h l log w
    obtain ⟨hresults, hpubs'⟩ := ih (l.readLog h log w).linter
    rw [batches_readLog] at hresults hpubs'
    rw [readLogs_cons, batches_cons, (readLog_linter h l log w).2]
    constructor
    · rw [Outcome.followedBy_result, hresult, hresults, List.flatten_append]
    · rw [Outcome.followedBy_events, Event.publications_append, hpubs, hpubs', publicationsOf,
        publicationsOf, publicationsOf, List.flatMap_append]

theorem last?_publicationsOf_eq_none {bs : List Batch} {q : Path}
    (h : ∀ b ∈ bs, b.covers q = false) : Sink.last? (publicationsOf bs) q = none := by
  induction bs with
  | nil => rfl
  | cons b bs ih =>
    obtain ⟨hb, hbs⟩ := List.forall_mem_cons.mp h
    have hrest : Sink.last? (bs.flatMap fun b => publications (publish b)) q = none := ih hbs
    rw [publicationsOf, List.flatMap_cons, Sink.last?_append, hrest, last?_publish,
      Batch.covers_eq_false_iff.mp hb]
    rfl

/-- Of several batches, the last one that covers a path decides what is seen. -/
theorem last?_publicationsOf {before after : List Batch} {last : Batch} {q : Path} {f : String}
    (hafter : ∀ b ∈ after, b.covers q = false) (hf : f ∈ (last.spellings q).getLast?) :
    Sink.last? (publicationsOf (before ++ last :: after)) q = some (last.ofFile f) := by
  have hsplit : publicationsOf (before ++ last :: after) =
      publicationsOf before ++ publications (publish last) ++ publicationsOf after := by
    simp only [publicationsOf, List.flatMap_append, List.flatMap_cons, List.append_assoc]
  rw [hsplit, Sink.last?_append, last?_publicationsOf_eq_none hafter, Sink.last?_append,
    last?_publish, Option.mem_def.mp hf]
  rfl

/-- **What is shown after logs were read.** A file of the batch that is returned shows what the last
of the logs that speak of it published, under the spelling that this log uses last. These are the
diagnostics that the merged batch lists for the file exactly if that spelling is the file's own and
the logs before have none for it, or if there is nothing to list and nothing to show. -/
theorem shown_of_readLogs (h : Host σ) (l : Linter) (logs : List Path) (w : σ) (s : Sink)
    {run : FileRun} (hrun : run ∈ Batch.merged (l.readLogs h logs w).result) :
    let q := Path.ofText run.file
    let list := (s.receive (l.readLogs h logs w).events).shown q
    ∃ before last after,
      l.batches h logs w = before ++ last :: after ∧ last.covers q = true ∧
      (∀ b ∈ after, b.covers q = false) ∧
      ∃ f ∈ (last.spellings q).getLast?, list = last.ofFile f ∧
        (list = run.diagnostics ↔
          (f = run.file ∧ ∀ b ∈ before, b.ofFile f = []) ∨
            (list = [] ∧ run.diagnostics = [])) := by
  intro q list
  obtain ⟨hresult, hpubs⟩ := readLogs_published h l logs w
  rw [Batch.merged_eq, hresult] at hrun
  obtain ⟨file, hfile, rfl⟩ := List.mem_map.mp hrun
  obtain ⟨before, last, after, hsplit, hlast, hafter⟩ :
      ∃ before last after, l.batches h logs w = before ++ last :: after ∧ last.covers q = true ∧
        ∀ b ∈ after, b.covers q = false := by
    obtain ⟨run', hrun', hname⟩ := Batch.mem_files.mp hfile
    obtain ⟨b, hb, hmem⟩ := List.mem_flatten.mp hrun'
    exact Batch.exists_last_covering
      ⟨b, hb, Batch.covers_of_mem_files (Batch.mem_files.mpr ⟨run', hmem, hname⟩)⟩
  obtain ⟨f, hf⟩ : ∃ f, f ∈ (last.spellings q).getLast? :=
    ⟨_, List.getLast?_eq_getLast_of_ne_nil (Batch.covers_iff.mp hlast)⟩
  have hlist : list = last.ofFile f := by
    change (s.receive _).shown q = _
    rw [Sink.shown_receive, hpubs, hsplit, last?_publicationsOf hafter hf]
    rfl
  refine ⟨before, last, after, hsplit, hlast, hafter, f, hf, hlist, ?_⟩
  refine hlist ▸ Batch.ofFile_eq_ofFile_flatten_iff hsplit (fun b hb => ?_) fun b hb => ?_
  · obtain ⟨text, -, rfl⟩ := List.mem_map.mp hb
    exact fun _ _ => Batch.file_of_mem_ofFile_assemble
  · exact Batch.ofFile_eq_nil_of_not_covers (hafter b hb)

/-- A file of two logs shows what the second of them found, and the batch lists both. -/
theorem shown_of_readLogs_of_shared_file :
    let logs : List (Path × String) :=
      [(⟨"1.log"⟩, "-\n5 3 9 1 6 f@1-9@a.c\n1 file analyzed"),
        (⟨"2.log"⟩, "-\n5 4 9 1 6 g@11-19@a.c\n1 file analyzed")]
    let o := strict.readLogs Memory.host (logs.map (·.1)) { files := logs }
    ∃ run ∈ Batch.merged o.result,
      ∀ s : Sink, (s.receive o.events).shown (.ofText run.file) ≠ run.diagnostics := by
  intro logs o
  let b := Batch.assemble strict.config.thresholds [⟨"f", "a.c", 3, 9, 1, 5, 1, 9⟩]
  let b' := Batch.assemble strict.config.thresholds [⟨"g", "a.c", 4, 9, 1, 5, 11, 19⟩]
  have hbatches : strict.batches Memory.host (logs.map (·.1)) { files := logs } = [b, b'] := by
    decide +kernel
  obtain ⟨hresult, hpubs⟩ := readLogs_published Memory.host strict (logs.map (·.1)) { files := logs }
  rw [hbatches] at hresult hpubs
  refine ⟨⟨"a.c", Batch.ofFile [b, b'].flatten "a.c"⟩, ?_, fun s => ?_⟩
  · rw [hresult, Batch.merged_eq]
    exact List.mem_map.mpr ⟨"a.c", by decide +kernel, rfl⟩
  · have hlast : Sink.last? (publicationsOf [b, b']) (.ofText "a.c") = some (b'.ofFile "a.c") := by
      decide +kernel
    rw [Sink.shown_receive, hpubs]
    dsimp only
    rw [hlast]
    change b'.ofFile "a.c" ≠ _
    decide +kernel

/-- The logs of other files, before and behind, take nothing away. -/
theorem shown_of_readLogs_of_own_log :
    let logs : List (Path × String) :=
      [(⟨"1.log"⟩, "-\n5 3 9 1 6 f@1-9@a.c\n1 file analyzed"),
        (⟨"2.log"⟩, "-\n5 4 9 1 6 g@11-19@b.c\n1 file analyzed")]
    let o := strict.readLogs Memory.host (⟨"0.log"⟩ :: logs.map (·.1)) { files := logs }
    ∃ run ∈ Batch.merged o.result, run.diagnostics.length = 1 ∧
      ∀ s : Sink, (s.receive o.events).shown (.ofText run.file) = run.diagnostics := by
  intro logs o
  let b := Batch.assemble strict.config.thresholds [⟨"f", "a.c", 3, 9, 1, 5, 1, 9⟩]
  let b' := Batch.assemble strict.config.thresholds [⟨"g", "b.c", 4, 9, 1, 5, 11, 19⟩]
  have hbatches :
      strict.batches Memory.host (⟨"0.log"⟩ :: logs.map (·.1)) { files := logs } = [b, b'] := by
    decide +kernel
  have hrun : ⟨"a.c", b.ofFile "a.c"⟩ ∈ Batch.merged o.result := by
    rw [(readLogs_published Memory.host strict _ _).1, hbatches, Batch.merged_eq]
    exact List.mem_map.mpr ⟨"a.c", by decide +kernel, by decide +kernel⟩
  refine ⟨_, hrun, by decide +kernel, fun s => ?_⟩
  obtain ⟨before, last, after, hsplit, hlast, -, f, hf, -, hiff⟩ :=
    shown_of_readLogs Memory.host strict _ _ s hrun
  rw [hbatches] at hsplit
  match before, hsplit with
  | [], hsplit =>
    cases hsplit
    have hown : (b.spellings (.ofText "a.c")).getLast? = some "a.c" := by decide +kernel
    exact hiff.mpr (.inl ⟨Option.some.inj ((Option.mem_def.mp hf).symm.trans hown), by simp⟩)
  | [_], hsplit =>
    cases hsplit
    have hother : b'.covers (.ofText "a.c") = false := by decide +kernel
    rw [hother] at hlast
    cases hlast
  | _ :: _ :: before, hsplit => simp at hsplit

end Linter

end ComplexityLint
