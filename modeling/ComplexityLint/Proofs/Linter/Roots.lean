import ComplexityLint.Proofs.Linter.History
import ComplexityLint.Proofs.Path.Join
import ComplexityLint.Proofs.Project.Roots

/-!
The roots of a linter and where they put a job. Requests change the roots only by registering more of
them, whatever else they do (`roots_run`). A job is done in the root of its path, so its places, as
paths, do not depend on the order in which the roots were registered (`places_job_congr`).
-/

namespace ComplexityLint

/-- The directory of the logs, the log, and the directory in which the analyzer runs, each by its
steps. -/
def Job.places (j : Job) : List Component × List Component × List Component :=
  (j.logDir.components, j.command.log.components, j.command.dir.components)

namespace Linter

/-- The root that a request registers. -/
def Request.root? : Request → Option Path
  | addRoot root => some root
  | _ => none

/-! ### Registering roots -/

theorem foldl_addRoot (roots : List Path) (l : Linter) :
    roots.foldl addRoot l = { l with roots := roots.foldl Project.addRoot l.roots } := by
  induction roots generalizing l with
  | nil => rfl
  | cons root roots ih => exact ih (l.addRoot root)

theorem roots_perform (l : Linter) (r : Request) :
    (l.perform r).roots = r.root?.toList.foldl Project.addRoot l.roots := by
  cases r with
  | ingest text => rw [perform, learn, ingest_eq]; rfl
  | lint h p w => rw [perform, lint_linter]; rfl
  | readLogs h logs w => rw [perform, readLogs_linter, foldl_learn]; rfl
  | setConfig c => rfl
  | addRoot root => rfl

/-- **The roots after a run** are those before it and those that the run registers. -/
theorem roots_run (l : Linter) (rs : List Request) :
    (l.run rs).roots = (rs.filterMap Request.root?).foldl Project.addRoot l.roots := by
  induction rs generalizing l with
  | nil => rfl
  | cons r rs ih =>
    have hrest : (l.run (r :: rs)).roots = _ := ih (l.perform r)
    rw [hrest, roots_perform, List.filterMap_cons]
    cases r.root? <;> rfl

/-! ### The places of a job -/

theorem places_jobFor_congr (l : Linter) (p : Path) {root root' : Path} (wide : Bool)
    (h : root.same root' = true) :
    (l.jobFor p root wide).places = (l.jobFor p root' wide).places := by
  have hdir : (root.join l.config.logDir).same (root'.join l.config.logDir) = true :=
    Path.same_join h _
  have hlog : (Project.logFile (root.join l.config.logDir) p).same
      (Project.logFile (root'.join l.config.logDir) p) = true := Path.same_join hdir _
  rw [Path.same_iff] at h hdir hlog
  simp only [Job.places, log_jobFor, hlog]
  rw [jobFor, jobFor, hdir, Command.ofConfig, Command.ofConfig, h]

/-- Linters whose roots are the same paths do a job in the same places. -/
theorem places_job_congr {σ : Type} (h : Host σ) {l : Linter} {roots : List Path}
    (hroots : ∀ q : Path, l.roots.any q.same = roots.any q.same) (p : Path) (w : σ) :
    (l.job h p w).map Job.places = (({ l with roots := roots } : Linter).job h p w).map Job.places := by
  have hsteps := Project.rootFor?_congr hroots p
  unfold job
  split
  · rfl
  · cases hroot : Project.rootFor? l.roots p with
    | none =>
      rw [hroot, Option.map_none, eq_comm, Option.map_eq_none_iff] at hsteps
      rw [hsteps]
    | some root =>
      rw [hroot, Option.map_some, eq_comm, Option.map_eq_some_iff] at hsteps
      obtain ⟨root', hroot', hsame⟩ := hsteps
      rw [hroot']
      exact congrArg Except.ok (l.places_jobFor_congr p _ (Path.same_iff.mpr hsame.symm))

/-- **The root of a path.** After any requests the roots are pairwise unequal paths, and each is the
first spelling of its path among those that were registered, in that order. Of any roots, there is
none for a path exactly if the steps of no root begin those of the path; and if there is one, it is
above the path and below all others above it. As a path it is the same for any order of the roots. So
for whatever order in which the same roots are registered, a path is linted or refused alike, with the
log and the run in the same places. -/
theorem root_of_requests :
    (∀ (config : Config) (rs : List Request),
      let l := Linter.run { config := config } rs
      let calls := rs.filterMap Request.root?
      Project.Distinct l.roots ∧ l.roots.Sublist calls ∧
        ∀ p : Path, l.roots.find? p.same = calls.find? p.same) ∧
    (∀ (roots : List Path) (p : Path),
      (Project.rootFor? roots p = none ↔ ∀ r ∈ roots, ¬ r.components <+: p.components) ∧
      (∀ d, Project.rootFor? roots p = some d →
        d ∈ roots ∧ d.components <+: p.components ∧
          ∀ r ∈ roots, r.components <+: p.components → r.components <+: d.components) ∧
      ∀ roots', roots'.Perm roots →
        (Project.rootFor? roots' p).map (·.components) =
          (Project.rootFor? roots p).map (·.components)) ∧
    ∀ {σ : Type} (h : Host σ) (l : Linter) (p : Path) (w : σ) (calls calls' : List Path),
      calls'.Perm calls →
      ((calls'.foldl addRoot l).job h p w).map Job.places =
        ((calls.foldl addRoot l).job h p w).map Job.places := by
  refine ⟨fun config rs => ?_, fun roots p => ⟨Project.rootFor?_eq_none_iff, fun d hd => ?_,
    fun roots' hperm => ?_⟩, fun h l p w calls calls' hperm => ?_⟩
  · intro l calls
    have hroots : l.roots = calls.foldl Project.addRoot [] := roots_run _ rs
    rw [hroots]
    exact ⟨Project.foldl_addRoot_distinct .nil calls, Project.foldl_addRoot_sublist calls [],
      Project.find?_foldl_addRoot calls []⟩
  · obtain ⟨hregistered, habove, hbelow⟩ := Project.deepest_of_rootFor? hd
    exact ⟨hregistered, habove, hbelow⟩
  · exact Project.rootFor?_congr (fun q => hperm.any_eq) p
  · rw [foldl_addRoot, foldl_addRoot]
    refine places_job_congr h (fun q => ?_) p w
    rw [Project.any_foldl_addRoot, Project.any_foldl_addRoot, List.any_append, List.any_append,
      hperm.any_eq]

/-- Two ways to write one root: the one that comes first is kept, and the log is in the same place. -/
theorem root_of_requests_of_two_spellings :
    let calls : List Path := [⟨"/w"⟩, ⟨"/w/sub"⟩, ⟨"/w/./"⟩]
    let l := Linter.run {} (calls.map Request.addRoot)
    let l' := Linter.run {} (calls.reverse.map Request.addRoot)
    calls.reverse.Perm calls ∧ l.roots = [⟨"/w"⟩, ⟨"/w/sub"⟩] ∧ l'.roots = [⟨"/w/./"⟩, ⟨"/w/sub"⟩] ∧
      Project.rootFor? l'.roots ⟨"/w/a.c"⟩ = some ⟨"/w/./"⟩ ∧
      (l'.job Memory.host ⟨"/w/a.c"⟩ {}).map Job.places =
        (l.job Memory.host ⟨"/w/a.c"⟩ {}).map Job.places := by
  intro calls l l'
  have hperm : calls.reverse.Perm calls := calls.reverse_perm
  exact ⟨hperm, by decide +kernel, by decide +kernel, by decide +kernel,
    root_of_requests.2.2 Memory.host {} ⟨"/w/a.c"⟩ {} calls calls.reverse hperm⟩

end Linter

end ComplexityLint
