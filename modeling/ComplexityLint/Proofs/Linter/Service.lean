import ComplexityLint.Linter.Basic

/-!
What a linter asks of its surroundings. Linting a path comes in two parts: the surroundings serve a
job, without the linter's memory (`Host.serve`), and the linter then concludes from their reply,
without the surroundings (`Linter.conclude`). `lint_eq` puts the two together.
-/

namespace ComplexityLint

/-- What the surroundings reply to a job. -/
inductive Reply
  | failed (f : Fault)
  /-- The analyzer left no log. -/
  | silent
  | report (text : String)

/-- A job that was served: the reply, the state of the surroundings, and what was seen. -/
structure Served (σ : Type) where
  reply : Reply
  world : σ
  events : List Event

namespace Host

variable {σ : Type} (h : Host σ)

/-- The same surroundings with another analyzer. -/
def withRun (run : Command → σ → Except Fault Exit × σ) : Host σ := { h with run := run }

/-- What the log of a finished run says. -/
def logged (log : Path) (w : σ) : Reply :=
  if !h.pathExists w log then .silent
  else match h.read w log with
    | .error f => .failed f
    | .ok text => .report text

/-- Takes away the log of an older run. -/
def clear (log : Path) (w : σ) : Except Fault Unit × σ :=
  if h.pathExists w log then h.remove log w else (.ok (), w)

/-- Runs the analyzer and looks for its log. -/
def launch (j : Job) (w : σ) : Served σ :=
  let started : List Event := [.noted (.running j.command), .ran j.command]
  match h.run j.command w with
  | (.error f, w) => ⟨.failed f, w, started⟩
  | (.ok e, w) =>
    let complaint : List Event := if e.success then [] else [.noted (.unsuccessful j.target e)]
    let missing : List Event :=
      if !h.pathExists w j.command.log then [.noted (.noLog j.command.log)] else []
    ⟨h.logged j.command.log w, w, started ++ complaint ++ missing⟩

/-- Serves a job: makes the directory, takes away the old log, runs the analyzer, reads the log. -/
def serve (j : Job) (w : σ) : Served σ :=
  match h.ensureDir j.logDir w with
  | (.error f, w) => ⟨.failed f, w, []⟩
  | (.ok (), w) =>
    match h.clear j.command.log w with
    | (.error f, w) => ⟨.failed f, w, []⟩
    | (.ok (), w) => h.launch j w

theorem serve_of_ensureDir {j : Job} {w : σ} {f : Fault}
    (hdir : (h.ensureDir j.logDir w).1 = .error f) :
    h.serve j w = ⟨.failed f, (h.ensureDir j.logDir w).2, []⟩ := by
  rw [serve, show h.ensureDir j.logDir w = (.error f, (h.ensureDir j.logDir w).2) from
    Prod.ext hdir rfl]

theorem serve_of_clear {j : Job} {w v : σ} (hdir : (h.ensureDir j.logDir w).1 = .ok ())
    (hclear : h.clear j.command.log (h.ensureDir j.logDir w).2 = (.ok (), v)) :
    h.serve j w = h.launch j v := by
  have hprepare : h.ensureDir j.logDir w = (.ok (), (h.ensureDir j.logDir w).2) :=
    Prod.ext hdir rfl
  rw [serve, hprepare]
  simp only [hclear]

end Host

namespace Linter

variable {σ : Type}

/-- What the linter makes of a job that was served. -/
def conclude (l : Linter) (j : Job) (s : Served σ) : Outcome σ (Except Fault Batch) :=
  match s.reply with
  | .failed f => l.refuse s.world s.events f
  | .silent => ⟨.ok [], l, s.world, s.events⟩
  | .report text =>
    let b := (l.ingest text).1
    let clearing := if !j.wide && !b.covers j.target then [.published j.target []] else []
    ⟨.ok b, (l.ingest text).2, s.world,
      s.events ++ .noted (ingestNote text b) :: publish b ++ clearing⟩

/-- The job of linting a path, or why there is none. -/
def job (h : Host σ) (l : Linter) (target : Path) (w : σ) : Except Fault Job :=
  if !h.isDir w target && !Project.isSource target then .error (.unsupported target)
  else match Project.rootFor? l.roots target with
    | none => .error (.noRoot target)
    | some root => .ok (l.jobFor target root (h.isDir w target))

theorem log_jobFor (l : Linter) (target root : Path) (wide : Bool) :
    (l.jobFor target root wide).command.log =
      Project.logFile (root.join l.config.logDir) target := by
  simp only [jobFor, Command.ofConfig]

/-- A job is that of the deepest root, and of a directory or a file that can be analyzed. -/
theorem exists_root_of_job {h : Host σ} {l : Linter} {target : Path} {w : σ} {j : Job}
    (hj : l.job h target w = .ok j) :
    ∃ root, Project.rootFor? l.roots target = some root ∧
      j = l.jobFor target root (h.isDir w target) ∧
      (h.isDir w target = false → Project.isSource target = true) := by
  unfold job at hj
  split at hj
  · cases hj
  · rename_i hcond
    split at hj
    · cases hj
    · rename_i root hroot
      refine ⟨root, hroot, (Except.ok.inj hj).symm, fun hfile => ?_⟩
      simpa [hfile] using hcond

theorem world_conclude (l : Linter) (j : Job) (s : Served σ) :
    (l.conclude j s).world = s.world := by
  unfold conclude
  split <;> rfl

theorem launch_eq (h : Host σ) (l : Linter) (j : Job) (w : σ) :
    l.launch h j w = l.conclude j (h.launch j w) := by
  rcases hrun : h.run j.command w with ⟨f | e, w'⟩
  · simp [launch, Host.launch, hrun, conclude]
  · cases hex : h.pathExists w' j.command.log with
    | false => simp [launch, Host.launch, hrun, finish, Host.logged, hex, conclude]
    | true =>
      cases hread : h.read w' j.command.log <;>
        simp [launch, Host.launch, hrun, finish, Host.logged, hex, hread, conclude]

theorem analyze_eq (h : Host σ) (l : Linter) (j : Job) (w : σ) :
    l.analyze h j w = l.conclude j (h.serve j w) := by
  rcases hdir : h.ensureDir j.logDir w with ⟨f | _, w'⟩
  · simp [analyze, Host.serve, hdir, conclude]
  · cases hex : h.pathExists w' j.command.log with
    | false => simp [analyze, Host.serve, Host.clear, hdir, hex, launch_eq]
    | true =>
      rcases hrem : h.remove j.command.log w' with ⟨f | _, w''⟩
      · simp [analyze, Host.serve, Host.clear, hdir, hex, hrem, conclude]
      · simp [analyze, Host.serve, Host.clear, hdir, hex, hrem, launch_eq]

/-- **A lint in two parts.** Without a job the path is refused at once. Otherwise the surroundings
serve the job and the linter concludes. -/
theorem lint_eq (h : Host σ) (l : Linter) (target : Path) (w : σ) :
    l.lint h target w = match l.job h target w with
      | .error f => l.refuse w [] f
      | .ok j => l.conclude j (h.serve j w) := by
  simp only [lint, job]
  cases hs : !h.isDir w target && !Project.isSource target with
  | true => rfl
  | false =>
    cases Project.rootFor? l.roots target with
    | none => rfl
    | some root => exact analyze_eq h l _ w

end Linter

end ComplexityLint
