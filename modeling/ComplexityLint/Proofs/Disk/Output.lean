import ComplexityLint.Proofs.Disk.Walk
import ComplexityLint.Proofs.Linter.Sink
import ComplexityLint.Disk.Process
import ComplexityLint.Shell.Run

/-!
What becomes of the analyzer's standard output. The log is made empty before the analyzer starts,
and then nothing that the analyzer says is written to it: however the analyzer goes on, its output
is never seen (`lint_mute`), and if it leaves the log alone, the log stays empty and nothing is
found (`log_of_course`).
-/

namespace ComplexityLint

deriving instance DecidableEq for Ending

/-- An ending without what was said on the standard output. -/
def Ending.mute (e : Ending) : Ending := { e with output := .empty }

/-- Programs that say nothing on the standard output, and do the same otherwise. -/
def Spawn.mute (spawn : Spawn) : Spawn := fun d program args => (spawn d program args).map .mute

namespace Disk

/-- Starts the analyzer on a disk on which its log was made. -/
def start (spawn : Spawn) (c : Command) (fresh : Disk) : Except Refusal Ending :=
  if holdsZero c then .error .zeroInArgument
  else match fresh.enter c.dir with
    | .error r => .error r
    | .ok inside => spawn inside c.program c.args

theorem run_eq (spawn : Spawn) (c : Command) (d : Disk) :
    run spawn c d = match d.write c.log .empty with
      | .error r => (.error (.file c.log r.message), d)
      | .ok fresh => match start spawn c fresh with
        | .error r => (.error (.analyzer c.program r.message), fresh)
        | .ok e => (.ok ⟨e.code, e.complaint.lossy⟩, { e.disk with here := d.here }) := by
  unfold run
  cases d.write c.log .empty with
  | error r => rfl
  | ok fresh =>
    cases hzero : holdsZero c with
    | true => simp [start, hzero, bind, Except.bind, throw, throwThe, MonadExceptOf.throw]
    | false =>
      simp only [start, hzero, bind, Except.bind]
      cases fresh.enter c.dir with
      | error r => rfl
      | ok inside => cases spawn inside c.program c.args <;> rfl

theorem start_mute (spawn : Spawn) (c : Command) (fresh : Disk) :
    start spawn.mute c fresh = (start spawn c fresh).map .mute := by
  unfold start
  split
  · rfl
  · cases fresh.enter c.dir <;> rfl

theorem run_mute (spawn : Spawn) : run spawn.mute = run spawn := by
  funext c d
  rw [run_eq, run_eq]
  cases d.write c.log .empty with
  | error r => rfl
  | ok fresh =>
    dsimp only
    rw [start_mute]
    cases start spawn c fresh <;> rfl

theorem host_mute (spawn : Spawn) : host spawn.mute = host spawn := by
  unfold host
  rw [run_mute]

theorem pathExists_of_clear {spawn : Spawn} {log : Path} {d d' : Disk}
    (h : (host spawn).clear log d = (.ok (), d')) : d'.pathExists log = false := by
  unfold Host.clear at h
  cases hex : d.pathExists log with
  | false =>
    simp only [host, hex, Bool.false_eq_true, if_false, Prod.mk.injEq, true_and] at h
    rwa [← h]
  | true =>
    cases hremove : d.remove log with
    | error f => simp [host, hex, hremove] at h
    | ok d₁ =>
      simp only [host, hex, hremove, if_true, Prod.mk.injEq, true_and] at h
      rw [← h]
      exact pathExists_of_remove hremove

/-- The course of a job in which the analyzer runs to its end. -/
structure Course (spawn : Spawn) (j : Job) (d : Disk) where
  /-- The log directory is there. -/
  prepared : Disk
  /-- The log of an older run is not. -/
  cleared : Disk
  /-- The log is made. -/
  fresh : Disk
  ending : Ending
  prepare : d.makeDirs j.logDir = (.ok (), prepared)
  clear : (host spawn).clear j.command.log prepared = (.ok (), cleared)
  create : cleared.write j.command.log .empty = .ok fresh
  start : start spawn j.command fresh = .ok ending

/-- A job that does not fail has run its course. -/
theorem exists_course {spawn : Spawn} {j : Job} {d : Disk}
    (h : ∀ f, ((host spawn).serve j d).reply ≠ .failed f) : Nonempty (Course spawn j d) := by
  unfold Host.serve at h
  rcases hdir : d.makeDirs j.logDir with ⟨r | _, prepared⟩
  · simp [host, hdir] at h
  have hensure : (host spawn).ensureDir j.logDir d = (.ok (), prepared) := by
    simp only [host, hdir]
  rcases hclear : (host spawn).clear j.command.log prepared with ⟨f | _, cleared⟩
  · simp [hensure, hclear] at h
  simp only [hensure, hclear, Host.launch] at h
  have hrun : (host spawn).run j.command cleared = run spawn j.command cleared := rfl
  rw [hrun, run_eq] at h
  cases hcreate : cleared.write j.command.log .empty with
  | error r => simp [hcreate] at h
  | ok fresh =>
    cases hstart : start spawn j.command fresh with
    | error r => simp [hcreate, hstart] at h
    | ok e => exact ⟨⟨prepared, cleared, fresh, e, hdir, hclear, hcreate, hstart⟩⟩

namespace Course

variable {spawn : Spawn} {j : Job} {d : Disk} (r : Course spawn j d)

/-- The disk that the analyzer leaves, as the linter sees it. -/
def left : Disk := { r.ending.disk with here := r.cleared.here }

theorem look_fresh : r.fresh.look j.command.log = .ok (.file .empty false) :=
  look_of_write (pathExists_of_clear r.clear) r.create

/-- The reply is what stands in the log when the analyzer has ended. -/
theorem serve_eq : ((host spawn).serve j d).reply = (host spawn).logged j.command.log r.left ∧
    ((host spawn).serve j d).world = r.left := by
  have hensure : (host spawn).ensureDir j.logDir d = (.ok (), r.prepared) := by
    simp only [host, r.prepare]
  have hrun : (host spawn).run j.command r.cleared =
      (.ok ⟨r.ending.code, r.ending.complaint.lossy⟩, r.left) := by
    change run spawn j.command r.cleared = _
    rw [run_eq, r.create]
    simp only [r.start, left]
  simp only [Host.serve, hensure, r.clear, Host.launch, hrun, and_self]

/-- An analyzer that leaves its log alone leaves it empty. -/
theorem readLog_left (hlog : r.left.look j.command.log = r.fresh.look j.command.log) :
    r.left.readLog j.command.log = .ok "" := by
  rw [readLog, hlog, look_fresh]
  rfl

theorem logged_left (hlog : r.left.look j.command.log = r.fresh.look j.command.log) :
    (host spawn).logged j.command.log r.left = .report "" := by
  have hex : r.left.pathExists j.command.log = true := by
    rw [pathExists, hlog, look_fresh]
    rfl
  simp only [Host.logged, host, hex, readLog_left r hlog]
  rfl

end Course

end Disk

namespace Linter

open Disk (Course host)

/-- A lint that ends well has run the course of its job. -/
theorem exists_course_of_lint {spawn : Spawn} {l : Linter} {p : Path} {d : Disk} {b : Batch}
    (hb : (l.lint (host spawn) p d).result = .ok b) :
    ∃ j, l.job (host spawn) p d = .ok j ∧ Nonempty (Course spawn j d) := by
  rw [lint_eq] at hb
  cases hj : l.job (host spawn) p d with
  | error f => rw [hj] at hb; cases hb
  | ok j =>
    rw [hj] at hb
    refine ⟨j, rfl, Disk.exists_course fun f hf => ?_⟩
    dsimp only at hb
    rw [(conclude_eq_error_iff l).mpr hf] at hb
    cases hb

/-- **What the analyzer says is never seen.** -/
theorem lint_mute (l : Linter) (spawn : Spawn) (p : Path) (d : Disk) :
    l.lint (host spawn.mute) p d = l.lint (host spawn) p d := by rw [Disk.host_mute]

/-- **The log of an analyzer that says its report.** An analyzer that runs to its end, with any
code, and leaves the log alone, leaves an empty log, in which nothing is found. So the log holds what the
analyzer said, and the lint finds what is reported there, exactly if the analyzer said nothing. -/
theorem log_of_course {spawn : Spawn} {l : Linter} {p : Path} {d : Disk} {j : Job}
    (hj : l.job (host spawn) p d = .ok j) (r : Course spawn j d)
    (hlog : r.left.look j.command.log = r.fresh.look j.command.log) {said : String}
    (hsaid : r.ending.output = .text said) :
    let o := l.lint (host spawn) p d
    o.world.readLog j.command.log = .ok "" ∧ o.result = .ok [] ∧
      (o.world.readLog j.command.log = .ok said ∧ o.result = .ok (l.batch said) ↔
        said = "") := by
  intro o
  obtain ⟨hreply, hworld⟩ := r.serve_eq
  have hreports : l.reports (.lint (host spawn) p d) = [""] := by
    simp only [reports, hj, hreply, r.logged_left hlog, Reply.text?, Option.toList_some]
  have hread : o.world.readLog j.command.log = .ok "" := by
    change (l.lint (host spawn) p d).world.readLog _ = _
    rw [lint_eq, hj]
    dsimp only
    rw [world_conclude, hworld, r.readLog_left hlog]
  have hnothing : l.batch "" = [] := rfl
  have hresult : o.result = .ok [] := by
    rw [← hnothing]
    exact (lint_of_reports hreports).1
  refine ⟨hread, hresult, ?_⟩
  rw [hread, hresult, Except.ok.injEq, Except.ok.injEq]
  constructor
  · rintro ⟨hempty, -⟩
    exact hempty.symm
  · rintro rfl
    exact ⟨rfl, hnothing.symm⟩

/-- A file that holds a report on itself. -/
def ownReport : String := "-\n5 3 9 1 6 f@1-9@/w/a.c\n1 file analyzed"

def ownDisk : Disk where
  items := [(["w"], .directory), (["w", "a.c"], .file (.text ownReport) false)]

/-- A linter whose analyzer says what the file holds. -/
def showing : Linter :=
  strict.setConfig { strict.config with execution := { analyzer := "cat" } }

def showingJob : Job := showing.jobFor ⟨"/w/a.c"⟩ ⟨"/w"⟩ false

def showingCourse : Course Shell.spawn showingJob ownDisk :=
  let prepared : Disk := { items := ownDisk.items ++ [(["w", "log"], .directory)] }
  let log : Place × Item := (["w", "log", "a.log"], .file .empty false)
  { prepared := prepared
    cleared := prepared
    fresh := { items := prepared.items ++ [log] }
    ending :=
      { code := some 0
        output := .text ownReport
        disk := { items := prepared.items ++ [log], here := ["w"] } }
    prepare := by decide +kernel
    clear := by decide +kernel
    create := by decide +kernel
    start := by decide +kernel }

/-- What the analyzer said is not in the log, although it ran as it should. -/
theorem log_of_course_of_report :
    let o := showing.lint (host Shell.spawn) ⟨"/w/a.c"⟩ ownDisk
    showing.job (host Shell.spawn) ⟨"/w/a.c"⟩ ownDisk = .ok showingJob ∧
      showingCourse.left.look showingJob.command.log =
        showingCourse.fresh.look showingJob.command.log ∧
      showingCourse.ending.output = .text ownReport ∧
      ¬ (o.world.readLog showingJob.command.log = .ok ownReport ∧
        o.result = .ok (showing.batch ownReport)) := by
  intro o
  refine ⟨rfl, by decide +kernel, rfl, ?_⟩
  rintro ⟨hread, -⟩
  exact absurd hread (by decide +kernel)

/-- The log is empty, and nothing is found. -/
theorem log_of_course_of_cat :
    let o := showing.lint (host Shell.spawn) ⟨"/w/a.c"⟩ ownDisk
    o.world.readLog ⟨"/w/log/a.log"⟩ = .ok "" ∧ o.result = .ok [] := by
  intro o
  have hlog : showingCourse.left.look showingJob.command.log =
      showingCourse.fresh.look showingJob.command.log := by decide +kernel
  have hjob : showing.job (host Shell.spawn) ⟨"/w/a.c"⟩ ownDisk = .ok showingJob := rfl
  obtain ⟨hread, hresult, -⟩ := log_of_course hjob showingCourse hlog rfl
  exact ⟨hread, hresult⟩

end Linter

end ComplexityLint
