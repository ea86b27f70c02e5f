import ComplexityLint.Proofs.Disk.Writes
import ComplexityLint.Proofs.Linter.Memory
import ComplexityLint.Proofs.Linter.Refusal

/-!
The log of an older run. It is taken away before the analyzer starts, so nothing that a lint finds,
does or leaves depends on it: surroundings that differ in an old log only are the same from then on
(`logBlind_of_traceless`). This asks of the surroundings no more than that a file can be taken away
without a trace, which holds in memory and on a disk.
-/

namespace ComplexityLint

namespace Host

variable {σ : Type} (h : Host σ)

/-- What is left of some surroundings without the file at a path, if there is one. -/
inductive Without (p : Path) (v : σ) : σ → Prop
  | nothing (hnone : h.pathExists v p = false) : Without p v v
  | file {w : σ} (hthere : h.pathExists w p = true) (hfile : h.isDir w p = false)
    (hremove : h.remove p w = (.ok (), v)) : Without p v w

/-- Surroundings in which a lint goes on as if no older run had left a log. The state `v` is without
the log, and `w` and `w'` have any log or none. -/
def LogBlind : Prop :=
  ∀ (l : Linter) (p root : Path) (v w w' : σ), Project.rootFor? l.roots p = some root →
    let dir := root.join l.config.logDir
    let log := Project.logFile dir p
    h.Without log v w → h.Without log v w' →
    let o := l.lint h p w
    let o' := l.lint h p w'
    o.result = o'.result ∧ o.linter = o'.linter ∧ o.events = o'.events ∧
      (o.world = o'.world ∨
        ∃ f, o.result = .error f ∧ (h.Unlintable p w ∨ (h.ensureDir dir w).1 = .error f))

/-- Surroundings in which a file can be taken away without a trace. -/
structure Traceless : Prop where
  /-- Then it is gone. -/
  gone : ∀ {p : Path} {w v : σ}, h.isDir w p = false → h.remove p w = (.ok (), v) →
    h.pathExists v p = false
  /-- No directory goes with it. -/
  isDir : ∀ {p : Path} {w v : σ}, h.remove p w = (.ok (), v) → ∀ q, h.isDir v q = h.isDir w q
  /-- The directory of a log can be made with the log in it or without. -/
  ensureDir : ∀ {dir target log : Path} {w v : σ}, log = Project.logFile dir target →
    h.pathExists w log = true → h.isDir w log = false → h.remove log w = (.ok (), v) →
    (h.ensureDir dir w).1 = (h.ensureDir dir v).1 ∧
      ((h.ensureDir dir w).1 = .ok () →
        h.pathExists (h.ensureDir dir w).2 log = true ∧
        h.isDir (h.ensureDir dir w).2 log = false ∧
        h.remove log (h.ensureDir dir w).2 = (.ok (), (h.ensureDir dir v).2))

namespace Traceless

variable {h} (ht : h.Traceless) {dir target : Path} {v w w' : σ}
include ht

theorem isDir_of_without {log : Path} (hw : h.Without log v w) (q : Path) :
    h.isDir w q = h.isDir v q := by
  cases hw with
  | nothing => rfl
  | file hthere hfile hremove => exact (ht.isDir hremove q).symm

/-- With a log or without, its directory is made or not, and the log is taken away. -/
theorem clear_of_without (hw : h.Without (Project.logFile dir target) v w)
    (hgone : (h.ensureDir dir v).1 = .ok () →
      h.pathExists (h.ensureDir dir v).2 (Project.logFile dir target) = false) :
    (h.ensureDir dir w).1 = (h.ensureDir dir v).1 ∧
      ((h.ensureDir dir w).1 = .ok () →
        h.clear (Project.logFile dir target) (h.ensureDir dir w).2 =
          (.ok (), (h.ensureDir dir v).2)) := by
  cases hw with
  | nothing =>
    refine ⟨rfl, fun hok => ?_⟩
    rw [clear, hgone hok]
    rfl
  | file hthere hfile hremove =>
    obtain ⟨hsame, hcleared⟩ := ht.ensureDir rfl hthere hfile hremove
    refine ⟨hsame, fun hok => ?_⟩
    obtain ⟨hthere', -, hremove'⟩ := hcleared hok
    rw [clear, hthere', if_pos rfl, hremove']

/-- Where there was a log, it is gone once it was taken away. -/
theorem gone_of_file (hthere : h.pathExists w (Project.logFile dir target) = true)
    (hfile : h.isDir w (Project.logFile dir target) = false)
    (hremove : h.remove (Project.logFile dir target) w = (.ok (), v))
    (hok : (h.ensureDir dir v).1 = .ok ()) :
    h.pathExists (h.ensureDir dir v).2 (Project.logFile dir target) = false := by
  obtain ⟨hsame, hcleared⟩ := ht.ensureDir rfl hthere hfile hremove
  obtain ⟨-, hfile', hremove'⟩ := hcleared (hsame.trans hok)
  exact ht.gone hfile' hremove'

/-- Jobs are served alike, with any log or none: they fail alike, before the log is looked for, or
go on alike, after it was taken away. -/
theorem serve_of_without {j : Job} (hlog : j.command.log = Project.logFile j.logDir j.target)
    (hw : h.Without j.command.log v w) (hw' : h.Without j.command.log v w') :
    h.serve j w = h.serve j w' ∨
      ∃ f, (h.ensureDir j.logDir w).1 = .error f ∧
        h.serve j w = ⟨.failed f, (h.ensureDir j.logDir w).2, []⟩ ∧
        h.serve j w' = ⟨.failed f, (h.ensureDir j.logDir w').2, []⟩ := by
  have hcase : w = w' ∨ ((h.ensureDir j.logDir v).1 = .ok () →
      h.pathExists (h.ensureDir j.logDir v).2 j.command.log = false) := by
    rw [hlog] at hw hw' ⊢
    cases hw with
    | file hthere hfile hremove => exact .inr (ht.gone_of_file hthere hfile hremove)
    | nothing =>
      cases hw' with
      | file hthere hfile hremove => exact .inr (ht.gone_of_file hthere hfile hremove)
      | nothing => exact .inl rfl
  rcases hcase with rfl | hgone
  · exact .inl rfl
  rw [hlog] at hw hw' hgone
  obtain ⟨hdir, hclear⟩ := ht.clear_of_without hw hgone
  obtain ⟨hdir', hclear'⟩ := ht.clear_of_without hw' hgone
  cases hv : (h.ensureDir j.logDir v).1 with
  | error f =>
    rw [hv] at hdir hdir'
    exact .inr ⟨f, hdir, h.serve_of_ensureDir hdir, h.serve_of_ensureDir hdir'⟩
  | ok =>
    rw [hv] at hdir hdir'
    rw [← hlog] at hclear hclear'
    exact .inl ((h.serve_of_clear hdir (hclear hdir)).trans
      (h.serve_of_clear hdir' (hclear' hdir')).symm)

end Traceless

end Host

/-- **An old log makes no difference** in surroundings in which a file can be taken away without a
trace, whatever the analyzer does. -/
theorem logBlind_of_traceless {σ : Type} {h : Host σ} (ht : h.Traceless) : h.LogBlind := by
  intro l p root v w w' hroot dir log hw hw' o o'
  have hdirs : h.isDir w p = h.isDir w' p := by
    rw [ht.isDir_of_without hw, ht.isDir_of_without hw']
  have hjobs : l.job h p w = l.job h p w' := by simp only [Linter.job, hdirs]
  have ho : o = l.lint h p w := rfl
  have ho' : o' = l.lint h p w' := rfl
  rw [Linter.lint_eq] at ho ho'
  cases hj : l.job h p w with
  | error f =>
    rw [← hjobs, hj] at ho'
    rw [hj] at ho
    refine ⟨by rw [ho, ho']; rfl, by rw [ho, ho']; rfl, by rw [ho, ho']; rfl, .inr ⟨f, ?_, .inl ?_⟩⟩
    · rw [ho]
      rfl
    · -- there is a root, so the path itself was turned away
      by_contra hu
      have hin : ¬ l.Outside p := fun hout => by
        rw [Project.rootFor?_eq_none_iff.mpr hout] at hroot
        cases hroot
      obtain ⟨j, hj'⟩ := Linter.exists_job h l hu hin
      rw [hj] at hj'
      cases hj'
  | ok j =>
    rw [← hjobs, hj] at ho'
    rw [hj] at ho
    dsimp only at ho ho'
    obtain ⟨root', hroot', rfl, -⟩ := Linter.exists_root_of_job hj
    rw [hroot] at hroot'
    cases hroot'
    have hlog : (l.jobFor p root (h.isDir w p)).command.log = log := Linter.log_jobFor ..
    rw [← hlog] at hw hw'
    rcases ht.serve_of_without hlog hw hw' with hsame | ⟨f, hdir, hs, hs'⟩
    · rw [hsame, ← ho'] at ho
      rw [ho]
      exact ⟨rfl, rfl, rfl, .inl rfl⟩
    · rw [ho, ho', hs, hs']
      exact ⟨rfl, rfl, rfl, .inr ⟨f, rfl, .inr hdir⟩⟩

/-! ### Memory -/

namespace Memory

theorem ensureDir_eq (dir : Path) (m : Memory) :
    host.ensureDir dir m = if holds m.sealedDirs dir then (.error (.file dir "ensure_dir denied"), m)
      else (.ok (), m.addDir dir) := rfl

/-- A log is another path than its directory. -/
theorem logFile_not_same (dir target : Path) : (Project.logFile dir target).same dir = false := by
  refine Bool.eq_false_iff.mpr fun h => ?_
  rw [Path.same_iff, Project.components_logFile] at h
  simpa using congrArg List.length h

theorem host_traceless (run : Command → Memory → Except Fault Exit × Memory) :
    (host.withRun run).Traceless where
  gone := by
    intro p m m' hfile hremove
    obtain ⟨-, -, rfl⟩ := remove_eq_ok_iff.mp hremove
    change holds m.dirs p = false at hfile
    change ((file? _ p).isSome || holds m.dirs p) = false
    rw [file?_erase, Path.same_refl, hfile]
    rfl
  isDir := by
    intro p m m' hremove q
    obtain ⟨-, -, rfl⟩ := remove_eq_ok_iff.mp hremove
    rfl
  ensureDir := by
    intro dir target log m m' hlog hthere hfile hremove
    obtain ⟨hpinned, hsome, rfl⟩ := remove_eq_ok_iff.mp hremove
    change holds m.dirs log = false at hfile
    change (host.ensureDir dir m).1 = (host.ensureDir dir (m.erase log)).1 ∧
      ((host.ensureDir dir m).1 = .ok () → host.pathExists (host.ensureDir dir m).2 log = true ∧
        holds (host.ensureDir dir m).2.dirs log = false ∧
        host.remove log (host.ensureDir dir m).2 =
          (.ok (), (host.ensureDir dir (m.erase log)).2))
    cases hsealed : holds m.sealedDirs dir with
    | true =>
      have hdir : host.ensureDir dir m = (.error (.file dir "ensure_dir denied"), m) := by
        rw [ensureDir_eq, if_pos hsealed]
      have hdir' : (host.ensureDir dir (m.erase log)).1 =
          .error (.file dir "ensure_dir denied") := by
        rw [ensureDir_eq, if_pos (show holds (m.erase log).sealedDirs dir = true from hsealed)]
      rw [hdir, hdir']
      exact ⟨rfl, nofun⟩
    | false =>
      have hopen : ¬ holds m.sealedDirs dir = true := by simp [hsealed]
      have hdir : host.ensureDir dir m = (.ok (), m.addDir dir) := by
        rw [ensureDir_eq, if_neg hopen]
      have hdir' : host.ensureDir dir (m.erase log) = (.ok (), (m.erase log).addDir dir) := by
        rw [ensureDir_eq, if_neg (show ¬ holds (m.erase log).sealedDirs dir = true from hopen)]
      rw [hdir, hdir']
      refine ⟨rfl, fun _ => ⟨?_, ?_, ?_⟩⟩
      · change (((m.addDir dir).file? log).isSome || _) = true
        rw [file?_addDir, hsome]
        rfl
      · rw [holds_addDir, hfile, hlog, logFile_not_same]
        rfl
      · refine remove_eq_ok_iff.mpr ⟨?_, ?_, erase_addDir dir log m⟩
        · rw [pinned_addDir, hpinned]
        · rw [file?_addDir, hsome]

end Memory

/-! ### Disks -/

namespace Disk

variable {d d' : Disk} {p : Path}

section Host

variable {spawn : Spawn} {run : Command → Disk → Except Fault Exit × Disk}

theorem remove_host_eq_ok_iff :
    ((host spawn).withRun run).remove p d = (.ok (), d') ↔ d.remove p = .ok d' := by
  simp only [host, Host.withRun]
  cases d.remove p <;> simp

theorem ensureDir_host_of_makeDirs (h : d.makeDirs p = (.ok (), d')) :
    ((host spawn).withRun run).ensureDir p d = (.ok (), d') := by
  simp only [host, Host.withRun, h]

/-- A disk on which a file is made, with any content, differs from the one before in that file
only. -/
theorem without_of_write {c : Content} (hnone : d.pathExists p = false)
    (h : d.write p c = .ok d') : ((host spawn).withRun run).Without p d d' := by
  have hlook : d'.look p = .ok (.file c false) := look_of_write hnone h
  obtain ⟨place, hplace, hitem, hmade⟩ := place_of_write h
  have hempty := item?_of_not_pathExists hplace hnone
  have hput := hmade hempty
  have hlookup : d.items.lookup place = none := by
    rwa [item?, if_neg (ne_nil_of_item?_ne hitem)] at hempty
  have herase : d'.erase place = d := by
    have hkept : d.items.filter (·.1 ≠ place) = d.items :=
      List.filter_eq_self.mpr fun e he => decide_eq_true fun heq =>
        absurd (List.lookup_eq_none_iff.mp hlookup e he) (by simp [heq])
    rw [hput, put, hlookup, if_neg (by simp), erase, List.filter_append, hkept,
      List.filter_cons_of_neg (by simp), List.filter_nil, List.append_nil]
  have hremove : d'.remove p = .ok d := by
    have hthere : d'.item? place = some (.file c false) := by
      rw [hput, item?_put (ne_nil_of_item?_ne hitem), if_pos rfl]
    have hplace' : d'.locateEntry p = .ok place := by
      rw [hput]
      exact locateEntry_of_locate ((keeps_put hitem).walk hplace)
    rw [remove, hplace']
    simp only [bind, Except.bind, hthere, endsWithSlash_of_write h, herase]
    rfl
  refine .file ?_ ?_ (remove_host_eq_ok_iff.mpr hremove)
  · change (d'.look p).isOk = true
    rw [hlook]
    rfl
  · change d'.isDir p = false
    rw [isDir, hlook]

end Host

theorem host_traceless (spawn : Spawn) (run : Command → Disk → Except Fault Exit × Disk) :
    ((host spawn).withRun run).Traceless where
  gone _ hremove := pathExists_of_remove (remove_host_eq_ok_iff.mp hremove)
  isDir hremove := (writesOnly_remove (remove_host_eq_ok_iff.mp hremove)).isDir
  ensureDir := by
    intro dir target log d d' hlog hthere hfile hremove
    have hremoved : d.remove log = .ok d' := remove_host_eq_ok_iff.mp hremove
    obtain ⟨place, hplace, -, -⟩ := place_of_remove hremoved
    have hplace' := (writesOnly_remove hremoved).locate_iff.mpr hplace
    -- the log has a place on both disks, so its directory is there
    have hslash := (Project.plain_logName target).slash
    rw [hlog, Project.logFile_eq] at hplace hplace'
    rw [ensureDir_host_of_makeDirs (makeDirs_of_locate_join hslash hplace),
      ensureDir_host_of_makeDirs (makeDirs_of_locate_join hslash hplace')]
    exact ⟨rfl, fun _ => ⟨hthere, hfile, hremove⟩⟩

end Disk

namespace Linter

/-- **No lint sees the log of an older run**, in memory or on a disk, whatever the analyzer does:
what it finds, what it learns, what it does and publishes and what it leaves are the same with any
log or none at the path of its own log, unless it fails before it comes to the log. -/
theorem lint_of_old_log :
    (∀ run, (Memory.host.withRun run).LogBlind) ∧
      ∀ spawn run, ((Disk.host spawn).withRun run).LogBlind :=
  ⟨fun run => logBlind_of_traceless (Memory.host_traceless run),
    fun spawn run => logBlind_of_traceless (Disk.host_traceless spawn run)⟩

/-- A report of an older run is taken away unread by a run that leaves none. -/
theorem lint_of_old_log_of_silent_run :
    let clean : Disk :=
      { items := [(["w"], .directory), (["w", "a.c"], .file .empty false), (["w", "log"], .directory)] }
    let old : Disk :=
      { items := clean.items ++ [(["w", "log", "a.log"], .file (.text ownReport) false)] }
    let h := (Disk.host fun _ _ _ => .error .noProgram).withRun fun _ d => (.ok ⟨some 0, ""⟩, d)
    let o := strict.lint h ⟨"/w/a.c"⟩ old
    o.result = .ok [] ∧ Event.publications o.events = [] ∧ o.world = clean := by
  intro clean old h o
  let o' := strict.lint h ⟨"/w/a.c"⟩ clean
  have hresult : o'.result = .ok [] := by decide +kernel
  have hworld : o'.world = clean := by decide +kernel
  have hpubs : Event.publications o'.events = [] := by decide +kernel
  have hmade : clean.write ⟨"/w/log/a.log"⟩ (.text ownReport) = .ok old := by decide +kernel
  have hlog : h.Without ⟨"/w/log/a.log"⟩ clean old :=
    Disk.without_of_write (by decide +kernel) hmade
  obtain ⟨hsame, -, hevents, hworlds⟩ := lint_of_old_log.2 _ _ strict ⟨"/w/a.c"⟩ ⟨"/w"⟩ clean old clean
    (by decide +kernel) hlog (.nothing (by decide +kernel))
  have hok : o.result = .ok [] := hsame.trans hresult
  refine ⟨hok, (congrArg Event.publications hevents).trans hpubs, ?_⟩
  rcases hworlds with heq | ⟨f, hf, -⟩
  · exact heq.trans hworld
  · cases hok.symm.trans hf

end Linter

end ComplexityLint
