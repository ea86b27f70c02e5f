import ComplexityLint.Proofs.Disk.Writes
import ComplexityLint.Proofs.Linter.Memory
import ComplexityLint.Proofs.Linter.Refusal

/-!
What a lint leaves alone. With an analyzer that writes nothing but its log, a lint makes the log
directory and writes or removes the log, and all else stays as it was (`lint_frame`). The log is a
file of the log directory and never the file that is linted.
-/

namespace ComplexityLint

/-! ### Jobs -/

namespace Host

variable {σ : Type} (h : Host σ) {j : Job} {w : σ} {P : σ → Prop}

theorem world_launch (j : Job) (w : σ) : (h.launch j w).world = (h.run j.command w).2 := by
  rcases hrun : h.run j.command w with ⟨f | e, w'⟩ <;> simp [launch, hrun]

/-- What holds of the surroundings once the log directory was asked for, and is kept when the log is
removed and when the analyzer runs, holds in the end. -/
theorem world_of_serve (hdir : P (h.ensureDir j.logDir w).2)
    (hremove : ∀ v, P v → P (h.remove j.command.log v).2)
    (hrun : ∀ v, P v → P (h.run j.command v).2) : P (h.serve j w).world := by
  unfold serve
  rcases hensure : h.ensureDir j.logDir w with ⟨f | _, w₁⟩
  · rwa [hensure] at hdir
  rw [hensure] at hdir
  have hclear : P (h.clear j.command.log w₁).2 := by
    unfold clear
    -- a log that is not there is not removed
    split
    · exact hremove w₁ hdir
    · exact hdir
  dsimp only
  rcases hcleared : h.clear j.command.log w₁ with ⟨f | _, w₂⟩
  · rwa [hcleared] at hclear
  rw [hcleared] at hclear
  dsimp only
  rw [world_launch]
  exact hrun w₂ hclear

end Host

namespace Linter

theorem world_of_job_error {σ : Type} {h : Host σ} {l : Linter} {p : Path} {w : σ} {f : Fault}
    (hj : l.job h p w = .error f) : (l.lint h p w).world = w := by
  rw [(lint_of_job_error h l hj).1]
  rfl

theorem world_of_job {σ : Type} {h : Host σ} {l : Linter} {p : Path} {w : σ} {j : Job}
    (hj : l.job h p w = .ok j) : (l.lint h p w).world = (h.serve j w).world := by
  rw [lint_eq, hj]
  exact world_conclude l j _

end Linter

/-! ### Disks -/

namespace Disk

variable {d : Disk} {p : Path}

theorem changes_of_lint {spawn : Spawn} {run : Command → Disk → Except Fault Exit × Disk}
    (hrun : ∀ c d, WritesOnly c.log d (run c d).2) {l : Linter} {j : Job}
    (hj : l.job ((host spawn).withRun run) p d = .ok j) :
    Changes j.logDir j.command.log d (l.lint ((host spawn).withRun run) p d).world := by
  rw [Linter.world_of_job hj]
  have hmade : Made j.logDir d (((host spawn).withRun run).ensureDir j.logDir d).2 := by
    have hdirs := made_makeDirs j.logDir d
    simp only [Host.withRun, host]
    -- also when the directory cannot be made, those above it may have been
    split <;> rename_i heq <;> rw [heq] at hdirs <;> exact hdirs
  refine changes_of_made hmade (Host.world_of_serve _ (.refl ..) (fun v hv => ?_) fun v hv => ?_)
  · refine hv.trans ?_
    simp only [Host.withRun, host]
    split
    · exact writesOnly_remove ‹_›
    · exact .refl ..
  · exact hv.trans (hrun j.command v)

end Disk

/-! ### Memory -/

namespace Memory

variable {m m' : Memory} {dir log : Path}

/-- Nothing but the file at a path is another. -/
structure WritesOnly (log : Path) (m m' : Memory) : Prop where
  dirs : m'.dirs = m.dirs
  others : ∀ q, log.same q = false → m'.file? q = m.file? q

theorem WritesOnly.refl (log : Path) (m : Memory) : WritesOnly log m m := ⟨rfl, fun _ _ => rfl⟩

theorem WritesOnly.trans {m'' : Memory} (h : WritesOnly log m m') (h' : WritesOnly log m' m'') :
    WritesOnly log m m'' :=
  ⟨h'.dirs.trans h.dirs, fun q hq => (h'.others q hq).trans (h.others q hq)⟩

theorem writesOnly_remove (log : Path) (m : Memory) :
    WritesOnly log m (host.remove log m).2 := by
  simp only [host]
  split
  · exact .refl log m
  · split
    · exact .refl log m
    · exact ⟨rfl, fun q hq => (file?_erase log m q).trans (if_neg (by simp [hq]))⟩

/-- An analyzer that follows a script writes nothing but its log. -/
theorem writesOnly_run (c : Command) (m : Memory) : WritesOnly c.log m (host.run c m).2 := by
  simp only [host]
  split
  · exact .refl c.log m
  · dsimp only
    split
    · exact .refl c.log m
    · refine ⟨?_, fun q hq => by rw [file?_write, if_neg (by simp [hq])]⟩
      unfold write
      split <;> rfl

/-- A memory to which a log directory may have been added and in which a log may have been written
or removed. -/
structure Changes (dir log : Path) (m m' : Memory) : Prop where
  dirs : m'.dirs = m.dirs ∨ m'.dirs = m.dirs ++ [dir]
  others : ∀ q, log.same q = false → m'.file? q = m.file? q

theorem changes_of_lint {run : Command → Memory → Except Fault Exit × Memory}
    (hrun : ∀ c m, WritesOnly c.log m (run c m).2) {l : Linter} {p : Path} {j : Job}
    (hj : l.job (host.withRun run) p m = .ok j) :
    Changes j.logDir j.command.log m (l.lint (host.withRun run) p m).world := by
  rw [Linter.world_of_job hj]
  let m₁ := ((host.withRun run).ensureDir j.logDir m).2
  have hmade : (m₁.dirs = m.dirs ∨ m₁.dirs = m.dirs ++ [j.logDir]) ∧ m₁.files = m.files := by
    change ((host.ensureDir j.logDir m).2.dirs = _ ∨ (host.ensureDir j.logDir m).2.dirs = _) ∧
      (host.ensureDir j.logDir m).2.files = _
    simp only [host]
    split
    · exact ⟨.inl rfl, rfl⟩
    · unfold addDir
      split
      · exact ⟨.inl rfl, rfl⟩
      · exact ⟨.inr rfl, rfl⟩
  have hrest : WritesOnly j.command.log m₁ ((host.withRun run).serve j m).world :=
    Host.world_of_serve _ (.refl ..) (fun v hv => hv.trans (writesOnly_remove ..))
      fun v hv => hv.trans (hrun j.command v)
  refine ⟨by rw [hrest.dirs]; exact hmade.1, fun q hq => ?_⟩
  rw [hrest.others q hq, file?, file?, hmade.2]

end Memory

namespace Linter

/-- **What a lint leaves alone.**

* The log of any path in any directory is a file in this directory, and its name is something with
  the extension `log`.
* The log of a job is in the log directory of the configuration under the deepest root, and it is
  not the file that is linted.
* On a disk, with an analyzer that writes nothing but its log, a lint makes the log directory and
  what is missing above it, and writes or removes the log; all else is found as before, and so is
  the file that is linted.
* In memory it is the same, but nothing is made above the log directory. -/
theorem lint_frame (l : Linter) (p : Path) :
    (∀ dir target : Path, ∃ n,
      let log := Project.logFile dir target
      log.components = dir.components ++ [.name n] ∧
      (∃ up, log.parent? = some up ∧ up.same dir = true) ∧
      log.fileName? = some n ∧ n ∉ [[], ['.'], ['.', '.']] ∧
      log.extension? = some "log".toList) ∧
    (∀ {σ : Type} (h : Host σ) (w : σ) (j : Job), l.job h p w = .ok j →
      ∃ root, Project.rootFor? l.roots p = some root ∧ j.logDir = root.join l.config.logDir ∧
        j.command.log = Project.logFile j.logDir p ∧
        (h.isDir w p = false → j.command.log.same p = false)) ∧
    (∀ spawn run, (∀ c d, Disk.WritesOnly c.log d (run c d).2) → ∀ d : Disk,
      let h := (Disk.host spawn).withRun run
      let d' := (l.lint h p d).world
      (∀ f, l.job h p d = .error f → d' = d) ∧
      ∀ j, l.job h p d = .ok j →
        Disk.Changes j.logDir j.command.log d d' ∧
        (∀ q i, d.look q = .ok i →
          (∀ place, d.locate q = .ok place → d'.locate j.command.log ≠ .ok place) →
          d'.look q = .ok i) ∧
        (d.isDir p = false → ∀ i, d.look p = .ok i → d'.look p = .ok i)) ∧
    ∀ run, (∀ c m, Memory.WritesOnly c.log m (run c m).2) → ∀ m : Memory,
      let h := Memory.host.withRun run
      let m' := (l.lint h p m).world
      (∀ f, l.job h p m = .error f → m' = m) ∧
      ∀ j, l.job h p m = .ok j →
        Memory.Changes j.logDir j.command.log m m' ∧
        (h.isDir m p = false → m'.file? p = m.file? p) := by
  have hlog : ∀ {σ : Type} (h : Host σ) (w : σ) (j : Job), l.job h p w = .ok j →
      ∃ root, Project.rootFor? l.roots p = some root ∧ j.logDir = root.join l.config.logDir ∧
        j.command.log = Project.logFile j.logDir p ∧
        (h.isDir w p = false → j.command.log.same p = false) := fun h w j hj => by
    obtain ⟨root, hroot, rfl, hsource⟩ := exists_root_of_job hj
    refine ⟨root, hroot, rfl, log_jobFor .., fun hfile => ?_⟩
    rw [log_jobFor]
    exact Project.logFile_ne_of_isSource (hsource hfile) _ p
  refine ⟨fun dir target => ?_, hlog, fun spawn run hrun d => ?_, fun run hrun m => ?_⟩
  · have hplain := Project.plain_logName target
    refine ⟨(Project.logName target).toList, Project.components_logFile dir target,
      Path.parent?_join dir hplain, Project.fileName?_logFile dir target, ?_,
      Project.extension?_logFile dir target⟩
    have hbusy := hplain.busy
    have hdown := hplain.down
    rw [not_or] at hbusy
    simp only [List.mem_cons, List.not_mem_nil, or_false, not_or]
    exact ⟨hbusy.1, hbusy.2, hdown⟩
  · refine ⟨fun f hj => world_of_job_error hj, fun j hj => ?_⟩
    have hchanges := Disk.changes_of_lint hrun hj
    refine ⟨hchanges, fun q i hq hother => hchanges.look hq hother, fun hfile i hi => ?_⟩
    obtain ⟨root, -, rfl, hsource⟩ := exists_root_of_job hj
    rw [log_jobFor] at hchanges
    exact hchanges.look_source (hsource hfile) hfile hi
  · refine ⟨fun f hj => world_of_job_error hj, fun j hj => ?_⟩
    have hchanges := Memory.changes_of_lint hrun hj
    obtain ⟨-, -, -, -, hother⟩ := hlog _ m j hj
    exact ⟨hchanges, fun hfile => hchanges.others p (hother hfile)⟩

/-- A log directory and a log are made, and the file that is linted is as it was. -/
theorem lint_frame_of_new_directory :
    let d' := (strict.lint (Disk.host Disk.idle) ⟨"/w/a.c"⟩ ownDisk).world
    Disk.Changes ⟨"/w/log"⟩ ⟨"/w/log/a.log"⟩ ownDisk d' ∧
      d'.look ⟨"/w/a.c"⟩ = .ok (.file (.text ownReport) false) ∧
      (⟨"/w/log/a.log"⟩ : Path).same ⟨"/w/a.c"⟩ = false ∧
      let m : Memory := { files := [(⟨"/w/a.c"⟩, "")], script := { report := some ownReport } }
      (strict.lint Memory.host ⟨"/w/a.c"⟩ m).world.file? ⟨"/w/a.c"⟩ = some "" := by
  intro d'
  have hjob : strict.job (Disk.host Disk.idle) ⟨"/w/a.c"⟩ ownDisk =
      .ok (strict.jobFor ⟨"/w/a.c"⟩ ⟨"/w"⟩ false) := rfl
  obtain ⟨-, hlog, hdisk, hmemory⟩ := lint_frame strict ⟨"/w/a.c"⟩
  obtain ⟨-, hserved⟩ := hdisk Disk.idle (Disk.run Disk.idle) Disk.writesOnly_run_idle ownDisk
  obtain ⟨hchanges, -, hsource⟩ := hserved _ hjob
  obtain ⟨-, -, -, -, hother⟩ := hlog (Disk.host Disk.idle) ownDisk _ hjob
  have hpath : (strict.jobFor ⟨"/w/a.c"⟩ ⟨"/w"⟩ false).command.log = ⟨"/w/log/a.log"⟩ := by
    decide +kernel
  have hdir : (strict.jobFor ⟨"/w/a.c"⟩ ⟨"/w"⟩ false).logDir = ⟨"/w/log"⟩ := by decide +kernel
  rw [hpath] at hchanges hother
  rw [hdir] at hchanges
  refine ⟨hchanges, hsource (by decide +kernel) _ (by decide +kernel), hother (by decide +kernel), ?_⟩
  intro m
  have hjob' : strict.job Memory.host ⟨"/w/a.c"⟩ m =
      .ok (strict.jobFor ⟨"/w/a.c"⟩ ⟨"/w"⟩ false) := rfl
  obtain ⟨-, hserved'⟩ := hmemory Memory.host.run Memory.writesOnly_run m
  have hsame := (hserved' _ hjob').2 rfl
  exact hsame.trans (by decide +kernel)

end Linter

end ComplexityLint
