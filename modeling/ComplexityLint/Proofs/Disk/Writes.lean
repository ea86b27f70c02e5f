import ComplexityLint.Proofs.Disk.Directories
import ComplexityLint.Proofs.Disk.Output
import ComplexityLint.Proofs.Project.LogFile

/-!
Disks on which little was written. One file was written or removed (`WritesOnly`), or a directory was
made for a log before that (`Changes`): all else is where it was, and so is every file that can be
analyzed, since it is called otherwise than a log (`Changes.look_source`).
-/

namespace ComplexityLint.Disk

variable {d d' : Disk} {p dir log : Path} {place q : Place} {i : Item}

/-- Nothing but the file at a path is another. -/
structure WritesOnly (log : Path) (d d' : Disk) : Prop where
  here : d'.here = d.here
  directories : ∀ q, d'.item? q = some .directory ↔ d.item? q = some .directory
  others : ∀ q, d.locate log ≠ .ok q → d'.item? q = d.item? q

namespace WritesOnly

theorem refl (log : Path) (d : Disk) : WritesOnly log d d := ⟨rfl, fun _ => .rfl, fun _ _ => rfl⟩

theorem keeps (h : WritesOnly log d d') : Keeps d d' := ⟨h.here, fun q => (h.directories q).mpr⟩

/-- All paths lead where they led. -/
theorem locate_iff (h : WritesOnly log d d') : d'.locate p = .ok q ↔ d.locate p = .ok q := by
  have hback : Keeps d' d := ⟨h.here.symm, fun q => (h.directories q).mp⟩
  exact ⟨hback.walk, h.keeps.walk⟩

/-- A path leads to a directory exactly if it did. -/
theorem isDir (h : WritesOnly log d d') (p : Path) : d'.isDir p = d.isDir p := by
  rw [Bool.eq_iff_iff, isDir_eq_true_iff, isDir_eq_true_iff]
  simp only [h.locate_iff, h.directories]

theorem trans {d'' : Disk} (h : WritesOnly log d d') (h' : WritesOnly log d' d'') :
    WritesOnly log d d'' := by
  refine ⟨h'.here.trans h.here, fun q => (h'.directories q).trans (h.directories q), fun q hq => ?_⟩
  have hq' : d'.locate log ≠ .ok q := fun heq => hq (h.locate_iff.mp heq)
  rw [h'.others q hq', h.others q hq]

end WritesOnly

theorem writesOnly_put (hplace : d.locate log = .ok place) (hitem : d.item? place ≠ some .directory)
    (hi : i ≠ .directory) : WritesOnly log d (d.put place i) := by
  have hput := fun q => item?_put (d := d) (i := i) (q := q) (ne_nil_of_item?_ne hitem)
  refine ⟨(keeps_put hitem).here, fun q => ?_, fun q hq => ?_⟩
  · rw [hput]
    split
    · rename_i heq
      simp [hi, heq, hitem]
    · exact .rfl
  · rw [hput, if_neg fun heq : q = place => hq (heq ▸ hplace)]

theorem writesOnly_write {c : Content} (h : d.write log c = .ok d') : WritesOnly log d d' := by
  obtain ⟨place, hplace, hitem, -⟩ := place_of_write h
  have hslash := endsWithSlash_of_write h
  unfold write at h
  rw [locateEntry_of_locate hplace, hslash] at h
  simp only [bind, Except.bind, Bool.false_eq_true, if_false] at h
  split at h
  · cases h
  · cases h
    exact .refl log d
  · cases h
    exact writesOnly_put hplace hitem nofun
  · cases h
    exact writesOnly_put hplace hitem nofun

theorem writesOnly_remove (h : d.remove log = .ok d') : WritesOnly log d d' := by
  obtain ⟨place, hplace, hitem, rfl⟩ := place_of_remove h
  have herase := fun q => item?_erase (d := d) (q := q) (ne_nil_of_item?_ne hitem)
  refine ⟨rfl, fun q => ?_, fun q hq => ?_⟩
  · rw [herase]
    split
    · rename_i heq
      simp [heq, hitem]
    · exact .rfl
  · rw [herase, if_neg fun heq : q = place => hq (heq ▸ hplace)]

/-- An analyzer that writes nothing but its log writes nothing but its log when it is run. -/
theorem writesOnly_run {spawn : Spawn} {c : Command} {d : Disk}
    (hspawn : ∀ fresh e, start spawn c fresh = .ok e →
      WritesOnly c.log fresh { e.disk with here := fresh.here }) :
    WritesOnly c.log d (run spawn c d).2 := by
  rw [run_eq]
  cases hwrite : d.write c.log .empty with
  | error r => exact .refl c.log d
  | ok fresh =>
    have hfresh := writesOnly_write hwrite
    dsimp only
    cases hstart : start spawn c fresh with
    | error r => exact hfresh
    | ok e =>
      have hend := hfresh.trans (hspawn fresh e hstart)
      rwa [hfresh.here] at hend

/-- An analyzer that does nothing at all. -/
def idle : Spawn := fun d _ _ => .ok { code := some 0, disk := d }

theorem writesOnly_run_idle (c : Command) (d : Disk) : WritesOnly c.log d (run idle c d).2 := by
  refine writesOnly_run fun fresh e he => ?_
  have hself : { e.disk with here := fresh.here } = fresh := by
    unfold start at he
    split at he
    · cases he
    · split at he
      · cases he
      · rename_i inside henter
        cases he
        obtain ⟨place, -, henter⟩ := bind_eq_ok_iff.mp henter
        split at henter
        · cases henter
        · cases henter
          rfl
        · cases henter
  rw [hself]
  exact .refl c.log fresh

/-- A disk on which a log directory may have been made and a log written or removed. -/
structure Changes (dir log : Path) (d d' : Disk) : Prop where
  keeps : Keeps d d'
  items : ∀ q, d'.item? q = d.item? q ∨
    (d'.locate log = .ok q ∧ d.item? q ≠ some .directory ∧ d'.item? q ≠ some .directory) ∨
    (d.item? q = none ∧ d'.item? q = some .directory ∧ ∃ a, Above dir a ∧ d'.locate a = .ok q)

theorem changes_of_made {d₁ : Disk} (h : Made dir d d₁) (h' : WritesOnly log d₁ d') :
    Changes dir log d d' := by
  refine ⟨h.keeps.trans h'.keeps, fun q => ?_⟩
  by_cases hq : d₁.locate log = .ok q
  · by_cases hdir : d₁.item? q = some .directory
    · -- a directory at the path of the log stays, and may have been made
      have hdir' := (h'.directories q).mpr hdir
      rcases h.items q with heq | ⟨hnone, -, a, ha, hq'⟩
      · exact .inl (by rw [hdir', ← heq, hdir])
      · exact .inr (.inr ⟨hnone, hdir', a, ha, h'.keeps.walk hq'⟩)
    · refine .inr (.inl ⟨h'.keeps.walk hq, fun hd => hdir (h.keeps.directories q hd), fun hd => ?_⟩)
      exact hdir ((h'.directories q).mp hd)
  · rw [h'.others q hq]
    refine (h.items q).imp_right fun ⟨hnone, hdir, a, ha, hq'⟩ => .inr ⟨hnone, hdir, a, ha, ?_⟩
    exact h'.keeps.walk hq'

theorem locate_of_look (h : d.look p = .ok i) :
    ∃ place, d.locate p = .ok place ∧ d.item? place = some i := by
  unfold look at h
  obtain ⟨place, hplace, h⟩ := bind_eq_ok_iff.mp h
  refine ⟨place, hplace, ?_⟩
  split at h
  · cases h
  · rename_i hitem
    cases h
    exact hitem

/-- **What is not at the place of the log is found as before.** -/
theorem Changes.look (h : Changes dir log d d') (hp : d.look p = .ok i)
    (hother : ∀ q, d.locate p = .ok q → d'.locate log ≠ .ok q) : d'.look p = .ok i := by
  obtain ⟨place, hplace, hitem⟩ := locate_of_look hp
  rw [look_of_locate (h.keeps.walk hplace)]
  rcases h.items place with heq | ⟨hlog, -, -⟩ | ⟨hnone, -, -⟩
  · rw [heq, hitem]
  · exact absurd hlog (hother place hplace)
  · rw [hitem] at hnone
    cases hnone

/-- A path that ends with a name leads to a place of this name, if not to a directory. -/
theorem getLast?_of_locate {n : List Char} (hn : p.fileName? = some n)
    (hp : d.locate p = .ok place) (hfile : d.item? place ≠ some .directory) :
    place.getLast? = some (String.ofList n) := by
  obtain ⟨init, last, hsegments⟩ : ∃ init last, p.segments = init ++ [last] :=
    ((List.eq_nil_or_concat p.segments).resolve_left (Text.pieces_ne_nil _)).imp fun init =>
      fun ⟨last, h⟩ => ⟨last, by rw [h, List.concat_eq_append]⟩
  obtain ⟨-, hwalk⟩ := walk_eq_ok_iff.mp hp
  rw [hsegments, List.foldlM_append] at hwalk
  obtain ⟨up, -, hwalk⟩ := bind_eq_ok_iff.mp hwalk
  rw [List.foldlM_cons] at hwalk
  obtain ⟨_, hstep, hend⟩ := bind_eq_ok_iff.mp hwalk
  cases hend
  have hup := item?_of_step hstep
  unfold step at hstep
  rw [hup] at hstep
  dsimp only at hstep
  split at hstep
  · -- nothing but a directory has a place of this kind
    cases hstep
    exact absurd hup hfile
  · rename_i hbusy
    have hname := Path.ofSegment?_of_fileName? hn hsegments hbusy
    rw [Component.ofSegment?, if_neg hbusy] at hname
    split at hname
    · cases hname
    · rename_i hdown
      cases hname
      rw [if_neg hdown] at hstep
      split at hstep
      · cases hstep
      · cases hstep
        rw [List.getLast?_concat]

/-- **A file that can be analyzed** is not at the place of a log. -/
theorem Changes.look_source {target : Path} (h : Changes dir (Project.logFile dir target) d d')
    (hsource : Project.isSource p = true) (hfile : d.isDir p = false) (hp : d.look p = .ok i) :
    d'.look p = .ok i := by
  obtain ⟨place, hplace, hitem⟩ := locate_of_look hp
  have hthere : d.item? place ≠ some .directory := fun hdir => by
    rw [isDir_eq_true_iff.mpr ⟨place, hplace, hdir⟩] at hfile
    cases hfile
  obtain ⟨n, hn⟩ : ∃ n, p.fileName? = some n := by
    cases hn : p.fileName? with
    | some n => exact ⟨n, rfl⟩
    | none => simp [Project.isSource, Path.extension?, hn] at hsource
  rw [look_of_locate (h.keeps.walk hplace)]
  rcases h.items place with heq | ⟨hlog, -, hdir'⟩ | ⟨hnone, -, -⟩
  · rw [heq, hitem]
  · -- the place would have the name of the log and that of the file
    have hname := getLast?_of_locate hn hplace hthere
    have hname' := getLast?_of_locate (Project.fileName?_logFile dir target) hlog hdir'
    rw [hname, Option.some.injEq, String.ofList_inj] at hname'
    refine absurd ?_ (Project.fileName?_ne_of_isSource hsource dir target)
    rw [hn, Project.fileName?_logFile, hname']
  · rw [hitem] at hnone
    cases hnone

end ComplexityLint.Disk
