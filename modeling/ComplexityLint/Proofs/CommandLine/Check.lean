import ComplexityLint.CommandLine.Run
import ComplexityLint.Proofs.Linter.Refusal
import ComplexityLint.Proofs.Path.Join
import ComplexityLint.Shell.Run

/-!
The root of a check. The root that is taken by default is above the target, however the target is
written and whatever is on the disk, so a check that is given no root is never turned away for the
lack of one; one that is given a root is turned away exactly if the root is not above the target
(`root_of_check`).
-/

namespace ComplexityLint

/-- A text starts with the first letter of its first part. -/
theorem Text.head?_append {s : String} {c : Char} (hs : s.toList.head? = some c) (t : String) :
    (s ++ t).toList.head? = some c := by
  rw [String.toList_append, List.head?_append, hs]
  rfl

/-! ### Faults -/

namespace Fault

/-- The letter that a fault's text starts with. -/
def initial : Fault → Char
  | unsupported _ => 'U'
  | noRoot _ => 'N'
  | file _ _ => 'I'
  | config _ => 'C'
  | analyzer _ _ => 'F'
  | system _ => 'I'

theorem head?_message (f : Fault) : f.message.toList.head? = some f.initial := by
  cases f with
  | unsupported p =>
    show _ = some 'U'
    exact Text.head?_append (Text.head?_append (by decide) _) _
  | noRoot p =>
    show _ = some 'N'
    exact Text.head?_append (by decide) _
  | file p cause =>
    show _ = some 'I'
    exact Text.head?_append (Text.head?_append (Text.head?_append (by decide) _) _) _
  | config reason =>
    show _ = some 'C'
    exact Text.head?_append (by decide) _
  | analyzer program reason =>
    show _ = some 'F'
    exact Text.head?_append (Text.head?_append (Text.head?_append (by decide) _) _) _
  | system cause =>
    show _ = some 'I'
    exact Text.head?_append (by decide) _

theorem head?_trace (f : Fault) : f.trace.toList.head? = some f.initial := by
  have hmessage := f.head?_message
  unfold trace
  split
  · exact hmessage
  · exact Text.head?_append (Text.head?_append hmessage _) _

/-- The text of a path without a root is that of no other fault. -/
theorem exists_noRoot_of_trace {f : Fault} {q : Path} (h : f.trace = (noRoot q).trace) :
    ∃ q, f = .noRoot q := by
  have hletter : f.initial = 'N' := by
    have hhead := congrArg (·.toList.head?) h
    simp only [head?_trace, Option.some.injEq] at hhead
    exact hhead
  cases f with
  | noRoot p => exact ⟨p, rfl⟩
  | _ => simp [initial] at hletter

end Fault

namespace Config

theorem isRefusal_of_read {d : Disk} {document : Path} {f : Fault}
    (h : Config.read d document = .error f) : f.isRefusal = false := by
  unfold Config.read at h
  split at h
  · cases h; rfl
  · cases h; rfl
  · cases h
  · split at h
    · cases h; rfl
    · split at h
      · cases h; rfl
      · split at h
        · cases h; rfl
        · cases h

/-- The lack of a root is no reason for which a configuration cannot be loaded. -/
theorem isRefusal_of_load {d : Disk} {p : Path} {f : Fault} (h : Config.load d p = .error f) :
    f.isRefusal = false := by
  unfold Config.load at h
  split at h
  · cases h; rfl
  · dsimp only at h
    split at h
    · cases h
    · cases hdocument : Config.read d (Config.documentFor d p) with
      | ok config =>
        rw [hdocument] at h
        cases h
      | error g =>
        rw [hdocument] at h
        cases h
        exact isRefusal_of_read hdocument

end Config

/-- In surroundings that leave it to the linter to turn a path away, a path is without a root exactly
if it could be analyzed and lies under none of the roots. -/
theorem Linter.lint_noRoot_iff {σ : Type} {h : Host σ} (hn : h.NeverRefuses) (l : Linter) (p : Path)
    (w : σ) : (∃ q, (l.lint h p w).result = .error (.noRoot q)) ↔
      ¬ h.Unlintable p w ∧ l.Outside p := by
  by_cases hu : h.Unlintable p w
  · rw [(lint_of_job_error h l (job_of_unlintable h l hu)).1]
    simp [refuse, hu]
  · by_cases ho : l.Outside p
    · rw [(lint_of_job_error h l (job_of_outside h l hu ho)).1]
      simp [refuse, hu, ho]
    · obtain ⟨j, hj⟩ := exists_job h l hu ho
      refine iff_of_false ?_ fun hout => ho hout.2
      rintro ⟨q, hq⟩
      have hother := hn _ (lint_error_of_job_ok h l hj hq).1
      cases hother

namespace CommandLine

/-! ### What is said -/

/-- The first letter of a remark. -/
def Remark.initial? : Remark → Option Char
  | line text => text.toList.head?
  | elapsed => none

/-- A command says that there is no root for some path. -/
def Lost (reply : Reply) : Prop := ∃ q, errorLine (Fault.noRoot q).trace ∈ reply.remarks

theorem errorLine_injective : Function.Injective errorLine := by
  intro a b h
  have htext : "Error: " ++ a = "Error: " ++ b := Remark.line.inj h
  have hletters := congrArg String.toList htext
  rw [String.toList_append, String.toList_append, List.append_cancel_left_eq] at hletters
  exact String.toList_injective hletters

/-- No remark but one on an error starts like one. -/
theorem ne_errorLine {x : Remark} (hx : x.initial? ≠ some 'E') (reason : String) :
    x ≠ errorLine reason := by
  rintro rfl
  exact hx (Text.head?_append (by decide) reason)

theorem initial?_of_mem_journal {t : Terminal} {s : Settings} {es : List Event} {x : Remark}
    (hx : x ∈ journal t s es) : x.initial? ≠ some 'E' := by
  unfold journal at hx
  split at hx
  · cases hx
  · obtain ⟨n, -, rfl⟩ := List.mem_map.mp hx
    have hhead : (noteLine n).toList.head? = some 'D' ∨ (noteLine n).toList.head? = some ' ' := by
      unfold noteLine
      cases n.level with
      | debug => exact .inl (Text.head?_append (by decide) _)
      | warn => exact .inr (Text.head?_append (by decide) _)
    rcases hhead with hhead | hhead
    · rw [Remark.initial?, hhead]
      decide
    · rw [Remark.initial?, hhead]
      decide

theorem initial?_of_mem_timingRemarks {colours : Bool} {count : Nat} {x : Remark}
    (hx : x ∈ timingRemarks colours count) : x.initial? ≠ some 'E' := by
  simp only [timingRemarks, List.mem_cons, List.not_mem_nil, or_false] at hx
  rcases hx with rfl | rfl | rfl | rfl
  · decide
  · cases colours <;> decide
  · decide
  · have hhead : ("  Diagnostics:   " ++ toString count).toList.head? = some ' ' :=
      Text.head?_append (by decide) _
    rw [Remark.initial?, hhead]
    decide

/-! ### How a check ends -/

section Endings

variable {t : Terminal} {s : Settings} {es : List Event} {d : Disk}

theorem lost_abort_iff {reason : String} :
    Lost (abort t s es reason d) ↔ ∃ q, reason = (Fault.noRoot q).trace := by
  refine exists_congr fun q => ?_
  rw [abort, List.mem_append, List.mem_singleton, errorLine_injective.eq_iff]
  refine ⟨fun h => ?_, fun h => .inr h.symm⟩
  rcases h with hjournal | h
  · exact absurd rfl (ne_errorLine (initial?_of_mem_journal hjournal) _)
  · exact h.symm

theorem lost_abort_trace_iff {f : Fault} :
    Lost (abort t s es f.trace d) ↔ ∃ q, f = .noRoot q := by
  rw [lost_abort_iff]
  constructor
  · rintro ⟨q, hq⟩
    exact Fault.exists_noRoot_of_trace hq
  · rintro ⟨q, rfl⟩
    exact ⟨q, rfl⟩

/-- A reason with another first letter is another one. -/
theorem not_lost_abort {reason : String} (h : reason.toList.head? ≠ some 'N') :
    ¬ Lost (abort t s es reason d) := by
  rw [lost_abort_iff]
  rintro ⟨q, rfl⟩
  exact h (Fault.head?_trace _)

theorem not_lost_conclude {summary : Summary} {l : Linter} {b : Batch} {timing : List Remark}
    (htiming : ∀ x ∈ timing, x.initial? ≠ some 'E') :
    ¬ Lost (conclude t s summary l b es timing d) := by
  rintro ⟨q, hq⟩
  simp only [conclude, List.mem_append] at hq
  rcases hq with (hjournal | htime) | hverdict
  · exact ne_errorLine (initial?_of_mem_journal hjournal) _ rfl
  · exact ne_errorLine (htiming _ htime) _ rfl
  · cases hgrade : s.failOn with
    | none => simp [hgrade] at hverdict
    | some grade =>
      rw [hgrade] at hverdict
      by_cases hgood : failing s b = []
      · simp [hgood] at hverdict
      · simp only [hgood, if_false, List.mem_singleton] at hverdict
        have hreason := errorLine_injective hverdict
        have hhead : (Fault.noRoot q).trace.toList.head? = some 'F' := by
          rw [hreason]
          exact Text.head?_append (Text.head?_append (Text.head?_append (Text.head?_append
            (by decide) _) _) _) _
        rw [Fault.head?_trace] at hhead
        cases hhead

end Endings

/-- The linter of a check, with its only root. -/
def checkerOf (c : Config) (limits : Overrides) (base : Path) : Linter where
  config := { c with thresholds := c.thresholds.override limits }
  roots := [base]

/-- The reply to a check once the lint has ended. -/
def checked (t : Terminal) (s : Settings) (summary : Summary) (timing : Bool) (loaded : Config.Loaded)
    (o : Outcome Disk (Except Fault Batch)) : Reply :=
  match o.result with
  | .error f => abort t s (loadEvents loaded ++ o.events) f.trace o.world
  | .ok b =>
    conclude t s summary o.linter b (loadEvents loaded ++ o.events)
      (if timing then timingRemarks t.colours (reported s b).length else []) o.world

section Check

variable (spawn : Spawn) (t : Terminal) (s : Settings) {path : Path} {root : Option Path}
  (limits : Overrides) (summary : Summary) (timing : Bool) {d : Disk} {target base : Path}

theorem check_of_unresolved (htarget : Path.absolute? (currentDir d) path = none) :
    check spawn t s path root limits summary timing d =
      abort t s [] ("cannot resolve " ++ path.text ++ ": " ++ emptyPath) d := by
  rw [check, htarget]

theorem check_of_rootless (htarget : Path.absolute? (currentDir d) path = some target)
    (hbase : rootOf? d target root = none) :
    check spawn t s path root limits summary timing d = abort t s [] emptyPath d := by
  rw [check, htarget]
  dsimp only
  rw [hbase]

theorem check_of_unloaded (htarget : Path.absolute? (currentDir d) path = some target)
    (hbase : rootOf? d target root = some base) {f : Fault} (hload : Config.load d base = .error f) :
    check spawn t s path root limits summary timing d = abort t s [] f.trace d := by
  rw [check, htarget]
  dsimp only
  rw [hbase]
  dsimp only
  rw [hload]

/-- A check that gets as far as linting asks a linter with one root. -/
theorem check_of_loaded (htarget : Path.absolute? (currentDir d) path = some target)
    (hbase : rootOf? d target root = some base) {loaded : Config.Loaded}
    (hload : Config.load d base = .ok loaded) :
    check spawn t s path root limits summary timing d =
      checked t s summary timing loaded
        ((checkerOf loaded.config limits base).lint (Disk.host spawn) target d) := by
  rw [check, htarget]
  dsimp only
  rw [hbase]
  dsimp only
  rw [hload]
  rfl

theorem lost_checked_iff {loaded : Config.Loaded} {o : Outcome Disk (Except Fault Batch)} :
    Lost (checked t s summary timing loaded o) ↔ ∃ q, o.result = .error (.noRoot q) := by
  unfold checked
  cases o.result with
  | error f => simp [lost_abort_trace_iff]
  | ok b =>
    refine iff_of_false (not_lost_conclude fun x hx => ?_) (by simp)
    split at hx
    · exact initial?_of_mem_timingRemarks hx
    · cases hx

/-- **When a check finds no root**: there are a target and a root, the configuration of the root can
be loaded, the root is not above the target, and the target could be analyzed. -/
theorem lost_check_iff :
    Lost (check spawn t s path root limits summary timing d) ↔
      ∃ target, Path.absolute? (currentDir d) path = some target ∧
        ∃ base, rootOf? d target root = some base ∧
          (∃ loaded, Config.load d base = .ok loaded) ∧
          ¬ base.components <+: target.components ∧
          (d.isDir target = true ∨ Project.isSource target = true) := by
  cases htarget : Path.absolute? (currentDir d) path with
  | none =>
    have hhead : ("cannot resolve " ++ path.text ++ ": " ++ emptyPath).toList.head? = some 'c' :=
      Text.head?_append (Text.head?_append (Text.head?_append (by decide) _) _) _
    rw [check_of_unresolved spawn t s limits summary timing htarget]
    exact iff_of_false (not_lost_abort (by rw [hhead]; decide)) (by simp)
  | some target =>
    cases hbase : rootOf? d target root with
    | none =>
      rw [check_of_rootless spawn t s limits summary timing htarget hbase]
      exact iff_of_false (not_lost_abort (by decide)) (by simp [hbase])
    | some base =>
      cases hload : Config.load d base with
      | error f =>
        rw [check_of_unloaded spawn t s limits summary timing htarget hbase hload,
          lost_abort_trace_iff]
        refine iff_of_false ?_ (by simp [hbase, hload])
        rintro ⟨q, rfl⟩
        have hother := Config.isRefusal_of_load hload
        cases hother
      | ok loaded =>
        rw [check_of_loaded spawn t s limits summary timing htarget hbase hload, lost_checked_iff,
          Linter.lint_noRoot_iff (Disk.host_neverRefuses spawn)]
        have hlintable : ¬ (Disk.host spawn).Unlintable target d ↔
            d.isDir target = true ∨ Project.isSource target = true := by
          show ¬ (d.isDir target = false ∧ Project.isSource target = false) ↔ _
          cases d.isDir target <;> cases Project.isSource target <;> decide
        simp [hlintable, Linter.Outside, checkerOf, hbase, hload, and_comm]

end Check

/-- The root that is taken by default is above the target. -/
theorem above_defaultRoot (d : Disk) (target : Path) :
    (defaultRoot d target).components <+: target.components := by
  unfold defaultRoot
  split
  · exact List.prefix_refl _
  · cases hup : target.parent? with
    | none => exact List.prefix_refl _
    | some up => exact Path.above_of_parent? hup

/-- **The root of a check.** Without a root on the command line the target is its own root if it is a
directory, and otherwise what it is in, if that is anything; however the target is written, this root,
which is the only one of the linter that is asked, is above it, and the check never ends for the lack
of a root. With a root on the command line it does
exactly if the configuration of that root can be loaded, the root is not above the target, and the
target is a directory or can be analyzed. -/
theorem root_of_check (spawn : Spawn) (terminal : Terminal) {args : List String} {s : Settings}
    {path : Path} {root : Option Path} {limits : Overrides} {summary : Summary} {timing : Bool}
    (hargs : reading args = .run s (.check path root limits summary timing)) (d : Disk) :
    let reply := run spawn terminal args d
    (root = none → ¬ Lost reply ∧
      ∀ target, Path.absolute? (currentDir d) path = some target →
        ∃ base, rootOf? d target root = some base ∧ base.components <+: target.components ∧
          (d.isDir target = true → base = target) ∧
          (d.isDir target = false → base = target.parent?.getD target) ∧
          ∀ loaded, Config.load d base = .ok loaded →
            reply = checked terminal s summary timing loaded
              ((checkerOf loaded.config limits base).lint (Disk.host spawn) target d)) ∧
    ∀ r, root = some r → (Lost reply ↔
      ∃ target, Path.absolute? (currentDir d) path = some target ∧
        ∃ base, Path.absolute? (currentDir d) r = some base ∧
          (∃ loaded, Config.load d base = .ok loaded) ∧
          ¬ base.components <+: target.components ∧
          (d.isDir target = true ∨ Project.isSource target = true)) := by
  intro reply
  have hreply : reply = check spawn terminal s path root limits summary timing d :=
    run_of_reading hargs spawn terminal d
  constructor
  · rintro rfl
    constructor
    · rw [hreply, lost_check_iff]
      rintro ⟨target, -, base, hbase, -, hout, -⟩
      obtain rfl : defaultRoot d target = base := Option.some.inj hbase
      exact hout (above_defaultRoot d target)
    · intro target htarget
      refine ⟨defaultRoot d target, rfl, above_defaultRoot d target, fun hdir => ?_, fun hdir => ?_,
        fun loaded hload => ?_⟩
      · rw [defaultRoot, if_pos hdir]
      · rw [defaultRoot, hdir]
        rfl
      · rw [hreply]
        exact check_of_loaded spawn terminal s limits summary timing htarget rfl hload
  · rintro r rfl
    rw [hreply, lost_check_iff]
    rfl

/-- A project with a file. -/
def plainDisk : Disk where
  items := [(["w"], .directory), (["w", "a.c"], .file (.text "int f;") false)]
  here := ["w"]

/-- A target that is not there, written with idle steps, and a root beside a target. -/
theorem root_of_check_of_two_lines :
    let odd := ["check", ".//b.rs/.//"]
    let beside := ["check", "b.rs", "--root", "./a.c"]
    (∃ s path limits summary timing,
      reading odd = .run s (.check path none limits summary timing)) ∧
    ¬ Lost (run Shell.spawn {} odd plainDisk) ∧
    (∃ s path limits summary timing,
      reading beside = .run s (.check path (some (.ofText "./a.c")) limits summary timing)) ∧
    Lost (run Shell.spawn {} beside plainDisk) := by
  intro odd beside
  let none4 : Overrides := ⟨none, none, none, none⟩
  have hodd : reading odd = .run {} (.check (.ofText ".//b.rs/.//") none none4 {} false) := by
    decide +kernel
  have hbeside : reading beside =
      .run {} (.check (.ofText "b.rs") (some (.ofText "./a.c")) none4 {} false) := by
    decide +kernel
  obtain ⟨hfree, -⟩ := root_of_check Shell.spawn {} hodd plainDisk
  obtain ⟨-, hlost⟩ := root_of_check Shell.spawn {} hbeside plainDisk
  refine ⟨⟨_, _, _, _, _, hodd⟩, (hfree rfl).1, ⟨_, _, _, _, _, hbeside⟩, ?_⟩
  have hload : (Config.load plainDisk ⟨"/w/a.c"⟩).isOk = true := by decide +kernel
  refine (hlost _ rfl).mpr ⟨⟨"/w/b.rs"⟩, by decide +kernel, ⟨"/w/a.c"⟩, by decide +kernel, ?_,
    by decide +kernel, .inr (by decide +kernel)⟩
  cases hconfig : Config.load plainDisk ⟨"/w/a.c"⟩ with
  | ok loaded => exact ⟨loaded, rfl⟩
  | error f =>
    rw [hconfig] at hload
    cases hload

end CommandLine

end ComplexityLint
