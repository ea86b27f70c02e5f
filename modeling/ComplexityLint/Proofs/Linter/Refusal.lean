import Mathlib.Control.Monad.Basic
import ComplexityLint.Disk.Process
import ComplexityLint.Linter.Memory
import ComplexityLint.Proofs.Linter.Acts
import ComplexityLint.Proofs.Project.Roots

/-!
Which requests to lint a path fail, with which fault, and what a failure leaves behind: nothing is
done for a path that is refused, and whatever fails, the linter stays as it was and publishes
nothing.
-/

namespace ComplexityLint

/-! ### What the surroundings can fail with -/

/-- Whether a fault is one with which a linter turns a path away. -/
def Fault.isRefusal : Fault → Bool
  | unsupported _ => true
  | noRoot _ => true
  | _ => false

namespace Host

variable {σ : Type} (h : Host σ)

/-- A fault with which the surroundings can fail. -/
inductive Raises : Fault → Prop
  | ensureDir {p : Path} {w : σ} {f : Fault} (hf : (h.ensureDir p w).1 = .error f) : Raises f
  | remove {p : Path} {w : σ} {f : Fault} (hf : (h.remove p w).1 = .error f) : Raises f
  | run {c : Command} {w : σ} {f : Fault} (hf : (h.run c w).1 = .error f) : Raises f
  | read {p : Path} {w : σ} {f : Fault} (hf : h.read w p = .error f) : Raises f

/-- Surroundings that leave it to the linter to turn a path away. -/
def NeverRefuses : Prop := ∀ f, h.Raises f → f.isRefusal = false

theorem raises_of_logged {log : Path} {w : σ} {f : Fault} (hf : h.logged log w = .failed f) :
    h.read w log = .error f := by
  unfold logged at hf
  split at hf
  · cases hf
  · split at hf
    · rename_i g hread
      cases hf
      exact hread
    · cases hf

theorem raises_of_launch {j : Job} {w : σ} {f : Fault} (hf : (h.launch j w).reply = .failed f) :
    h.Raises f := by
  rcases hrun : h.run j.command w with ⟨g | e, w'⟩
  · rw [show (h.launch j w).reply = .failed g by simp [launch, hrun]] at hf
    cases hf
    exact .run (by rw [hrun])
  · rw [show (h.launch j w).reply = h.logged j.command.log w' by simp [launch, hrun]] at hf
    exact .read (h.raises_of_logged hf)

/-- A job fails while the run is prepared, with a fault of the surroundings, or is launched. -/
theorem serve_cases (j : Job) (w : σ) :
    (∃ f w', h.Raises f ∧ h.serve j w = ⟨.failed f, w', []⟩) ∨
      ∃ w', h.serve j w = h.launch j w' := by
  rcases hdir : h.ensureDir j.logDir w with ⟨f | _, w₁⟩
  · exact Or.inl ⟨f, w₁, .ensureDir (by rw [hdir]), by simp [serve, hdir]⟩
  · rcases hclear : h.clear j.command.log w₁ with ⟨f | _, w₂⟩
    · refine Or.inl ⟨f, w₂, ?_, by simp [serve, hdir, hclear]⟩
      unfold clear at hclear
      split at hclear
      · exact .remove (by rw [hclear])
      · cases hclear
    · exact Or.inr ⟨w₂, by simp [serve, hdir, hclear]⟩

/-- A job fails with a fault of the surroundings. -/
theorem raises_of_serve {j : Job} {w : σ} {f : Fault} (hf : (h.serve j w).reply = .failed f) :
    h.Raises f := by
  rcases h.serve_cases j w with ⟨g, w', hg, hs⟩ | ⟨w', hs⟩
  · rw [hs] at hf
    cases hf
    exact hg
  · rw [hs] at hf
    exact h.raises_of_launch hf

theorem publications_launch (j : Job) (w : σ) : Event.publications (h.launch j w).events = [] := by
  rcases hrun : h.run j.command w with ⟨f | e, w'⟩
  · simp [launch, hrun, Event.publications]
  · cases hok : e.success <;> cases hex : h.pathExists w' j.command.log <;>
      simp [launch, hrun, hok, hex, Event.publications]

theorem publications_serve (j : Job) (w : σ) : Event.publications (h.serve j w).events = [] := by
  rcases h.serve_cases j w with ⟨f, w', -, hs⟩ | ⟨w', hs⟩
  · rw [hs]
    rfl
  · rw [hs]
    exact h.publications_launch j w'

end Host

theorem Memory.host_neverRefuses : Memory.host.NeverRefuses := by
  rintro f (hf | hf | hf | hf)
  all_goals simp only [Memory.host] at hf
  · split at hf <;> cases hf
    rfl
  · split at hf
    · cases hf; rfl
    · split at hf <;> cases hf
      rfl
  · split at hf <;> cases hf
    rfl
  · split at hf
    · cases hf; rfl
    · split at hf <;> cases hf
      rfl

theorem Disk.host_neverRefuses (spawn : Spawn) : (Disk.host spawn).NeverRefuses := by
  rintro f (hf | hf | hf | hf)
  all_goals simp only [Disk.host] at hf
  · split at hf <;> cases hf
    rfl
  · split at hf <;> cases hf
    rfl
  · simp only [Disk.run] at hf
    split at hf
    · cases hf; rfl
    · split at hf <;> cases hf
      rfl
  · rename_i p w
    cases hr : w.readLog p <;> rw [hr] at hf <;> cases hf
    rfl

/-! ### Linting -/

/-- The path is no directory and no source file. -/
def Host.Unlintable {σ : Type} (h : Host σ) (p : Path) (w : σ) : Prop :=
  h.isDir w p = false ∧ Project.isSource p = false

namespace Linter

variable {σ : Type} (h : Host σ) (l : Linter)

/-- The path lies under none of the roots. -/
def Outside (p : Path) : Prop := ∀ r ∈ l.roots, ¬ r.components <+: p.components

theorem job_of_unlintable {p : Path} {w : σ} (hu : h.Unlintable p w) :
    l.job h p w = .error (.unsupported p) := by
  simp [job, hu.1, hu.2]

theorem job_of_outside {p : Path} {w : σ} (hu : ¬ h.Unlintable p w) (ho : l.Outside p) :
    l.job h p w = .error (.noRoot p) := by
  have hcond : (!h.isDir w p && !Project.isSource p) = false := by
    simpa [Host.Unlintable] using hu
  simp [job, hcond, Project.rootFor?_eq_none_iff.mpr ho]

theorem exists_job {p : Path} {w : σ} (hu : ¬ h.Unlintable p w) (ho : ¬ l.Outside p) :
    ∃ j, l.job h p w = .ok j := by
  have hcond : (!h.isDir w p && !Project.isSource p) = false := by
    simpa [Host.Unlintable] using hu
  cases hroot : Project.rootFor? l.roots p with
  | none => exact absurd (Project.rootFor?_eq_none_iff.mp hroot) ho
  | some root => exact ⟨_, by simp only [job, hcond, hroot]; rfl⟩

/-- What is concluded from a fault of the surroundings, and only from one. -/
theorem conclude_eq_error_iff {j : Job} {s : Served σ} {f : Fault} :
    (l.conclude j s).result = .error f ↔ s.reply = .failed f := by
  rcases s with ⟨reply | _ | _, w, es⟩ <;> simp [conclude, refuse]

theorem conclude_of_failed {j : Job} {s : Served σ} {f : Fault} (hs : s.reply = .failed f) :
    l.conclude j s = l.refuse s.world s.events f := by
  simp [conclude, hs]

/-- Nothing was done, and the path was turned away. -/
theorem lint_of_job_error {p : Path} {w : σ} {f : Fault} (hj : l.job h p w = .error f) :
    l.lint h p w = l.refuse w [] f ∧
      l.lint h.recorded p (w, []) = (l.lint h p w).withActs [] := by
  have hj' : l.job h.recorded p (w, []) = .error f := hj
  rw [lint_eq, lint_eq, hj, hj']
  exact ⟨rfl, rfl⟩

/-- What a job does to the surroundings, as the record of a lint shows it. -/
theorem lint_of_job_ok {p : Path} {w : σ} {j : Job} (hj : l.job h p w = .ok j) :
    ∃ before last, l.lint h.recorded p (w, []) =
        (l.lint h p w).withActs (before ++ [last]) ∧
      h.Trail j (h.serve j w) before last ∧ l.lint h p w = l.conclude j (h.serve j w) := by
  have hj' : l.job h.recorded p (w, []) = .ok j := hj
  obtain ⟨before, last, hserve, ht⟩ := h.serve_trail j w []
  refine ⟨before, last, ?_, ht, by rw [lint_eq, hj]⟩
  rw [lint_eq, lint_eq, hj, hj']
  simp only [hserve, conclude_withActs, List.nil_append]

theorem lint_error_of_job_ok {p : Path} {w : σ} {j : Job} {f : Fault} (hj : l.job h p w = .ok j)
    (hf : (l.lint h p w).result = .error f) :
    h.Raises f ∧ (l.lint h p w).linter = l ∧ Event.publications (l.lint h p w).events = [] := by
  have hlint : l.lint h p w = l.conclude j (h.serve j w) := by rw [lint_eq, hj]
  rw [hlint, conclude_eq_error_iff] at hf
  rw [hlint, conclude_of_failed l hf]
  exact ⟨h.raises_of_serve hf, rfl, h.publications_serve j w⟩

theorem publications_of_lint_error {p : Path} {w : σ} {f : Fault}
    (hf : (l.lint h p w).result = .error f) : Event.publications (l.lint h p w).events = [] := by
  cases hj : l.job h p w with
  | error g =>
    rw [(lint_of_job_error h l hj).1]
    rfl
  | ok j => exact (lint_error_of_job_ok h l hj hf).2.2

end Linter

namespace Host.Trail

variable {σ : Type} {h : Host σ} {j : Job} {s : Served σ} {before : List Act} {last : Act}

/-- The analyzer is run once, unless the preparation failed. -/
theorem countP_isRun (ht : h.Trail j s before last) :
    (before ++ [last]).countP Act.isRun = if (before ++ [last]).any Act.blocks then 0 else 1 := by
  have hcount : before.countP Act.isRun = 0 :=
    List.countP_eq_zero.mpr fun a ha => by simp [(ht.prepared a ha).1]
  have hany : before.any Act.blocks = false :=
    List.any_eq_false.mpr fun a ha => by simp [Act.blocks, (ht.prepared a ha).2]
  rw [List.countP_append, hcount, List.any_append, hany]
  cases hrun : last.isRun with
  | true => simp [Act.blocks, hrun]
  | false => simp [Act.blocks, hrun, ht.blocked hrun]

/-- A fault is that of an action or of reading the log. -/
theorem fault_of_failed (ht : h.Trail j s before last) {f : Fault} (hf : s.reply = .failed f) :
    (∃ a ∈ before ++ [last], a.fault? = some f) ∨ h.read s.world j.command.log = .error f := by
  cases hlast : last.fault? with
  | some g =>
    have hg := ht.failed g hlast
    rw [hf] at hg
    cases hg
    exact .inl ⟨last, by simp, hlast⟩
  | none =>
    rw [ht.logged hlast] at hf
    exact .inr (h.raises_of_logged hf)

end Host.Trail

namespace Linter

variable {σ : Type}

/-- **Which lints fail, and what a failure leaves behind.** The record `acts` is that of the actions
that can change the surroundings.

* A path that is no directory and no source file is turned away, and otherwise one that lies under
  no root; nothing is done for either.
* For any other path the analyzer is run once unless the preparation fails, and a fault is that of an
  action or of reading the log.
* So if the surroundings never turn a path away themselves, each of the two refusals is returned
  exactly for its paths.
* Whatever the fault, the linter is as it was, and nothing was published. -/
theorem lint_faults (h : Host σ) (l : Linter) (p : Path) (w : σ) :
    ∃ acts, l.lint h.recorded p (w, []) = (l.lint h p w).withActs acts ∧
      (h.Unlintable p w →
        (l.lint h p w).result = .error (.unsupported p) ∧ acts = [] ∧ (l.lint h p w).world = w) ∧
      (¬ h.Unlintable p w → l.Outside p →
        (l.lint h p w).result = .error (.noRoot p) ∧ acts = [] ∧ (l.lint h p w).world = w) ∧
      (¬ h.Unlintable p w → ¬ l.Outside p →
        acts.countP Act.isRun = (if acts.any Act.blocks then 0 else 1) ∧
        ∀ f, (l.lint h p w).result = .error f →
          (∃ a ∈ acts, a.fault? = some f) ∨ ∃ log, h.read (l.lint h p w).world log = .error f) ∧
      (h.NeverRefuses →
        ((∃ q, (l.lint h p w).result = .error (.unsupported q)) ↔ h.Unlintable p w) ∧
        ((∃ q, (l.lint h p w).result = .error (.noRoot q)) ↔
          ¬ h.Unlintable p w ∧ l.Outside p)) ∧
      ∀ f, (l.lint h p w).result = .error f →
        (l.lint h p w).linter = l ∧ Event.publications (l.lint h p w).events = [] := by
  by_cases hu : h.Unlintable p w
  · obtain ⟨hlint, hrec⟩ := lint_of_job_error h l (job_of_unlintable h l hu)
    refine ⟨[], hrec, ?_⟩
    simp [hlint, refuse, hu, Event.publications]
  by_cases ho : l.Outside p
  · obtain ⟨hlint, hrec⟩ := lint_of_job_error h l (job_of_outside h l hu ho)
    refine ⟨[], hrec, ?_⟩
    simp [hlint, refuse, hu, ho, Event.publications]
  · obtain ⟨j, hj⟩ := exists_job h l hu ho
    obtain ⟨before, last, hrec, ht, hlint⟩ := lint_of_job_ok h l hj
    refine ⟨before ++ [last], hrec, fun hu' => absurd hu' hu, fun _ ho' => absurd ho' ho,
      fun _ _ => ⟨ht.countP_isRun, fun f hf => ?_⟩, fun hn => ?_, fun f hf => ?_⟩
    · rw [hlint, conclude_eq_error_iff] at hf
      rw [hlint, conclude_of_failed l hf]
      exact (ht.fault_of_failed hf).imp_right fun hread => ⟨_, hread⟩
    · -- A refusal would be a fault of the surroundings, which have none of this kind.
      have hother : ∀ f, (l.lint h p w).result = .error f → f.isRefusal = false := fun f hf =>
        hn f (lint_error_of_job_ok h l hj hf).1
      refine ⟨⟨fun ⟨q, hq⟩ => ?_, fun hu' => absurd hu' hu⟩,
        ⟨fun ⟨q, hq⟩ => ?_, fun ho' => absurd ho'.2 ho⟩⟩
      · cases hother _ hq
      · cases hother _ hq
    · exact (lint_error_of_job_ok h l hj hf).2

/-- A log that cannot be read, after the analyzer was run. -/
theorem lint_faults_of_sealed_log :
    let l : Linter := { roots := [⟨"/w"⟩] }
    let m : Memory := { sealedFiles := [⟨"/w/log/a.log"⟩], script := { report := some "" } }
    let o := l.lint Memory.host ⟨"/w/a.c"⟩ m
    o.result = .error (.file ⟨"/w/log/a.log"⟩ "read denied") ∧
      (¬ ∃ q, o.result = .error (.unsupported q)) ∧ (¬ ∃ q, o.result = .error (.noRoot q)) ∧
      o.linter = l ∧ Event.publications o.events = [] := by
  intro l m o
  have hresult : o.result = .error (.file ⟨"/w/log/a.log"⟩ "read denied") := by
    decide +kernel
  have hu : ¬ Memory.host.Unlintable ⟨"/w/a.c"⟩ m := fun hu => absurd hu.2 (by decide +kernel)
  have ho : ¬ l.Outside ⟨"/w/a.c"⟩ := fun ho => ho ⟨"/w"⟩ (by decide) (by decide +kernel)
  obtain ⟨acts, -, -, -, -, honly, hsame⟩ := lint_faults Memory.host l ⟨"/w/a.c"⟩ m
  obtain ⟨hun, hno⟩ := honly Memory.host_neverRefuses
  exact ⟨hresult, fun hq => hu (hun.mp hq), fun hq => ho (hno.mp hq).2, hsame _ hresult⟩

end Linter

end ComplexityLint
