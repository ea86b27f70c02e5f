import ComplexityLint.Proofs.Linter.Service

/-!
The actions on the surroundings that can change something. A host that keeps a record of them
(`Host.recorded`) serves a job as it did without, and the record shows what the job does: it prepares
the run, and unless that fails it runs the analyzer once (`serve_trail`).
-/

namespace ComplexityLint

/-- An action that can change the surroundings, and how it went. -/
inductive Act
  | ensureDir (p : Path) (r : Except Fault Unit)
  | remove (p : Path) (r : Except Fault Unit)
  | run (c : Command) (r : Except Fault Exit)

namespace Act

/-- Whether the analyzer was run. -/
def isRun : Act → Bool
  | run .. => true
  | _ => false

/-- The fault of an action that failed. -/
def fault? : Act → Option Fault
  | ensureDir _ (.error f) => some f
  | remove _ (.error f) => some f
  | run _ (.error f) => some f
  | _ => none

/-- Whether a directory could not be made or a file could not be removed. -/
def blocks (a : Act) : Bool := !a.isRun && a.fault?.isSome

end Act

/-! ### The record -/

/-- What came of a job, beside a record that was kept. -/
def Served.withActs {σ : Type} (s : Served σ) (as : List Act) : Served (σ × List Act) :=
  ⟨s.reply, (s.world, as), s.events⟩

namespace Host

variable {σ : Type} (h : Host σ)

/-- Surroundings that keep a record of the actions that can change them. -/
def recorded : Host (σ × List Act) where
  isDir w := h.isDir w.1
  pathExists w := h.pathExists w.1
  read w := h.read w.1
  ensureDir p w :=
    let (r, w') := h.ensureDir p w.1
    (r, w', w.2 ++ [.ensureDir p r])
  remove p w :=
    let (r, w') := h.remove p w.1
    (r, w', w.2 ++ [.remove p r])
  run c w :=
    let (r, w') := h.run c w.1
    (r, w', w.2 ++ [.run c r])

/-! ### Serving a job -/

/-- How the actions of a job fit what came of it: all but the last prepare the run and go well, the
last is a step of the preparation that failed or the run itself, and the reply is the fault of the
last action or else what the log says. -/
structure Trail (j : Job) (s : Served σ) (before : List Act) (last : Act) : Prop where
  prepared : ∀ a ∈ before, a.isRun = false ∧ a.fault? = none
  blocked : last.isRun = false → last.fault?.isSome
  failed : ∀ f, last.fault? = some f → s.reply = .failed f
  logged : last.fault? = none → s.reply = h.logged j.command.log s.world

theorem launch_trail (j : Job) (w : σ) (as before : List Act)
    (hb : ∀ a ∈ before, a.isRun = false ∧ a.fault? = none) :
    ∃ last, h.recorded.launch j (w, as) = (h.launch j w).withActs (as ++ [last]) ∧
      h.Trail j (h.launch j w) before last := by
  rcases hrun : h.run j.command w with ⟨f | e, w'⟩
  · refine ⟨.run j.command (.error f), by simp [launch, recorded, hrun, Served.withActs],
      hb, ?_, ?_, ?_⟩
    all_goals simp [launch, hrun, Act.isRun, Act.fault?]
  · refine ⟨.run j.command (.ok e), by simp [launch, recorded, hrun, logged, Served.withActs],
      hb, ?_, ?_, ?_⟩
    all_goals simp [launch, hrun, Act.isRun, Act.fault?]

/-- **What a job does**: it prepares the run, and unless that fails it runs the analyzer once. A host
that keeps a record serves the job as before. -/
theorem serve_trail (j : Job) (w : σ) (as : List Act) :
    ∃ before last, h.recorded.serve j (w, as) =
        (h.serve j w).withActs (as ++ (before ++ [last])) ∧
      h.Trail j (h.serve j w) before last := by
  rcases hdir : h.ensureDir j.logDir w with ⟨f | _, w₁⟩
  · refine ⟨[], .ensureDir j.logDir (.error f), by simp [serve, recorded, hdir, Served.withActs], ?_⟩
    constructor <;> simp [serve, hdir, Act.isRun, Act.fault?]
  -- The directory is there, and what is left is whether an old log is in the way.
  cases hex : h.pathExists w₁ j.command.log with
  | false =>
    obtain ⟨last, hl, ht⟩ := h.launch_trail j w₁ (as ++ [.ensureDir j.logDir (.ok ())])
      [.ensureDir j.logDir (.ok ())] (by simp [Act.isRun, Act.fault?])
    have hs : h.serve j w = h.launch j w₁ := by simp [serve, clear, hdir, hex]
    rw [hs]
    exact ⟨_, last, by simpa [serve, clear, recorded, hdir, hex] using hl, ht⟩
  | true =>
    rcases hrem : h.remove j.command.log w₁ with ⟨f | _, w₂⟩
    · refine ⟨[.ensureDir j.logDir (.ok ())], .remove j.command.log (.error f),
        by simp [serve, clear, recorded, hdir, hex, hrem, Served.withActs], ?_⟩
      constructor <;> simp [serve, clear, hdir, hex, hrem, Act.isRun, Act.fault?]
    · obtain ⟨last, hl, ht⟩ := h.launch_trail j w₂
        (as ++ [.ensureDir j.logDir (.ok ()), .remove j.command.log (.ok ())])
        [.ensureDir j.logDir (.ok ()), .remove j.command.log (.ok ())]
        (by simp [Act.isRun, Act.fault?])
      have hs : h.serve j w = h.launch j w₂ := by simp [serve, clear, hdir, hex, hrem]
      rw [hs]
      exact ⟨_, last, by simpa [serve, clear, recorded, hdir, hex, hrem] using hl, ht⟩

end Host

/-! ### Linting -/

/-- How a request ended, beside a record that was kept. -/
def Outcome.withActs {σ α : Type} (o : Outcome σ α) (as : List Act) : Outcome (σ × List Act) α :=
  ⟨o.result, o.linter, (o.world, as), o.events⟩

namespace Linter

theorem conclude_withActs {σ : Type} (l : Linter) (j : Job) (s : Served σ) (as : List Act) :
    l.conclude j (s.withActs as) = (l.conclude j s).withActs as := by
  rcases s with ⟨reply, w, es⟩
  cases reply <;> rfl

end Linter

end ComplexityLint
