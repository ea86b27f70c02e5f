import ComplexityLint.Config.Load
import ComplexityLint.Proofs.Editor.Turn
import ComplexityLint.Proofs.Linter.History
import ComplexityLint.Shell.Run

/-!
Whole sessions of an editor. Between two messages the surroundings can become any others. Still the
roots are those that the session began with, and the configuration in force is the last one that
could be loaded (`config_in_force`).
-/

namespace ComplexityLint.Editor

variable {σ : Type}

/-- The server after some messages, each of which finds surroundings of its own. -/
def session (k : Setting σ) (l : Linter) (as : List (Message × σ)) : Linter :=
  as.foldl (fun l a => (handle k a.1 l a.2).linter) l

/-- What came of all attempts of a session to load a configuration, in order. Each is made for the
first root that was brought until then, if one was. -/
def attempts (k : Setting σ) (first : Option Path) : List (Message × σ) → List (Except Fault Config)
  | [] => []
  | (m, w) :: as =>
    let first := first <|> m.roots.head?
    (if m.reloads then first.map (k.load w) else none).toList ++ attempts k first as

/-! ### One message -/

theorem roots_eq_nil {m : Message} (h : ∀ folders root, m ≠ .started folders root) : m.roots = [] := by
  cases m with
  | started folders root => exact absurd rfl (h folders root)
  | _ => rfl

theorem roots_eq_nil_of_idle {m : Message} (h : m.reloads = false) : m.roots = [] :=
  roots_eq_nil fun folders root hm => by rw [hm] at h; cases h

/-- A message that has nothing loaded keeps the roots and the configuration. -/
theorem handle_of_not_reloads {m : Message} (h : m.reloads = false) (k : Setting σ) (l : Linter)
    (w : σ) :
    (handle k m l w).linter.roots = l.roots ∧ (handle k m l w).linter.config = l.config ∧
      ∀ load, handle { k with load := load } m l w = handle k m l w := by
  cases ht : m.target? l.config with
  | none =>
    obtain ⟨a, notices, -, hidle⟩ := handle_of_idle (σ := σ) ht h
    rw [hidle]
    exact ⟨rfl, rfl, fun load => hidle { k with load := load } w⟩
  | some p =>
    have hlinter : (lintTurn k m.receipt p l w).linter = _ := Linter.lint_linter k.host l p w
    rw [handle_of_target ht, hlinter]
    exact ⟨rfl, rfl, fun load => handle_of_target ht { k with load := load } w⟩

theorem roots_handle (k : Setting σ) (m : Message) (l : Linter) (w : σ) :
    (handle k m l w).linter.roots = m.roots.foldl Project.addRoot l.roots := by
  cases hr : m.reloads with
  | false => rw [(handle_of_not_reloads hr k l w).1, roots_eq_nil_of_idle hr, List.foldl_nil]
  | true =>
    rw [handle_of_reloads hr]
    change (reload k _ w).1.roots = _
    rw [(reload_frame k _ w).1, Linter.foldl_addRoot]

theorem config_handle (k : Setting σ) (m : Message) (l : Linter) (w : σ) :
    (handle k m l w).linter.config =
      ((if m.reloads then (l.roots.head? <|> m.roots.head?).map (k.load w) else none).bind
        Except.toOption).getD l.config := by
  cases hr : m.reloads with
  | false => exact (handle_of_not_reloads hr k l w).2.1
  | true =>
    rw [handle_of_reloads hr, if_pos rfl, ← Project.head?_foldl_addRoot]
    change (reload k _ w).1.config = _
    rw [reload_eq, Linter.foldl_addRoot]
    rcases (m.roots.foldl Project.addRoot l.roots).head?.map (k.load w) with _ | f | c <;> rfl

/-! ### Whole sessions -/

theorem roots_session (k : Setting σ) (l : Linter) (as : List (Message × σ)) :
    (session k l as).roots = (as.flatMap fun a => a.1.roots).foldl Project.addRoot l.roots := by
  induction as generalizing l with
  | nil => rfl
  | cons a as ih =>
    have hrest : (session k l (a :: as)).roots = _ := ih (handle k a.1 l a.2).linter
    rw [hrest, roots_handle, List.flatMap_cons, List.foldl_append]

theorem config_session (k : Setting σ) (l : Linter) (as : List (Message × σ)) :
    (session k l as).config =
      ((attempts k l.roots.head? as).filterMap Except.toOption).getLast?.getD l.config := by
  induction as generalizing l with
  | nil => rfl
  | cons a as ih =>
    obtain ⟨m, w⟩ := a
    have hrest : (session k l ((m, w) :: as)).config = _ := ih (handle k m l w).linter
    rw [hrest, config_handle, roots_handle, Project.head?_foldl_addRoot, attempts,
      List.filterMap_append, List.getLast?_append, Option.getD_or]
    generalize (if m.reloads then (l.roots.head? <|> m.roots.head?).map (k.load w) else none) = made
    rcases made with _ | _ | c <;> rfl

/-- **The configuration in force.** In any session, with the surroundings changing in any way between
two messages, the configuration is the last one that could be loaded for the first root, or else the
default. The roots are the folders and the root that the session began with, as paths, less those
that equal an earlier one; no other message changes them.

Only the first message, a change of the settings and saving a configuration document have it loaded;
what becomes of any other message does not depend on what there is to load. A message that has it
loaded does nothing else: no path is linted, nothing is published, and the registry is as before. A
configuration that cannot be loaded changes nothing but that a warning is logged, and without a root
there is nothing to be done. -/
theorem config_in_force (k : Setting σ) (as : List (Message × σ)) :
    let l := session k {} as
    let brought := as.flatMap fun a => match a.1 with
      | .started folders root => (folders ++ root.toList).filterMap Uri.filePath?
      | _ => []
    l.config = ((attempts k none as).filterMap Except.toOption).getLast?.getD {} ∧
    l.roots = brought.eraseDupsBy Path.same ∧
    Project.Distinct l.roots ∧
    (∀ more, (∀ a ∈ more, ∀ folders root, a.1 ≠ .started folders root) →
      (session k l more).roots = l.roots) ∧
    ∀ m w,
      let turn := handle k m l w
      (m.reloads = false →
        turn.linter.config = l.config ∧ ∀ load, handle { k with load := load } m l w = turn) ∧
      (m.reloads = true →
        let known : Linter := { l with roots := (brought ++ m.roots).eraseDupsBy Path.same }
        turn.linter.registry = l.registry ∧ turn.linter.roots = known.roots ∧ turn.world = w ∧
        turn.events = [] ∧
        match known.roots.head?.map (k.load w) with
        | none => turn.linter = known ∧ turn.notices = []
        | some (.ok c) => turn.linter = { known with config := c } ∧ turn.notices = []
        | some (.error f) =>
          turn.linter = known ∧
          turn.notices.map Notice.call =
            [logging 2 ("Keeping previous configuration: " ++ f.message)]) := by
  intro l brought
  have hroots : l.roots = brought.eraseDupsBy Path.same :=
    (roots_session k {} as).trans (Project.foldl_addRoot brought)
  refine ⟨config_session k {} as, hroots, ?_, fun more hmore => ?_, fun m w => ?_⟩
  · rw [hroots, ← Project.foldl_addRoot]
    exact Project.foldl_addRoot_distinct .nil brought
  · have hnone : (more.flatMap fun a => a.1.roots) = [] :=
      List.flatMap_eq_nil_iff.mpr fun a ha => roots_eq_nil (hmore a ha)
    rw [roots_session, hnone, List.foldl_nil]
  · refine ⟨fun hr => (handle_of_not_reloads hr k l w).2, fun hr => ?_⟩
    intro known
    have hknown : m.roots.foldl Linter.addRoot l = known := by
      rw [Linter.foldl_addRoot, hroots, Project.foldl_addRoot_eraseDupsBy]
    rw [handle_of_reloads hr k w, hknown]
    change (reload k known w).1.registry = _ ∧ (reload k known w).1.roots = _ ∧ _ ∧ _ ∧ _
    have hframe := (reload_frame k known w).1
    refine ⟨by rw [hframe], by rw [hframe], rfl, rfl, ?_⟩
    have hreload := reload_eq k known w
    cases hloaded : known.roots.head?.map (k.load w) with
    | none =>
      rw [hloaded] at hreload
      exact ⟨congrArg Prod.fst hreload, congrArg Prod.snd hreload⟩
    | some loaded =>
      rw [hloaded] at hreload
      cases loaded with
      | error f => exact ⟨congrArg Prod.fst hreload, congrArg (·.2.map Notice.call) hreload⟩
      | ok c => exact ⟨congrArg Prod.fst hreload, congrArg Prod.snd hreload⟩

/-- A configuration that breaks stays in force as it was, until it is repaired. -/
example :
    let disk (text : String) : Disk :=
      { items := [(["w"], .directory), (["w", "lizard-lint.toml"], .file (.text text) false)] }
    let k : Setting Disk :=
      { host := Disk.host Shell.spawn, load := fun d p => (Config.load d p).map (·.config) }
    let start := (Message.started [] (Uri.parse? "file:///w"), disk "[thresholds]\ntokenCount = 5\n")
    let broken := (Message.settingsChanged, disk "[thresholds]\ntokenCount = five\n")
    let repaired := ((Uri.parse? "file:///w/lizard-lint.toml").elim .initialized Message.saved,
      disk "[thresholds]\ntokenCount = 6\n")
    (session k {} [start, broken]).config.thresholds.tokens = some 5 ∧
      (session k {} [start, broken, repaired]).config.thresholds.tokens = some 6 := by
  decide +kernel

end ComplexityLint.Editor
