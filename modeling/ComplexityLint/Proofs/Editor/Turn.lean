import ComplexityLint.Editor.Protocol
import ComplexityLint.Proofs.Json.Reading
import ComplexityLint.Proofs.Linter.Refusal
import ComplexityLint.Proofs.Linter.Roots

/-!
What a message can do to a server. It has a path linted, or the configuration loaded, or neither, and
then nothing changes (`handle_of_target`, `handle_of_reloads`, `handle_of_idle`). Everything about
turns follows from these three; here, which messages lint and what is sent then (`handle_lints`).
-/

namespace ComplexityLint

theorem Uri.isSome_ofPath? (p : Path) : (Uri.ofPath? p).isSome = p.isAbsolute := by
  rw [Bool.eq_iff_iff, ← Path.head?_components, Uri.ofPath?]
  rcases p.components with _ | ⟨_ | _ | _ | n, _ | ⟨c, cs⟩⟩ <;> simp

namespace Editor

/-! ### The three kinds of messages -/

/-- The last segment of a URI, as it is written, is the name of a configuration document. -/
def NamesDocument (u : Uri) : Prop :=
  u.segments.bind List.getLast? = some "lizard-lint.toml".toList

instance (u : Uri) : Decidable (NamesDocument u) := inferInstanceAs (Decidable (_ = _))

/-- The path that a message has linted. A command names it by the URI of a file, or as it is. -/
def Message.target? (c : Config) : Message → Option Path
  | opened u => if c.execution.lintOnOpen then u.filePath? else none
  | saved u => if c.execution.lintOnSave ∧ ¬ NamesDocument u then u.filePath? else none
  | execute command argument =>
    if command = "lizard-linter.lint" then
      argument.bind fun text =>
        match Uri.parse? text with
        | some u => if u.scheme = "file".toList then u.filePath? else some (.ofText text)
        | none => some (.ofText text)
    else none
  | _ => none

/-- Whether a message has the configuration loaded. -/
def Message.reloads : Message → Bool
  | started _ _ => true
  | settingsChanged => true
  | saved u => decide (NamesDocument u)
  | _ => false

/-- The roots that a message brings: the folders and the root, as paths. -/
def Message.roots : Message → List Path
  | started folders root => (folders ++ root.toList).filterMap Uri.filePath?
  | _ => []

/-- How a message is answered that has a path linted or the configuration loaded. -/
def Message.receipt : Message → Answer
  | started _ _ => .capabilities
  | execute _ _ => .null
  | _ => .silence

variable {σ : Type} {m : Message} {l : Linter}

theorem isConfigUri_eq (u : Uri) : isConfigUri u = decide (NamesDocument u) := rfl

theorem target?_execute (c : Config) (command : String) (argument : Option String) :
    (Message.execute command argument).target? c =
      if command = lintCommand then argument.bind argumentPath? else none := rfl

theorem lintUri_eq (k : Setting σ) (wanted : Bool) (u : Uri) (w : σ) :
    lintUri k wanted u l w = match if wanted then u.filePath? else none with
      | none => idle .silence l w
      | some p => lintTurn k .silence p l w := by
  unfold lintUri
  cases wanted <;> cases u.filePath? <;> rfl

theorem handle_of_target {p : Path} (h : m.target? l.config = some p) (k : Setting σ) (w : σ) :
    handle k m l w = lintTurn k m.receipt p l w := by
  cases m with
  | opened u =>
    have hwanted : (if l.config.execution.lintOnOpen then u.filePath? else none) = some p := h
    rw [handle, lintUri_eq, hwanted]
    rfl
  | saved u =>
    obtain ⟨⟨hsave, hu⟩, hpath⟩ := Option.ite_none_right_eq_some.mp h
    rw [handle, isConfigUri_eq, if_neg (by simpa using hu), lintUri_eq, if_pos hsave, hpath]
    rfl
  | execute command argument =>
    rw [target?_execute] at h
    obtain ⟨hcommand, hpath⟩ := Option.ite_none_right_eq_some.mp h
    rw [handle, executeTurn, hpath, hcommand]
    rfl
  | _ => cases h

theorem handle_of_reloads (h : m.reloads = true) (k : Setting σ) (w : σ) :
    handle k m l w = reloadTurn k m.receipt (m.roots.foldl Linter.addRoot l) w := by
  cases m with
  | started folders root => rfl
  | settingsChanged => rfl
  | saved u =>
    have hu : isConfigUri u = true := h
    rw [handle, if_pos hu]
    rfl
  | _ => cases h

/-- Any other message is answered and perhaps remarked on, whatever the surroundings are. -/
theorem handle_of_idle (ht : m.target? l.config = none) (hr : m.reloads = false) :
    ∃ a notices, (∀ n ∈ notices, ∃ weight text, n = .remark weight text) ∧
      ∀ (k : Setting σ) (w : σ), handle k m l w = { idle a l w with notices := notices } := by
  cases m with
  | initialized => exact ⟨.silence, [.remark .info _], by simp, fun _ _ => rfl⟩
  | shutdown => exact ⟨.null, [], by simp, fun _ _ => rfl⟩
  | opened u =>
    have hunwanted : (if l.config.execution.lintOnOpen then u.filePath? else none) = none := ht
    refine ⟨.silence, [], by simp, fun k w => ?_⟩
    rw [handle, lintUri_eq, hunwanted]
    rfl
  | saved u =>
    have hu : ¬ NamesDocument u := by simpa [Message.reloads] using hr
    have hunwanted : (if l.config.execution.lintOnSave then u.filePath? else none) = none := by
      simpa [Message.target?, hu] using ht
    refine ⟨.silence, [], by simp, fun k w => ?_⟩
    rw [handle, isConfigUri_eq, if_neg (by simpa using hu), lintUri_eq, hunwanted]
    rfl
  | execute command argument =>
    cases hpath : argument.bind argumentPath? with
    | none =>
      refine ⟨.refused "expected a file URI or path argument", [], by simp, fun k w => ?_⟩
      rw [handle, executeTurn, hpath]
      rfl
    | some p =>
      have hcommand : command ≠ lintCommand := by
        simpa [target?_execute, hpath] using ht
      by_cases hanalysis : command = analysisCommand
      · refine ⟨.analysis (l.fileAnalysis p), [], by simp, fun k w => ?_⟩
        simp only [handle, executeTurn, hpath, hanalysis, if_true]
        rfl
      · refine ⟨.refused ("unknown command " ++ command), [], by simp, fun k w => ?_⟩
        simp only [handle, executeTurn, hpath, hcommand, hanalysis, if_false]
        rfl
  | _ => cases hr

/-! ### Loading the configuration -/

/-- What came of the attempt to load the configuration of the first root, if there is one. -/
theorem reload_eq (k : Setting σ) (l : Linter) (w : σ) :
    reload k l w = match l.roots.head?.map (k.load w) with
      | none => (l, [])
      | some (.ok c) => (l.setConfig c, [])
      | some (.error f) =>
        (l, [.remark .warning ("Keeping previous configuration: " ++ f.message)]) := by
  unfold reload
  cases l.roots with
  | nil => rfl
  | cons root roots =>
    dsimp only [List.head?_cons, Option.map_some]
    cases k.load w root <;> rfl

/-- Whatever comes of it, only the configuration can change, and nothing but remarks is made. -/
theorem reload_frame (k : Setting σ) (l : Linter) (w : σ) :
    (reload k l w).1 = { l with config := (reload k l w).1.config } ∧
      ∀ n ∈ (reload k l w).2, ∃ weight text, n = .remark weight text := by
  rw [reload_eq]
  rcases l.roots.head?.map (k.load w) with _ | f | c
  · exact ⟨rfl, by simp⟩
  · exact ⟨rfl, by simp⟩
  · exact ⟨rfl, by simp⟩

/-! ### Notices -/

/-- An object tells an editor of a diagnostic. -/
structure Tells (v : Json) (d : Diagnostic) : Prop where
  startLine : v.whole? ["range", "start", "line"] = some (d.range.start.line.toNat : Int)
  startCharacter :
    v.whole? ["range", "start", "character"] = some (d.range.start.character.toNat : Int)
  stopLine : v.whole? ["range", "end", "line"] = some (d.range.stop.line.toNat : Int)
  stopCharacter : v.whole? ["range", "end", "character"] = some (d.range.stop.character.toNat : Int)
  severity : v.whole? ["severity"] = some (match d.severity with
    | .error => 1
    | .warning => 2
    | .info => 3)
  code : v.text? ["code"] = some d.metric.id
  source : v.text? ["source"] = some "lizard-linter"
  message : v.text? ["message"] = some d.message

theorem tells_editorJson (d : Diagnostic) : Tells (editorJson d) d where
  startLine := rfl
  startCharacter := rfl
  stopLine := rfl
  stopCharacter := rfl
  severity := by
    change some (severityNumber d.severity : Int) = _
    cases d.severity <;> rfl
  code := rfl
  source := rfl
  message := rfl

/-- A call publishes some diagnostics under a URI. -/
def Publishes (call : String × Json) (uri : String) (ds : List Diagnostic) : Prop :=
  ∃ items, call = ("textDocument/publishDiagnostics",
      .object [("uri", .string uri), ("diagnostics", .array items)]) ∧
    List.Forall₂ Tells items ds

theorem publishes_call (uri : String) (ds : List Diagnostic) :
    Publishes (Notice.diagnostics uri ds).call uri ds := by
  refine ⟨ds.map editorJson, rfl, ?_⟩
  rw [List.forall₂_map_left_iff, List.forall₂_same]
  exact fun d _ => tells_editorJson d

/-- The call that has a text logged. -/
def logging (type : Nat) (text : String) : String × Json :=
  ("window/logMessage", .object [("type", .number type), ("message", .string text)])

/-- What is published of some files: those that have a URI, in order. -/
theorem published_forall₂ (es : List Event) :
    List.Forall₂
      (fun pub n => ∃ uri, Uri.ofPath? pub.1 = some uri ∧ Publishes n.call uri pub.2)
      ((Event.publications es).filter fun pub => pub.1.isAbsolute) (published es) := by
  rw [published]
  induction Event.publications es with
  | nil => exact .nil
  | cons pub pubs ih =>
    obtain ⟨p, ds⟩ := pub
    have habsolute := Uri.isSome_ofPath? p
    cases huri : Uri.ofPath? p with
    | none =>
      have hp : p.isAbsolute = false := by rw [← habsolute, huri]; rfl
      simp only [List.filter_cons, List.filterMap_cons, hp, huri]
      exact ih
    | some uri =>
      have hp : p.isAbsolute = true := by rw [← habsolute, huri]; rfl
      simp only [List.filter_cons, List.filterMap_cons, hp, huri]
      exact .cons ⟨uri, huri, publishes_call uri ds⟩ ih

section Lint

variable {k : Setting σ} {p : Path} {w : σ}

theorem notices_of_lint_ok {b : Batch} (h : (l.lint k.host p w).result = .ok b) (a : Answer) :
    (lintTurn k a p l w).notices = published (l.lint k.host p w).events := by
  simp [lintTurn, h]

theorem notices_of_lint_error {f : Fault} (h : (l.lint k.host p w).result = .error f) (a : Answer) :
    (lintTurn k a p l w).notices = failureNotice f := by
  simp [lintTurn, h, published, Linter.publications_of_lint_error k.host l h]

end Lint

/-- **Which messages lint, and what is sent then.** A path is linted when it is opened or saved and
that is asked for by the configuration in force, unless a configuration document is saved, and when
the command to lint it is given. The turn is then that of one lint and is answered if it was a
command. A path that cannot be analyzed is passed over in silence; any other fault is logged as an
error and nothing is published. What a lint that succeeds publishes is sent file by file, as far as
the path is absolute.

Any other message leaves the registry and the surroundings alone and publishes nothing, and what
becomes of it does not depend on the analyzer. -/
theorem handle_lints (k : Setting σ) (m : Message) (l : Linter) (w : σ) :
    let turn := handle k m l w
    (∀ p, m.target? l.config = some p →
      let o := l.lint k.host p w
      turn.linter = o.linter ∧ turn.world = o.world ∧ turn.events = o.events ∧
      (turn.answer.response = match m with
        | .execute _ _ => .result .null
        | _ => .silence) ∧
      match o.result with
      | .error (.unsupported _) => turn.notices = []
      | .error f => turn.notices.map Notice.call = [logging 1 ("lizard-lint: " ++ f.message)]
      | .ok _ =>
        List.Forall₂
          (fun pub n => ∃ uri, Uri.ofPath? pub.1 = some uri ∧ Publishes n.call uri pub.2)
          ((Event.publications o.events).filter fun pub => pub.1.isAbsolute) turn.notices) ∧
    (m.target? l.config = none →
      turn.linter.registry = l.registry ∧ turn.world = w ∧ turn.events = [] ∧
      (∀ n ∈ turn.notices, n.call.1 ≠ "textDocument/publishDiagnostics") ∧
      ∀ host, handle { k with host := host } m l w = turn) := by
  intro turn
  refine ⟨fun p hp => ?_, fun ht => ?_⟩
  · intro o
    have hturn : turn = lintTurn k m.receipt p l w := handle_of_target hp k w
    rw [hturn]
    refine ⟨rfl, rfl, rfl, ?_, ?_⟩
    · cases m with
      | started folders root => cases hp
      | _ => rfl
    · cases hresult : o.result with
      | ok b =>
        rw [notices_of_lint_ok hresult]
        exact published_forall₂ o.events
      | error f =>
        rw [notices_of_lint_error hresult]
        cases f <;> rfl
  · cases hr : m.reloads with
    | true =>
      have hturn : turn = reloadTurn k m.receipt (m.roots.foldl Linter.addRoot l) w :=
        handle_of_reloads hr k w
      obtain ⟨hframe, hremarks⟩ := reload_frame k (m.roots.foldl Linter.addRoot l) w
      rw [hturn]
      refine ⟨?_, rfl, rfl, fun n hn => ?_, fun host => handle_of_reloads hr _ w⟩
      · change (reload k _ w).1.registry = _
        rw [hframe, Linter.foldl_addRoot]
      · obtain ⟨weight, text, rfl⟩ := hremarks n hn
        simp [Notice.call]
    | false =>
      obtain ⟨a, notices, hremarks, hidle⟩ := handle_of_idle (σ := σ) ht hr
      have hturn : turn = { idle a l w with notices := notices } := hidle k w
      rw [hturn]
      refine ⟨rfl, rfl, rfl, fun n hn => ?_, fun host => hidle _ w⟩
      obtain ⟨weight, text, rfl⟩ := hremarks n hn
      simp [Notice.call]

/-- A file that is linted on command, and one that is opened where that has no consequences. -/
example :
    let k : Setting Memory := { host := Memory.host, load := fun _ _ => .ok {} }
    let l : Linter :=
      { config := { thresholds := { Thresholds.unset with complexity := some 2 },
                    execution := { lintOnOpen := false } }
        roots := [⟨"/w"⟩] }
    let m : Memory :=
      { script := { report := some "-\n5 3 9 1 6 f@1-9@/w/a.c\n1 file analyzed" } }
    let x : Diagnostic :=
      ⟨.complexity, .warning, "f: Cyclomatic complexity of 3 higher then threshold (2)", "/w/a.c",
        .ofLine 1⟩
    (handle k (.execute lintCommand (some "/w/a.c")) l m).notices =
        [.diagnostics "file:///w/a.c" [x]] ∧
      ∀ u, Uri.parse? "file:///w/a.c" = some u → (handle k (.opened u) l m).notices = [] := by
  decide +kernel

end Editor

end ComplexityLint
