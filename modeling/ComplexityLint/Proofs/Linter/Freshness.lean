import ComplexityLint.Proofs.Linter.Logs

/-!
How old a list is that a sink shows. A lint that has a report to take in replaces the lists of the
paths that its batch covers and of the file that it was asked for; any other lint replaces none. So
after any requests the list of a path stems as a whole from the last request that replaced it
(`fresh_of_requests`).
-/

namespace ComplexityLint

open Event (publications)

/-- A job that did not fail has for its reply what the log says. -/
theorem Host.reply_serve {σ : Type} (h : Host σ) (j : Job) (w : σ) :
    (∃ f, (h.serve j w).reply = .failed f) ∨
      (h.serve j w).reply = h.logged j.command.log (h.serve j w).world := by
  obtain ⟨before, last, -, ht⟩ := h.serve_trail j w []
  cases hlast : last.fault? with
  | some f => exact .inl ⟨f, ht.failed f hlast⟩
  | none => exact .inr (ht.logged hlast)

theorem Host.logged_eq_silent_iff {σ : Type} {h : Host σ} {log : Path} {w : σ} :
    h.logged log w = .silent ↔ h.pathExists w log = false := by
  unfold logged
  cases h.pathExists w log with
  | false => simp
  | true => cases h.read w log <;> simp

namespace Linter

section Lint

variable {σ : Type} (h : Host σ) (l : Linter) (p : Path) (w : σ)

/-- A lint that has no report to take in: it fails, or the run leaves no log. -/
def Fruitless : Prop :=
  (∃ f, (l.lint h p w).result = .error f) ∨
    ∃ j, l.job h p w = .ok j ∧ h.pathExists (l.lint h p w).world j.command.log = false

/-- What a lint comes to. -/
inductive Upshot : Prop
  | fruitless (hfruitless : l.Fruitless h p w) (hpubs : publications (l.lint h p w).events = [])
    (hlinter : (l.lint h p w).linter = l) (hresult : ∀ b, (l.lint h p w).result = .ok b → b = [])
  | fruitful (hfruitful : ¬ l.Fruitless h p w) (text : String)
    (hreports : l.reports (.lint h p w) = [text])

theorem upshot_of_lint : l.Upshot h p w := by
  cases hj : l.job h p w with
  | error f =>
    obtain ⟨hlint, -⟩ := lint_of_job_error h l hj
    refine .fruitless (.inl ⟨f, by rw [hlint]; rfl⟩) (by rw [hlint]; rfl) (by rw [hlint]; rfl) ?_
    intro b hb
    rw [hlint] at hb
    cases hb
  | ok j =>
    have hlint : l.lint h p w = l.conclude j (h.serve j w) := by rw [lint_eq, hj]
    have hworld : (l.lint h p w).world = (h.serve j w).world := by rw [hlint, world_conclude]
    cases hs : (h.serve j w).reply with
    | failed f =>
      have hresult : (l.lint h p w).result = .error f := by
        rw [hlint]
        exact (conclude_eq_error_iff l).mpr hs
      obtain ⟨-, hlinter, hpubs⟩ := lint_error_of_job_ok h l hj hresult
      refine .fruitless (.inl ⟨f, hresult⟩) hpubs hlinter fun b hb => ?_
      rw [hresult] at hb
      cases hb
    | silent =>
      have hlogged : h.logged j.command.log (h.serve j w).world = .silent := by
        rcases h.reply_serve j w with ⟨f, hf⟩ | heq
        · rw [hs] at hf
          cases hf
        · rw [← heq, hs]
      have hout : l.lint h p w = ⟨.ok [], l, (h.serve j w).world, (h.serve j w).events⟩ := by
        rw [hlint, conclude, hs]
      refine .fruitless (.inr ⟨j, hj, ?_⟩) ?_ (by rw [hout]) fun b hb => ?_
      · rw [hworld]
        exact Host.logged_eq_silent_iff.mp hlogged
      · rw [hout]
        exact h.publications_serve j w
      · rw [hout] at hb
        cases hb
        rfl
    | report text =>
      refine .fruitful ?_ text (by simp only [reports, hj, hs]; rfl)
      rintro (⟨f, hf⟩ | ⟨j', hj', hex⟩)
      · rw [hlint, conclude_eq_error_iff, hs] at hf
        cases hf
      · rw [hj] at hj'
        cases hj'
        rcases h.reply_serve j w with ⟨f, hf⟩ | heq
        · rw [hs] at hf
          cases hf
        · rw [hs, Host.logged_eq_silent_iff.mpr (hworld ▸ hex)] at heq
          cases heq

end Lint

/-! ### What one request replaces -/

/-- Everything that is seen of a request. -/
def seen (l : Linter) : Request → List Event
  | .lint h p w => (l.lint h p w).events
  | .readLogs h logs w => (l.readLogs h logs w).events
  | _ => []

/-- A request replaces the list of a path, on the word of a batch that it returns. -/
inductive Replaces (l : Linter) (q : Path) : Request → Batch → Prop
  /-- A lint that has a report: of all paths that are covered, and of the file itself. -/
  | lint {σ : Type} {h : Host σ} {p : Path} {w : σ} {b : Batch} (hfruitful : ¬ l.Fruitless h p w)
    (hb : (l.lint h p w).result = .ok b)
    (hq : b.covers q = true ∨ h.isDir w p = false ∧ p.same q = true) :
    Replaces l q (.lint h p w) b
  | readLogs {σ : Type} {h : Host σ} {logs : List Path} {w : σ}
    (hq : (l.readLogs h logs w).result.covers q = true) :
    Replaces l q (.readLogs h logs w) (l.readLogs h logs w).result

/-- Of a batch, a covered path gets diagnostics of its own, and any other gets nothing. -/
theorem last?_publish_cases (b : Batch) (q : Path) :
    (b.covers q = false ∧ Sink.last? (publications (publish b)) q = none) ∨
      b.covers q = true ∧
        ∃ ds, Sink.last? (publications (publish b)) q = some ds ∧ ds.Sublist (b.ofPath q) := by
  rw [last?_publish]
  cases hq : (b.spellings q).getLast? with
  | none => exact .inl ⟨Batch.covers_eq_false_iff.mpr (List.getLast?_eq_none_iff.mp hq), rfl⟩
  | some f =>
    have hf : f ∈ b.spellings q := List.mem_of_getLast? hq
    exact .inr ⟨Batch.covers_iff.mpr (List.ne_nil_of_mem hf), _, rfl,
      b.ofFile_sublist_ofPath (Batch.mem_spellings.mp hf).2⟩

/-- **A lint replaces a list by diagnostics of its batch**, or leaves it. -/
theorem last?_lint {σ : Type} (h : Host σ) (l : Linter) (p : Path) (w : σ) (q : Path) :
    ((∀ b, ¬ l.Replaces q (.lint h p w) b) ∧
        Sink.last? (publications (l.lint h p w).events) q = none) ∨
      ∃ b ds, l.Replaces q (.lint h p w) b ∧
        Sink.last? (publications (l.lint h p w).events) q = some ds ∧ ds.Sublist (b.ofPath q) := by
  rcases upshot_of_lint h l p w with ⟨hfruitless, hpubs, -, -⟩ | ⟨hfruitful, text, hreports⟩
  · refine .inl ⟨?_, by rw [hpubs]; rfl⟩
    rintro b ⟨hfruitful, -, -⟩
    exact hfruitful hfruitless
  obtain ⟨hb, hpubs⟩ := lint_of_reports hreports
  rw [hpubs]
  rcases last?_publish_cases (l.batch text) q with ⟨hq, hnone⟩ | ⟨hq, ds, hsome, hsub⟩
  · -- the path is not covered, so it is cleared if it is the file itself
    by_cases hself : h.isDir w p = false ∧ p.same q = true
    · have hcovers : (l.batch text).covers p = false := by rw [Batch.covers_congr hself.2, hq]
      refine .inr ⟨l.batch text, [], .lint hfruitful hb (.inr hself), ?_, List.nil_sublist _⟩
      simp only [clearing, hself.1, hcovers, Bool.not_false, Bool.and_self, if_true]
      rw [Sink.last?_concat, if_pos hself.2]
    · refine .inl ⟨?_, ?_⟩
      · rintro b ⟨-, hb', hq'⟩
        rw [hb] at hb'
        cases hb'
        rw [hq] at hq'
        exact hq'.elim Bool.false_ne_true hself
      · unfold clearing
        split
        · rename_i hclear
          rw [Bool.and_eq_true, Bool.not_eq_true'] at hclear
          rw [Sink.last?_concat, hnone, if_neg fun hsame => hself ⟨hclear.1, hsame⟩]
        · rw [List.append_nil, hnone]
  · refine .inr ⟨l.batch text, ds, .lint hfruitful hb (.inl hq), ?_, hsub⟩
    rw [last?_append_clearing hq, hsome]

/-- **Reading logs replaces a list by diagnostics of its batch**, or leaves it. -/
theorem last?_readLogs {σ : Type} (h : Host σ) (l : Linter) (logs : List Path) (w : σ) (q : Path) :
    ((l.readLogs h logs w).result.covers q = false ∧
        Sink.last? (publications (l.readLogs h logs w).events) q = none) ∨
      (l.readLogs h logs w).result.covers q = true ∧
        ∃ ds, Sink.last? (publications (l.readLogs h logs w).events) q = some ds ∧
          ds.Sublist ((l.readLogs h logs w).result.ofPath q) := by
  obtain ⟨hresult, hpubs⟩ := readLogs_published h l logs w
  rw [hresult, hpubs]
  generalize l.batches h logs w = bs
  by_cases hcovers : ∃ b ∈ bs, b.covers q = true
  · obtain ⟨before, last, after, rfl, hlast, hafter⟩ := Batch.exists_last_covering hcovers
    obtain ⟨f, hf⟩ : ∃ f, f ∈ (last.spellings q).getLast? :=
      ⟨_, List.getLast?_eq_getLast_of_ne_nil (Batch.covers_iff.mp hlast)⟩
    have hsame := (Batch.mem_spellings.mp (List.mem_of_getLast? hf)).2
    refine .inr ⟨Batch.covers_flatten_iff.mpr ⟨last, by simp, hlast⟩, _,
      last?_publicationsOf hafter hf, ?_⟩
    exact (last.ofFile_sublist_ofPath hsame).trans (Batch.ofPath_sublist_flatten (by simp) q)
  · have hnone : ∀ b ∈ bs, b.covers q = false := fun b hb =>
      Bool.eq_false_iff.mpr fun hq => hcovers ⟨b, hb, hq⟩
    refine .inl ⟨Bool.eq_false_iff.mpr fun hq => ?_, last?_publicationsOf_eq_none hnone⟩
    exact hcovers (Batch.covers_flatten_iff.mp hq)

/-- **One request** replaces the list of a path by diagnostics of one batch, or publishes nothing
for the path. -/
theorem last?_seen (l : Linter) (r : Request) (q : Path) :
    ((∀ b, ¬ l.Replaces q r b) ∧ Sink.last? (publications (l.seen r)) q = none) ∨
      ∃ b ds, l.Replaces q r b ∧ Sink.last? (publications (l.seen r)) q = some ds ∧
        ds.Sublist (b.ofPath q) := by
  cases r with
  | ingest text => exact .inl ⟨nofun, rfl⟩
  | lint h p w => exact last?_lint h l p w q
  | readLogs h logs w =>
    rcases last?_readLogs h l logs w q with ⟨hq, hnone⟩ | ⟨hq, ds, hds, hsub⟩
    · refine .inl ⟨?_, hnone⟩
      intro b hr
      cases hr with
      | readLogs hq' =>
        rw [hq] at hq'
        cases hq'
    · exact .inr ⟨_, ds, .readLogs hq, hds, hsub⟩
  | setConfig c => exact .inl ⟨nofun, rfl⟩
  | addRoot root => exact .inl ⟨nofun, rfl⟩

/-! ### Runs -/

/-- Everything that is seen of some requests, in order. -/
def seenIn (l : Linter) : List Request → List Event
  | [] => []
  | r :: rs => l.seen r ++ (l.perform r).seenIn rs

/-- None of the requests replaces the list of a path. -/
def Spares (l : Linter) (q : Path) : List Request → Prop
  | [] => True
  | r :: rs => (∀ b, ¬ l.Replaces q r b) ∧ (l.perform r).Spares q rs

/-- **A run** replaces the list of a path for the last time by diagnostics of one batch, or
publishes nothing for the path. -/
theorem last?_seenIn (l : Linter) (rs : List Request) (q : Path) :
    (l.Spares q rs ∧ Sink.last? (publications (l.seenIn rs)) q = none) ∨
      ∃ before r after b ds, rs = before ++ r :: after ∧ (l.run before).Replaces q r b ∧
        (l.run (before ++ [r])).Spares q after ∧
        Sink.last? (publications (l.seenIn rs)) q = some ds ∧ ds.Sublist (b.ofPath q) := by
  induction rs generalizing l with
  | nil => exact .inl ⟨trivial, rfl⟩
  | cons r rs ih =>
    rw [seenIn, Event.publications_append, Sink.last?_append]
    rcases ih (l.perform r) with ⟨hspares, hnone⟩ | ⟨before, r', after, b, ds, rfl, hr', ha, hds, hsub⟩
    · -- no later request has a say, so this one decides
      rw [hnone, Option.none_or]
      rcases l.last?_seen r q with ⟨hr, hr'⟩ | ⟨b, ds, hr, hds, hsub⟩
      · exact .inl ⟨⟨hr, hspares⟩, hr'⟩
      · exact .inr ⟨[], r, rs, b, ds, rfl, hr, hspares, hds, hsub⟩
    · rw [hds]
      exact .inr ⟨r :: before, r', after, b, ds, rfl, hr', ha, rfl, hsub⟩

/-- **No list is stale.** A lint without a report changes nothing. Any other lint replaces the lists
of the paths that its batch covers by diagnostics of the batch, and the list of its own file too,
by an empty one if the file is not covered; it leaves all others. Hence after any requests the list
of a path has diagnostics of the batch on whose word it was last replaced, and is as before the
requests if none of them replaced it. -/
theorem fresh_of_requests (l : Linter) (s : Sink) :
    (∀ {σ : Type} (h : Host σ) (p : Path) (w : σ),
      let o := l.lint h p w
      let s' := s.receive o.events
      (l.Fruitless h p w → s' = s ∧ o.linter = l ∧ ∀ b, o.result = .ok b → b = []) ∧
      (¬ l.Fruitless h p w → ∃ b, o.result = .ok b ∧
        (h.isDir w p = false →
          (s'.shown p).Sublist (b.ofPath p) ∧ (b.covers p = false → s'.shown p = [])) ∧
        (∀ q, b.covers q = false → (h.isDir w p = false → p.same q = false) →
          s'.shown q = s.shown q) ∧
        ∀ q, b.covers q = true → (s'.shown q).Sublist (b.ofPath q))) ∧
    ∀ rs q,
      (l.Spares q rs ∧ (s.receive (l.seenIn rs)).shown q = s.shown q) ∨
      ∃ before r after b, rs = before ++ r :: after ∧ (l.run before).Replaces q r b ∧
        (l.run (before ++ [r])).Spares q after ∧
        ((s.receive (l.seenIn rs)).shown q).Sublist (b.ofPath q) ∧
        (b.covers q = false → (s.receive (l.seenIn rs)).shown q = []) := by
  have hnil : ∀ {b : Batch} {q : Path} {ds : List Diagnostic}, ds.Sublist (b.ofPath q) →
      b.covers q = false → ds = [] := fun hsub hq => by
    rw [Batch.ofPath_eq_nil_of_not_covers hq] at hsub
    exact List.sublist_nil.mp hsub
  refine ⟨fun h p w => ?_, fun rs q => ?_⟩
  · intro o s'
    rcases upshot_of_lint h l p w with ⟨hf, hpubs, hlinter, hresult⟩ | ⟨hf, text, hreports⟩
    · refine ⟨fun _ => ⟨?_, hlinter, hresult⟩, fun hf' => absurd hf hf'⟩
      change s.receive (l.lint h p w).events = s
      rw [Sink.receive, hpubs]
      rfl
    · obtain ⟨hb, -⟩ := lint_of_reports hreports
      have hshown : ∀ q, s'.shown q =
          (Sink.last? (publications (l.lint h p w).events) q).getD (s.shown q) :=
        fun q => Sink.shown_receive s _ q
      -- a path that is replaced shows diagnostics of this batch
      have hreplaced : ∀ q, (l.batch text).covers q = true ∨ h.isDir w p = false ∧ p.same q = true →
          (s'.shown q).Sublist ((l.batch text).ofPath q) := fun q hq => by
        rcases last?_lint h l p w q with ⟨hnone, -⟩ | ⟨b, ds, ⟨-, hb', -⟩, hds, hsub⟩
        · exact absurd (.lint hf hb hq) (hnone _)
        · rw [hb] at hb'
          cases hb'
          rwa [hshown, hds]
      refine ⟨fun hf' => absurd hf' hf, fun _ => ⟨l.batch text, hb, fun hfile => ?_, fun q hq hother =>
        ?_, fun q hq => hreplaced q (.inl hq)⟩⟩
      · have hsub := hreplaced p (.inr ⟨hfile, Path.same_iff.mpr rfl⟩)
        exact ⟨hsub, hnil hsub⟩
      · rcases last?_lint h l p w q with ⟨-, hnone⟩ | ⟨b, ds, ⟨-, hb', hq'⟩, -, -⟩
        · rw [hshown, hnone]
          rfl
        · rw [hb] at hb'
          cases hb'
          rw [hq] at hq'
          obtain ⟨hfile, hsame⟩ := hq'.resolve_left Bool.false_ne_true
          rw [hother hfile] at hsame
          cases hsame
  · rw [Sink.shown_receive]
    rcases l.last?_seenIn rs q with ⟨hspares, hnone⟩ | ⟨before, r, after, b, ds, hrs, hr, ha, hds, hsub⟩
    · rw [hnone]
      exact .inl ⟨hspares, rfl⟩
    · rw [hds]
      exact .inr ⟨before, r, after, b, hrs, hr, ha, hsub, hnil hsub⟩

/-- A report without functions clears its own file and no other, and a run without a log clears
nothing. -/
theorem fresh_of_requests_of_clean_report :
    let report : Memory := { script := { report := some "-\n1 file analyzed" } }
    let o := strict.lint Memory.host ⟨"/w/a.c"⟩ report
    let o' := strict.lint Memory.host ⟨"/w/a.c"⟩ {}
    o.result = .ok [] ∧ o'.result = .ok [] ∧
      ∀ s : Sink, (s.receive o.events).shown ⟨"/w//a.c"⟩ = [] ∧
        (s.receive o.events).shown ⟨"/w/b.c"⟩ = s.shown ⟨"/w/b.c"⟩ ∧ s.receive o'.events = s := by
  intro report o o'
  have hresult : o.result = .ok [] := by decide +kernel
  have hfruitful : ¬ strict.Fruitless Memory.host ⟨"/w/a.c"⟩ report := by
    rintro (⟨f, hf⟩ | ⟨j, hj, hex⟩)
    · rw [hresult] at hf
      cases hf
    · cases hj
      exact absurd hex (by decide +kernel)
  have hfruitless : strict.Fruitless Memory.host ⟨"/w/a.c"⟩ ({} : Memory) :=
    .inr ⟨_, rfl, by decide +kernel⟩
  refine ⟨hresult, by decide +kernel, fun s => ?_⟩
  obtain ⟨-, hpublished⟩ := (fresh_of_requests strict s).1 Memory.host ⟨"/w/a.c"⟩ report
  obtain ⟨b, hb, hself, hothers, -⟩ := hpublished hfruitful
  cases hresult.symm.trans hb
  obtain ⟨hsilent, -⟩ := (fresh_of_requests strict s).1 Memory.host ⟨"/w/a.c"⟩ {}
  have hsame : (⟨"/w/a.c"⟩ : Path).same ⟨"/w//a.c"⟩ = true := by decide +kernel
  refine ⟨?_, hothers _ rfl fun _ => by decide +kernel, (hsilent hfruitless).1⟩
  rw [Sink.shown, ← Path.same_iff.mp hsame]
  exact (hself (by decide +kernel)).2 rfl

end Linter

end ComplexityLint
