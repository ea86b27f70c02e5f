import ComplexityLint.Proofs.Disk.Logs
import ComplexityLint.Proofs.Linter.Logs

/-!
Logs that are read in parts. What comes of reading some logs depends on the texts of those that are
there and can be read (`readLogs_congr`): their batches stand one behind another, and their records
are stored in order. So logs can be read in several parts, each part by the linter that the one before
it left (`readLogs_append`), and a log without a text may as well not be named.
-/

namespace ComplexityLint

open Event (publications)

namespace Host

variable {σ : Type} (h : Host σ) (w : σ)

/-- The texts of the logs that are there and can be read, in order. -/
def texts (logs : List Path) : List String := logs.filterMap fun log => (h.logged log w).text?

theorem text?_logged_eq_some_iff {log : Path} {text : String} :
    (h.logged log w).text? = some text ↔ h.pathExists w log = true ∧ h.read w log = .ok text := by
  rw [logged]
  cases hex : h.pathExists w log with
  | false => simp [Reply.text?]
  | true =>
    cases hread : h.read w log <;> simp [Reply.text?]

theorem texts_append (before after : List Path) :
    h.texts w (before ++ after) = h.texts w before ++ h.texts w after := List.filterMap_append

/-- A log without a text adds none. -/
theorem texts_of_none {log : Path} (hlog : (h.logged log w).text? = none)
    (before after : List Path) : h.texts w (before ++ log :: after) = h.texts w (before ++ after) := by
  have hskip : h.texts w (log :: after) = h.texts w after := by
    rw [texts, List.filterMap_cons, hlog]
    rfl
  rw [texts_append, hskip, texts_append]

end Host

namespace Linter

variable {σ : Type} (h : Host σ) (l : Linter) (w : σ)

theorem batches_eq_map_texts (logs : List Path) :
    l.batches h logs w = (h.texts w logs).map l.batch := rfl

theorem result_readLogs (logs : List Path) :
    (l.readLogs h logs w).result = ((h.texts w logs).map l.batch).flatten := by
  rw [(readLogs_published h l logs w).1, batches_eq_map_texts]

/-- What comes of some logs depends on their texts. -/
theorem readLogs_congr {logs logs' : List Path} (htexts : h.texts w logs = h.texts w logs') :
    let o := l.readLogs h logs w
    let o' := l.readLogs h logs' w
    o.result = o'.result ∧ o.linter = o'.linter ∧
      publications o.events = publications o'.events := by
  intro o o'
  have hlinter : ∀ logs, (l.readLogs h logs w).linter = (h.texts w logs).foldl learn l := fun logs =>
    readLogs_linter h l logs w
  refine ⟨?_, ?_, ?_⟩
  · change (l.readLogs h logs w).result = (l.readLogs h logs' w).result
    rw [result_readLogs, result_readLogs, htexts]
  · change (l.readLogs h logs w).linter = (l.readLogs h logs' w).linter
    rw [hlinter, hlinter, htexts]
  · change publications (l.readLogs h logs w).events = publications (l.readLogs h logs' w).events
    rw [(readLogs_published h l logs w).2, (readLogs_published h l logs' w).2,
      batches_eq_map_texts, batches_eq_map_texts, htexts]

theorem world_readLogs (logs : List Path) : (l.readLogs h logs w).world = w := by
  induction logs generalizing l with
  | nil => rfl
  | cons log logs ih =>
    have hworld : (l.readLog h log w).world = w := (readLog_linter h l log w).2
    rw [readLogs_cons, hworld]
    exact ih _

/-- Logs are read in two parts, the second by the linter that the first left. -/
theorem readLogs_append (before after : List Path) :
    l.readLogs h (before ++ after) w = (l.readLogs h before w).followedBy
      ((l.readLogs h before w).linter.readLogs h after w) := by
  have hparts : l.readLogs h (before ++ after) w = after.foldl
      (fun o log => o.followedBy (o.linter.readLog h log o.world)) (l.readLogs h before w) :=
    List.foldl_append
  rw [hparts, foldl_readLog, world_readLogs]

/-- **Reading logs.** The logs that count are those that are there and can be read; on a disk these are
the regular files of at most ten mebibytes that hold a text. The batch that is returned is that of
their texts under the limits in force, text after text and without joining runs, and the linter has
taken in these texts in order. Another log changes neither the batch nor the linter nor what is
published, wherever it stands. So logs may be read in two parts, and their batches stand one behind
the other; what the linter knew before has no part in them. -/
theorem readLogs_of_texts (h : Host σ) (l : Linter) (w : σ) :
    (∀ log text, (h.logged log w).text? = some text ↔
      h.pathExists w log = true ∧ h.read w log = .ok text) ∧
    (∀ (spawn : Spawn) (d : Disk) (log : Path) (text : String),
      ((Disk.host spawn).logged log d).text? = some text ↔
        ∃ executable, d.look log = .ok (.file (.text text) executable) ∧
          text.utf8ByteSize ≤ Disk.logLimit) ∧
    (∀ logs, let o := l.readLogs h logs w
      o.result = ((h.texts w logs).map fun text =>
        Batch.assemble l.config.thresholds (Report.parse text)).flatten ∧
      o.linter = (h.texts w logs).foldl (fun l text => (l.ingest text).2) l) ∧
    (∀ before log after, (h.logged log w).text? = none →
      let o := l.readLogs h (before ++ log :: after) w
      let o' := l.readLogs h (before ++ after) w
      o.result = o'.result ∧ o.linter = o'.linter ∧
        publications o.events = publications o'.events) ∧
    (∀ before after, let o := l.readLogs h before w
      l.readLogs h (before ++ after) w = o.followedBy (o.linter.readLogs h after w)) ∧
    ∀ logs (l' : Linter), l'.config.thresholds = l.config.thresholds →
      (l'.readLogs h logs w).result = (l.readLogs h logs w).result := by
  refine ⟨fun log text => h.text?_logged_eq_some_iff w, fun spawn d log text => ?_, fun logs => ?_,
    fun before log after hlog => ?_, readLogs_append h l w, fun logs l' ht => ?_⟩
  · rw [Disk.text?_logged]
    exact Disk.text?_eq_some_iff
  · exact ⟨result_readLogs h l w logs, readLogs_linter h l logs w⟩
  · exact readLogs_congr h l w (h.texts_of_none w hlog before after)
  · have hbatch : l'.batch = l.batch := by
      funext text
      rw [batch, ht, batch]
    rw [result_readLogs, result_readLogs, hbatch]

/-- A log that is sealed and one that is missing, around one that is read. -/
theorem readLogs_of_texts_of_sealed_log :
    let text := "-\n5 3 9 1 6 f@1-9@a.c\n1 file analyzed"
    let m : Memory := { files := [(⟨"0.log"⟩, text), (⟨"1.log"⟩, text)], sealedFiles := [⟨"0.log"⟩] }
    let o := strict.readLogs Memory.host ([⟨"0.log"⟩, ⟨"1.log"⟩] ++ [⟨"2.log"⟩]) m
    let o' := strict.readLogs Memory.host [⟨"1.log"⟩] m
    o.result = o'.result ∧ o.linter = o'.linter ∧ o'.result.count = 1 ∧
      (o.linter.readLogs Memory.host [⟨"1.log"⟩] m).result = o'.result := by
  intro text m o o'
  obtain ⟨-, -, hvalues, hskip, -, hlimits⟩ := readLogs_of_texts Memory.host strict m
  have hsealed : (Memory.host.logged ⟨"0.log"⟩ m).text? = none := by decide +kernel
  have hmissing : (Memory.host.logged ⟨"2.log"⟩ m).text? = none := by decide +kernel
  obtain ⟨hfirst, hfirst', -⟩ := hskip [] ⟨"0.log"⟩ [⟨"1.log"⟩, ⟨"2.log"⟩] hsealed
  obtain ⟨hlast, hlast', -⟩ := hskip [⟨"1.log"⟩] ⟨"2.log"⟩ [] hmissing
  have hcount : o'.result.count = 1 := by
    rw [(hvalues [⟨"1.log"⟩]).1]
    decide +kernel
  have hconfig : o.linter.config = strict.config := by
    change (strict.readLogs Memory.host _ m).linter.config = _
    rw [readLogs_linter, foldl_learn]
  exact ⟨hfirst.trans hlast, hfirst'.trans hlast', hcount,
    hlimits [⟨"1.log"⟩] o.linter (by rw [hconfig])⟩

end Linter

end ComplexityLint
