import ComplexityLint.Disk.Process
import ComplexityLint.Proofs.Linter.History

/-!
The logs on a disk that can be read: regular files of at most ten mebibytes that hold a text
(`text?_eq_some_iff`). All others, like those that are not there, are silent to a linter on the disk
(`text?_logged`).
-/

namespace ComplexityLint.Disk

/-- The text of a log that is there and can be read. -/
def text? (d : Disk) (log : Path) : Option String := (d.readLog log).toOption

/-- The texts of the logs that are there and can be read, in order. -/
def texts (d : Disk) (logs : List Path) : List String := logs.filterMap d.text?

theorem readLog_eq_ok_iff {d : Disk} {log : Path} {text : String} :
    d.readLog log = .ok text ↔
      ∃ executable, d.look log = .ok (.file (.text text) executable) ∧
        text.utf8ByteSize ≤ logLimit := by
  constructor
  · intro h
    unfold readLog at h
    split at h
    · cases h
    · rename_i content executable hlook
      split at h
      · cases h
      · rename_i hsize
        cases content with
        | binary bytes invalid => cases h
        | text s =>
          cases h
          exact ⟨executable, hlook, Nat.not_lt.mp hsize⟩
    · cases h
  · rintro ⟨executable, hlook, hsize⟩
    have hsmall : ¬ logLimit < (Content.text text).size := Nat.not_lt.mpr hsize
    rw [readLog, hlook]
    exact if_neg hsmall

theorem text?_eq_some_iff {d : Disk} {log : Path} {text : String} :
    d.text? log = some text ↔
      ∃ executable, d.look log = .ok (.file (.text text) executable) ∧
        text.utf8ByteSize ≤ logLimit := by
  rw [← readLog_eq_ok_iff, text?]
  cases d.readLog log <;> simp [Except.toOption]

theorem pathExists_of_readLog {d : Disk} {log : Path} {text : String}
    (h : d.readLog log = .ok text) : d.pathExists log = true := by
  rw [pathExists]
  unfold readLog at h
  cases hlook : d.look log with
  | error r => rw [hlook] at h; cases h
  | ok i => rfl

theorem text?_logged (spawn : Spawn) (d : Disk) (log : Path) :
    ((host spawn).logged log d).text? = d.text? log := by
  unfold Host.logged
  cases hread : d.readLog log with
  | ok text =>
    have hex : (host spawn).pathExists d log = true := pathExists_of_readLog hread
    have hread' : (host spawn).read d log = .ok text := by simp [host, hread, Except.mapError]
    simp [hex, hread', text?, hread, Except.toOption, Reply.text?]
  | error cause =>
    have hread' : (host spawn).read d log = .error (.file log cause) := by
      simp [host, hread, Except.mapError]
    rw [hread', text?, hread]
    split <;> rfl

theorem texts_filter (d : Disk) (logs : List Path) :
    d.texts (logs.filter fun log => (d.text? log).isSome) = d.texts logs := by
  rw [texts, List.filterMap_filter, texts]
  refine List.filterMap_congr fun log _ => ?_
  cases d.text? log <;> rfl

end ComplexityLint.Disk
