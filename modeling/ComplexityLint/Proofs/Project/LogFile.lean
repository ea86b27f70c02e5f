import ComplexityLint.Project
import ComplexityLint.Proofs.Path
import ComplexityLint.Proofs.Path.Join
import ComplexityLint.Proofs.Text.Ascii

/-!
The log of a path. Whatever the path, its log is a file in the log directory and its name ends in
`.log` behind something else (`exists_logName`), so it is none of the files that can be analyzed
(`logFile_ne_of_isSource`).
-/

namespace ComplexityLint

namespace Project

open ComplexityLint.Path (Plain)

/-- The file name of the log of a path. -/
def logName (target : Path) : String :=
  Text.spelling ((target.stem?.map fun n => Text.shown (String.ofList n)).getD "lizard" ++ ".log")

theorem logFile_eq (dir target : Path) : logFile dir target = dir.join ⟨logName target⟩ := rfl

/-- **The name of a log** is something with `.log` behind it. -/
theorem exists_logName (target : Path) :
    ∃ t, t ≠ [] ∧ '/' ∉ t ∧ (logName target).toList = t ++ ".log".toList := by
  obtain ⟨stem, hne, hslash, hname⟩ : ∃ stem : String, stem.toList ≠ [] ∧ '/' ∉ stem.toList ∧
      logName target = Text.spelling (stem ++ ".log") := by
    unfold logName Path.stem?
    rcases hn : target.fileName? with _ | n
    · exact ⟨"lizard", by decide, by decide, rfl⟩
    · obtain ⟨hslash, hbusy, -⟩ := Path.plain_of_fileName? hn
      obtain ⟨hne, hsub⟩ := Path.stem_splitName fun h => hbusy (.inl h)
      refine ⟨_, Text.shown_ne_nil (by simpa using hne), fun h => ?_, rfl⟩
      have hmem := Text.mem_of_mem_shown (by decide) (by decide) h
      rw [String.toList_ofList] at hmem
      exact hslash (hsub _ hmem)
  refine ⟨stem.toList.flatMap Text.lettersOf, ?_, ?_, ?_⟩
  · obtain ⟨c, s, hs⟩ := List.exists_cons_of_ne_nil hne
    intro hnil
    rw [hs, List.flatMap_cons, List.append_eq_nil_iff] at hnil
    exact Text.lettersOf_ne_nil c hnil.1
  · rwa [Text.mem_flatMap_lettersOf (by decide)]
  · have hlog : ".log".toList.flatMap Text.lettersOf = ".log".toList := by decide +kernel
    rw [hname, Text.toList_spelling, String.toList_append, List.flatMap_append, hlog]

theorem plain_logName (target : Path) : Plain (logName target).toList := by
  obtain ⟨t, ht, hslash, hname⟩ := exists_logName target
  have hlen : 4 < (logName target).toList.length := by
    have hpos := List.length_pos_iff.mpr ht
    rw [hname, List.length_append]
    change 4 < t.length + 4
    omega
  refine ⟨by rw [hname, List.mem_append]; simp [hslash], ?_, fun h => ?_⟩
  · rintro (h | h) <;> simp [h] at hlen
  · simp [h] at hlen

/-- **A log is a file in the log directory.** -/
theorem components_logFile (dir target : Path) :
    (logFile dir target).components = dir.components ++ [.name (logName target).toList] :=
  Path.components_join dir (plain_logName target)

theorem fileName?_logFile (dir target : Path) :
    (logFile dir target).fileName? = some (logName target).toList :=
  Path.fileName?_of_components (components_logFile dir target)

theorem extension?_logFile (dir target : Path) :
    (logFile dir target).extension? = some "log".toList := by
  obtain ⟨t, ht, -, hname⟩ := exists_logName target
  rw [Path.extension?, fileName?_logFile, hname]
  exact congrArg Prod.snd (Path.splitName_append (e := "log".toList) ht (by decide))

/-- A file that can be analyzed is called otherwise than any log. -/
theorem fileName?_ne_of_isSource {p : Path} (hp : isSource p = true) (dir target : Path) :
    (logFile dir target).fileName? ≠ p.fileName? := by
  intro heq
  have hext : p.extension? = some "log".toList := by
    rw [← extension?_logFile dir target, Path.extension?, Path.extension?, heq]
  rw [isSource, hext] at hp
  exact absurd hp (by decide)

/-- **No log is a file that can be analyzed.** -/
theorem logFile_ne_of_isSource {p : Path} (hp : isSource p = true) (dir target : Path) :
    (logFile dir target).same p = false :=
  Bool.eq_false_iff.mpr fun h => fileName?_ne_of_isSource hp dir target (Path.fileName?_congr h)

end Project

end ComplexityLint
