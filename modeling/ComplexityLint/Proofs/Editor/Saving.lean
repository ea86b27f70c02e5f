import ComplexityLint.Proofs.Editor.Session
import ComplexityLint.Proofs.Uri.Segments

/-!
Saving the configuration document. A URI of it is recognised by its last segment as written, and so
exactly if this segment is a name as it stands, not empty and without escapes (`isConfigUri_iff`).
Then the configuration is loaded; any other URI of the document is taken for that of some file
(`saved_handle`).
-/

namespace ComplexityLint.Editor

/-- The path is one of a configuration document. -/
def NamesConfig (p : Path) : Prop := p.fileName? = some Config.fileName.toList

instance (p : Path) : Decidable (NamesConfig p) := inferInstanceAs (Decidable (_ = _))

/-- The last segment of a URI is a name as it stands: it is not empty and holds no escape. -/
def Unescaped (u : Uri) : Prop := ∃ s, u.lastSegment? = some s ∧ s ≠ [] ∧ '%' ∉ s

section Recognition

variable {text : String} {u : Uri} {p : Path}

/-- Of a path whose last segment is written without escapes, this segment is the file name. -/
theorem namesConfig_iff (hu : Uri.parse? text = some u) (hp : u.filePath? = some p) {s : List Char}
    (hlast : u.lastSegment? = some s) (hne : s ≠ []) (hplain : '%' ∉ s) :
    NamesConfig p ↔ s = Config.fileName.toList := by
  have hascii : ∀ c ∈ Config.fileName.toList, c.toNat < 0x80 := by simp [Config.fileName]
  have hname : ¬ Path.Idle Config.fileName.toList ∧ Config.fileName.toList ≠ ['.', '.'] := by decide
  obtain ⟨segments, hsegments, hlast⟩ := Option.bind_eq_some_iff.mp hlast
  obtain ⟨init, rfl⟩ := List.getLast?_eq_some_iff.mp hlast
  have hs : '/' ∉ s ∧ s ≠ ['.'] := Uri.resolved_of_parse? hu hsegments s (by simp)
  rw [NamesConfig, Path.fileName?_eq_some_iff,
    Uri.getLast?_components_filePath? hp hsegments hs hne hplain, Path.ofSegment?_eq_name_iff,
    and_iff_left hname]
  constructor
  · exact Text.eq_of_flatMap_lettersOf hascii
  · rintro rfl
    exact Text.flatMap_lettersOf_of_ascii hascii

/-- **Which URIs of the document are recognised**: those whose last segment is written as it is. -/
theorem isConfigUri_iff (hu : Uri.parse? text = some u) (hp : u.filePath? = some p) :
    isConfigUri u = true ↔ NamesConfig p ∧ Unescaped u := by
  have hself : isConfigUri u = true ↔ u.lastSegment? = some Config.fileName.toList :=
    decide_eq_true_iff
  rw [hself]
  constructor
  · intro hlast
    have hne : Config.fileName.toList ≠ [] := by decide
    have hplain : '%' ∉ Config.fileName.toList := by decide
    exact ⟨(namesConfig_iff hu hp hlast hne hplain).mpr rfl, _, hlast, hne, hplain⟩
  · rintro ⟨hnames, s, hlast, hne, hplain⟩
    rw [hlast, (namesConfig_iff hu hp hlast hne hplain).mp hnames]

end Recognition

/-- **What saving a file does.** If its URI is that of a configuration document and the last segment
is written as it is, the configuration is loaded, and nothing is linted. Otherwise the configuration
stays, whatever there is to load, and the file is linted if that is wanted. So a document whose name
is written with escapes, or with a slash behind it, is saved without effect on the configuration. -/
theorem saved_handle {σ : Type} (k : Setting σ) {text : String} {u : Uri} {p : Path}
    (hu : Uri.parse? text = some u) (hp : u.filePath? = some p) (l : Linter) (w : σ) :
    (isConfigUri u = true ↔ NamesConfig p ∧ Unescaped u) ∧
      (NamesConfig p ∧ Unescaped u → handle k (.saved u) l w = reloadTurn k .silence l w) ∧
      (¬ (NamesConfig p ∧ Unescaped u) →
        handle k (.saved u) l w =
          (if l.config.execution.lintOnSave then lintTurn k .silence p l w else idle .silence l w) ∧
        (handle k (.saved u) l w).linter.config = l.config ∧
        ∀ load, handle { k with load := load } (.saved u) l w = handle k (.saved u) l w) := by
  have hiff := isConfigUri_iff hu hp
  refine ⟨hiff, fun h => ?_, fun h => ?_⟩
  · have hreloads : (Message.saved u).reloads = true := hiff.mpr h
    exact handle_of_reloads hreloads k w
  · have hother : (Message.saved u).reloads = false := Bool.eq_false_iff.mpr fun hc => h (hiff.mp hc)
    refine ⟨?_, (handle_of_not_reloads hother k l w).2⟩
    have hfile : isConfigUri u = false := hother
    rw [handle, hfile, if_neg Bool.false_ne_true, lintUri_eq, hp]
    cases l.config.execution.lintOnSave <;> rfl

/-- A URI with a dot segment is recognised, and one with an escaped letter is not. -/
theorem saved_handle_of_dots :
    let k : Setting Memory :=
      { host := Memory.host, load := fun _ _ => .ok { execution := { lintOnSave := true } } }
    let l : Linter := { config := {}, roots := [⟨"/w"⟩] }
    (∃ u p, Uri.parse? "file:///w/src/../lizard-lint.toml" = some u ∧ u.filePath? = some p ∧
      NamesConfig p ∧ Unescaped u ∧
      (handle k (.saved u) l {}).linter.config.execution.lintOnSave = true) ∧
    ∃ u p, Uri.parse? "file:///w/%6cizard-lint.toml" = some u ∧ u.filePath? = some p ∧
      NamesConfig p ∧ ¬ Unescaped u ∧ (handle k (.saved u) l {}).linter.config = l.config := by
  intro k l
  let dots : Uri := ⟨"file".toList, .here, some ["w".toList, "lizard-lint.toml".toList]⟩
  let escaped : Uri := ⟨"file".toList, .here, some ["w".toList, "%6cizard-lint.toml".toList]⟩
  have hdots : Uri.parse? "file:///w/src/../lizard-lint.toml" = some dots := by decide +kernel
  have hescaped : Uri.parse? "file:///w/%6cizard-lint.toml" = some escaped := by decide +kernel
  have hpath : dots.filePath? = some ⟨"/w/lizard-lint.toml"⟩ := by decide +kernel
  have hpath' : escaped.filePath? = some ⟨"/w/lizard-lint.toml"⟩ := by decide +kernel
  have hnames : NamesConfig ⟨"/w/lizard-lint.toml"⟩ := by decide +kernel
  have hplain : Unescaped dots := ⟨"lizard-lint.toml".toList, rfl, by decide, by decide⟩
  have hmasked : ¬ Unescaped escaped := by
    rintro ⟨s, hs, -, hnone⟩
    cases hs
    exact hnone (by decide)
  obtain ⟨-, hload, -⟩ := saved_handle k hdots hpath l {}
  obtain ⟨-, -, hkeep⟩ := saved_handle k hescaped hpath' l {}
  refine ⟨⟨dots, _, hdots, hpath, hnames, hplain, ?_⟩, escaped, _, hescaped, hpath', hnames, hmasked,
    (hkeep fun h => hmasked h.2).2.1⟩
  rw [hload ⟨hnames, hplain⟩]
  rfl

/-- **Not all URIs of a configuration document are recognised**: not one with an escaped letter, and
not one with a slash behind the name. -/
theorem unrecognised_documents :
    (¬ ∀ text u p, Uri.parse? text = some u → u.filePath? = some p →
      (isConfigUri u = true ↔ NamesConfig p)) ∧
    ∀ text ∈ ["file:///w/lizard%2Dlint.toml", "file:///w/lizard-lint.toml/"],
      ∃ u ∈ Uri.parse? text, ∃ p ∈ u.filePath?, NamesConfig p ∧ isConfigUri u = false := by
  have hmissed : ∀ text ∈ ["file:///w/lizard%2Dlint.toml", "file:///w/lizard-lint.toml/"],
      ∃ u ∈ Uri.parse? text, ∃ p ∈ u.filePath?, NamesConfig p ∧ isConfigUri u = false := by
    decide +kernel
  refine ⟨fun h => ?_, hmissed⟩
  obtain ⟨u, hu, p, hp, hnames, hother⟩ := hmissed _ List.mem_cons_self
  rw [(h _ u p hu hp).mpr hnames] at hother
  cases hother

end ComplexityLint.Editor
