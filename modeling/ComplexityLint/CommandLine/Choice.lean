import ComplexityLint.Output.Table
import ComplexityLint.Severity

/-!
Values of options that are chosen from a fixed list of words.
-/

namespace ComplexityLint.CommandLine

/-- The value whose word is the given text; on demand the case of ASCII letters does not count. -/
def choose {α : Type} (ignoreCase : Bool) (word : α → String) (all : List α) (text : String) :
    Except String α :=
  match all.find? fun a => word a = text || (ignoreCase && (word a).toLower = text.toLower) with
  | some a => .ok a
  | none => .error ("invalid variant: " ++ text)

/-- A text is refused exactly if it is the word of no value, and what is said then names the text. -/
theorem choose_eq_error_iff {α : Type} {word : α → String} {all : List α} {text reason : String} :
    choose false word all text = .error reason ↔
      (∀ a ∈ all, word a ≠ text) ∧ reason = "invalid variant: " ++ text := by
  unfold choose
  split
  · rename_i a h
    have hword : word a = text := by simpa using List.find?_some h
    simp only [reduceCtorEq, false_iff, not_and]
    exact fun hnone => absurd hword (hnone a (List.mem_of_find?_eq_some h))
  · rename_i h
    simp only [Bool.false_and, Bool.or_false, List.find?_eq_none, decide_eq_true_eq] at h
    rw [Except.error.injEq, eq_comm]
    exact (and_iff_right h).symm

/-- Each value is chosen by its word, where no two words are one text in small letters. -/
theorem choose_word {α : Type} {word : α → String} {all : List α}
    (hwords : ∀ a ∈ all, ∀ b ∈ all, (word a).toLower = (word b).toLower → a = b) (ignoreCase : Bool)
    {a : α} (ha : a ∈ all) : choose ignoreCase word all (word a) = .ok a := by
  unfold choose
  split
  · rename_i b h
    have hb : word b = word a ∨ (word b).toLower = (word a).toLower := by
      have hfound := List.find?_some h
      simp only [Bool.or_eq_true, Bool.and_eq_true, decide_eq_true_eq] at hfound
      exact hfound.imp_right And.right
    have hlower : (word b).toLower = (word a).toLower := hb.elim (congrArg _) id
    rw [hwords b (List.mem_of_find?_eq_some h) a ha hlower]
  · rename_i h
    have hnone := List.find?_eq_none.mp h a ha
    simp at hnone

/-- Chooses a grade. -/
def chooseSeverity (ignoreCase : Bool) (text : String) : Except String Severity :=
  choose ignoreCase Severity.name Severity.all text

/-- Chooses a key to sort by. -/
def chooseSortKey (ignoreCase : Bool) (text : String) : Except String Output.SortKey :=
  choose ignoreCase Output.SortKey.word Output.SortKey.all text

theorem chooseSeverity_name (ignoreCase : Bool) (s : Severity) :
    chooseSeverity ignoreCase s.name = .ok s :=
  choose_word (by decide +kernel) ignoreCase (by cases s <;> decide)

theorem chooseSortKey_word (ignoreCase : Bool) (k : Output.SortKey) :
    chooseSortKey ignoreCase k.word = .ok k :=
  choose_word (by decide +kernel) ignoreCase (by cases k <;> decide)

end ComplexityLint.CommandLine
