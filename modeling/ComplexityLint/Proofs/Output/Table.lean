import ComplexityLint.Output.Table
import Mathlib.Data.List.Nodup
import Mathlib.Data.List.Perm.Basic

/-!
What a table shows of a function. The lines are those of the entries in another order, so a name that
is listed once has one line (`filter_sortEntries`). The number of a metric stands in the column of
that metric, and it stands out exactly if it is marked (`rowCells_column`).
-/

namespace ComplexityLint.Output

/-- The column of a metric. -/
def column : Metric → Nat
  | .lines => 1
  | .complexity => 2
  | .tokens => 3
  | .parameters => 4

/-- The number of a metric stands out in the line of a function. -/
def Highlighted (e : Entry) (m : Metric) : Prop :=
  ∃ cell, (rowCells e)[column m]? = some cell ∧ cell.style ≠ .plain

theorem rowCells_column (e : Entry) (m : Metric) :
    (rowCells e)[column m]? = some ⟨toString (m.observe e.record).toNat,
      if e.flags.get m then { bold := true, colour := some .red } else .plain⟩ := by
  cases m <;> rfl

theorem highlighted_iff {e : Entry} {m : Metric} : Highlighted e m ↔ e.flags.get m = true := by
  have hmarked : ({ bold := true, colour := some .red } : Style) ≠ .plain := by decide
  rw [Highlighted, rowCells_column]
  cases hflag : e.flags.get m with
  | true => simp [hmarked]
  | false => simp

theorem sortEntries_perm (k : SortKey) (descending : Bool) (es : List Entry) :
    (sortEntries k descending es).Perm es := List.mergeSort_perm _ _

/-- Each name has one line, whatever the order. -/
theorem filter_sortEntries {es : List Entry} (hnd : (es.map (·.record.name)).Nodup) {e : Entry}
    (he : e ∈ es) (k : SortKey) (descending : Bool) :
    (sortEntries k descending es).filter (·.record.name = e.record.name) = [e] := by
  have hperm := sortEntries_perm k descending es
  have hsorted : (sortEntries k descending es).Nodup := hperm.nodup_iff.mpr (hnd.of_map _)
  refine List.perm_singleton.mp ((List.perm_ext_iff_of_nodup (hsorted.filter _)
    (List.nodup_singleton e)).mpr fun e' => ?_)
  rw [List.mem_filter, hperm.mem_iff, decide_eq_true_eq, List.mem_singleton]
  constructor
  · rintro ⟨he', hname⟩
    exact List.inj_on_of_nodup_map hnd he' he hname
  · rintro rfl
    exact ⟨he, rfl⟩

end ComplexityLint.Output
