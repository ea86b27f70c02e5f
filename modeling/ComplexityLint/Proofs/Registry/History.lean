import ComplexityLint.Proofs.Registry.Table
import Mathlib.Data.List.Induction

/-!
A registry as a function of what was taken in. From the list of all intakes, in order, `ofHistory`
reads off the files, the functions of each, and for each function what the last intake of it says.
`foldl_take` shows that storing the intakes one after another builds just this registry.
-/

namespace ComplexityLint

/-- A record that is taken in, with the limits in force. -/
structure Intake where
  record : FunctionRecord
  limits : Thresholds
deriving DecidableEq

/-- What is known of a function after an intake of it. -/
def Intake.entry (i : Intake) : Entry :=
  ⟨i.record, Flags.ofViolations (i.limits.evaluate i.record)⟩

namespace Registry

/-- Takes in a record. -/
def take (reg : Registry) (i : Intake) : Registry := reg.see ⟨i.record, some i.entry.flags⟩

/-- What is known of a function after intakes of its file: what the last one of its name says. -/
def latest? (is : List Intake) (name : String) : Option Entry :=
  (is.filter fun i => i.record.name = name).getLast?.map Intake.entry

/-- The entries of a file after intakes of it. -/
def entriesOf (is : List Intake) : List Entry :=
  (is.map (·.record.name)).eraseDups.filterMap (latest? is)

/-- The table after some intakes. -/
def tableOf (is : List Intake) : Table :=
  (is.map (·.record.file)).eraseDups.map fun file =>
    (file, entriesOf (is.filter fun i => i.record.file = file))

/-- The registry after some intakes. -/
def ofHistory (is : List Intake) : Registry := ofTable (tableOf is)

/-! ### The functions of one file -/

theorem latest?_concat (is : List Intake) (i : Intake) (name : String) :
    latest? (is ++ [i]) name = if name = i.record.name then some i.entry else latest? is name := by
  by_cases hn : name = i.record.name
  · simp [latest?, List.filter_append, hn]
  · simp [latest?, List.filter_append, hn, Ne.symm hn]

theorem exists_latest? {is : List Intake} {name : String} (h : name ∈ is.map (·.record.name)) :
    ∃ e, latest? is name = some e ∧ e.record.name = name := by
  obtain ⟨i, hi, hname⟩ := List.mem_map.mp h
  have hne : (is.filter fun i => i.record.name = name) ≠ [] :=
    List.ne_nil_of_mem (List.mem_filter.mpr ⟨hi, decide_eq_true hname⟩)
  have hlast := List.getLast_mem hne
  rw [List.mem_filter, decide_eq_true_eq] at hlast
  exact ⟨_, by rw [latest?, List.getLast?_eq_getLast_of_ne_nil hne]; rfl, hlast.2⟩

/-- Storing an entry changes what is known of its name and adds the name at the end if it is new. -/
theorem storeEntry_filterMap {names : List String} (hnd : names.Nodup) {g : String → Option Entry}
    (hg : ∀ n ∈ names, ∃ e, g n = some e ∧ e.record.name = n) (e : Entry) :
    storeEntry e (names.filterMap g) =
      (if e.record.name ∈ names then names else names ++ [e.record.name]).filterMap
        fun n => if n = e.record.name then some e else g n := by
  induction names with
  | nil => simp [storeEntry, alter]
  | cons n names ih =>
    obtain ⟨hn, hnd⟩ := List.nodup_cons.mp hnd
    obtain ⟨⟨e', he', hname⟩, hg⟩ := List.forall_mem_cons.mp hg
    by_cases he : n = e.record.name
    · -- The names behind are other names, of which the same is known as before.
      have hrest : names.filterMap (fun n => if n = e.record.name then some e else g n) =
          names.filterMap g :=
        List.filterMap_congr fun m hm => if_neg fun hme => hn (by rwa [he, ← hme])
      rw [List.filterMap_cons_some he', storeEntry, alter, if_pos (hname.trans he),
        if_pos (by rw [he]; exact List.mem_cons_self), List.filterMap_cons, if_pos he, hrest]
    · rw [List.filterMap_cons_some he', storeEntry, alter, hname, if_neg he, ← storeEntry, ih hnd hg]
      by_cases hmem : e.record.name ∈ names
      · simp [hmem, he, he']
      · simp [hmem, he, he', Ne.symm he]

theorem storeEntry_entriesOf (is : List Intake) (i : Intake) :
    storeEntry i.entry (entriesOf is) = entriesOf (is ++ [i]) := by
  rw [entriesOf, storeEntry_filterMap (nodup_eraseDups _)
      (fun n hn => exists_latest? (List.mem_eraseDups.mp hn)),
    entriesOf, List.map_append, List.map_singleton, eraseDups_concat]
  simp only [List.mem_eraseDups, latest?_concat]
  rfl

theorem names_entriesOf (is : List Intake) :
    (entriesOf is).map (·.record.name) = (is.map (·.record.name)).eraseDups := by
  rw [entriesOf, List.map_filterMap]
  refine (List.filterMap_congr fun n hn => ?_).trans List.filterMap_some
  obtain ⟨e, he, hname⟩ := exists_latest? (List.mem_eraseDups.mp hn)
  rw [he, Option.map_some, hname]

theorem latest?_of_mem_entriesOf {is : List Intake} {e : Entry} (he : e ∈ entriesOf is) :
    latest? is e.record.name = some e := by
  obtain ⟨n, hn, hlatest⟩ := List.mem_filterMap.mp he
  obtain ⟨e', he', hname⟩ := exists_latest? (List.mem_eraseDups.mp hn)
  rw [hlatest] at he'
  cases he'
  rwa [hname]

/-! ### The files -/

/-- Storing an entry changes what is known of its file and adds the file at the end if it is new. -/
theorem store_map {files : List String} (hnd : files.Nodup) (g : String → List Entry) (e : Entry)
    (hnew : e.record.file ∉ files → g e.record.file = []) :
    Table.store e (files.map fun f => (f, g f)) =
      (if e.record.file ∈ files then files else files ++ [e.record.file]).map
        fun f => (f, if f = e.record.file then storeEntry e (g f) else g f) := by
  rw [map_entries (Table.store e) e.record.file (fun f => (f, storeEntry e (g f)))
    (fun f es => rfl) hnd
    fun h => by simp [Table.store, hnew h, storeEntry, alter]]
  exact List.map_congr_left fun f _ => by split <;> rfl

theorem store_tableOf (is : List Intake) (i : Intake) :
    (tableOf is).store i.entry = tableOf (is ++ [i]) := by
  have hnew : i.record.file ∉ (is.map (·.record.file)).eraseDups →
      entriesOf (is.filter fun j => j.record.file = i.record.file) = [] := fun hout => by
    have hnone : is.filter (fun j => j.record.file = i.record.file) = [] :=
      List.filter_eq_nil_iff.mpr fun j hj heq =>
        hout (List.mem_eraseDups.mpr (List.mem_map.mpr ⟨j, hj, of_decide_eq_true heq⟩))
    rw [hnone]
    rfl
  rw [tableOf, store_map (nodup_eraseDups _)
      (fun f => entriesOf (is.filter fun j => j.record.file = f)) _ hnew,
    tableOf, List.map_append, List.map_singleton, eraseDups_concat]
  simp only [List.mem_eraseDups]
  refine List.map_congr_left fun f _ => ?_
  by_cases hf : f = i.record.file
  · subst hf
    have hstore := storeEntry_entriesOf (is.filter fun j => j.record.file = i.record.file) i
    simp [List.filter_append, Intake.entry, ← hstore]
  · simp [List.filter_append, Intake.entry, hf, Ne.symm hf]

/-- Every file has the functions that were taken in for it, each of them once. -/
theorem wellFormed_tableOf (is : List Intake) : (tableOf is).WellFormed := by
  induction is using List.reverseRecOn with
  | nil => exact wellFormed_nil
  | append_singleton is i ih =>
    rw [← store_tableOf]
    exact ih.store i.entry

theorem take_ofHistory (is : List Intake) (i : Intake) :
    (ofHistory is).take i = ofHistory (is ++ [i]) := by
  rw [ofHistory, ofHistory, ← store_tableOf]
  exact see_ofTable (wellFormed_tableOf is) ⟨i.record, some i.entry.flags⟩

/-- **Storing intakes one after another builds the registry that they describe.** -/
theorem foldl_take (past is : List Intake) :
    is.foldl take (ofHistory past) = ofHistory (past ++ is) := by
  induction is generalizing past with
  | nil => rw [List.foldl_nil, List.append_nil]
  | cons i is ih =>
    rw [List.foldl_cons, take_ofHistory, ih, List.append_assoc, List.singleton_append]

/-! ### What is read off -/

theorem files_ofHistory (is : List Intake) :
    (ofHistory is).files = (is.map (·.record.file)).eraseDups := by
  have hkeys : (ofHistory is).files = (tableOf is).map (·.1) := rfl
  rw [hkeys, tableOf, List.map_map]
  exact List.map_id _

theorem file?_ofHistory (is : List Intake) (file : String) :
    (ofHistory is).file? file =
      if file ∈ is.map (·.record.file) then
        some (entriesOf (is.filter fun i => i.record.file = file))
      else none := by
  rw [ofHistory, file?_ofTable, tableOf]
  by_cases hmem : file ∈ is.map (·.record.file)
  · rw [if_pos hmem, List.lookup_graph _ (List.mem_eraseDups.mpr hmem)]
  · rw [if_neg hmem, ← Option.not_isSome_iff_eq_none, isSome_lookup, List.map_map]
    simpa [Function.comp_def] using hmem

/-! ### The same records once more -/

theorem eraseDups_append_self (past ks : List String) :
    (past ++ ks ++ ks).eraseDups = (past ++ ks).eraseDups := by
  have hnone : ks.removeAll (past ++ ks) = [] :=
    List.filter_eq_nil_iff.mpr fun k hk => by simp [hk]
  rw [List.eraseDups_append, hnone, List.eraseDups_nil, List.append_nil]

theorem latest?_append_self (past is : List Intake) (name : String) :
    latest? (past ++ is ++ is) name = latest? (past ++ is) name := by
  simp only [latest?, List.filter_append, List.getLast?_append]
  cases (is.filter fun i => i.record.name = name).getLast? <;> simp

theorem entriesOf_append_self (past is : List Intake) :
    entriesOf (past ++ is ++ is) = entriesOf (past ++ is) := by
  rw [entriesOf, entriesOf, List.map_append, List.map_append, eraseDups_append_self]
  exact List.filterMap_congr fun n _ => latest?_append_self past is n

/-- Records that are taken in again, all of them, change nothing. -/
theorem ofHistory_append_self (past is : List Intake) :
    ofHistory (past ++ is ++ is) = ofHistory (past ++ is) := by
  rw [ofHistory, ofHistory]
  congr 1
  rw [tableOf, tableOf, List.map_append, List.map_append, eraseDups_append_self]
  refine List.map_congr_left fun f _ => ?_
  simp only [List.filter_append, entriesOf_append_self]

end Registry

end ComplexityLint
