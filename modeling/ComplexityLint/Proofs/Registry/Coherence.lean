import ComplexityLint.Proofs.Registry.Table
import Mathlib.Data.List.Induction
import Mathlib.Data.List.Perm.Basic

/-!
What a registry is to those who ask it: a map from files and function names to entries, in the order
of first sight. Whatever was stored, its dictionaries and lists fit each other (`Coherent`), each
function is found in the one place where it is listed, and storing a record changes or adds just its
entry (`Stores`), whether the entry is then marked or left without marks (`stored_refines`).
-/

namespace ComplexityLint

/-- The place of each name is that of the entry of this name, and all entries are of the file. -/
structure FileEntries.Coherent (file : String) (f : FileEntries) : Prop where
  place : ∀ name i,
    f.places.lookup name = some i ↔ ∃ e, f.entries[i]? = some e ∧ e.record.name = name
  own : ∀ e ∈ f.entries, e.record.file = file

namespace Registry

/-- The files that are listed, each once, are those in the dictionary, each with entries of its
own. -/
structure Coherent (reg : Registry) : Prop where
  entries : ∀ file f, reg.byFile.lookup file = some f → f.Coherent file
  nodup : reg.files.Nodup
  listed : ∀ file, file ∈ reg.files ↔ (reg.byFile.lookup file).isSome = true

/-- One registry is another one with an entry stored in it. An entry of the same function keeps its
place; a function that is new comes last in its file; and nothing else changes. -/
structure Stores (e : Entry) (reg reg' : Registry) : Prop where
  known : ∀ known i old, reg.file? e.record.file = some known → known[i]? = some old →
    old.record.name = e.record.name → reg'.file? e.record.file = some (known.set i e)
  new : reg.get? e.record.file e.record.name = none →
    reg'.file? e.record.file = some ((reg.file? e.record.file).getD [] ++ [e])
  others : ∀ file, file ≠ e.record.file → reg'.file? file = reg.file? file
  found : ∀ file name, reg'.get? file name =
    if (file, name) = (e.record.file, e.record.name) then some e else reg.get? file name

/-- The registry after some sightings. -/
def stored (ss : List Sighting) : Registry := ss.foldl see {}

/-- The table after some entries were stored. -/
def storedTable (es : List Entry) : Table := es.foldl (fun t e => t.store e) []

theorem storedTable_concat (es : List Entry) (e : Entry) :
    storedTable (es ++ [e]) = (storedTable es).store e := by
  rw [storedTable, List.foldl_append]
  rfl

theorem wellFormed_storedTable (es : List Entry) : (storedTable es).WellFormed := by
  induction es using List.reverseRecOn with
  | nil => exact wellFormed_nil
  | append_singleton es e ih =>
    rw [storedTable_concat]
    exact ih.store e

/-- **Whatever is stored, a registry is that of its table.** -/
theorem stored_eq_ofTable (ss : List Sighting) :
    stored ss = ofTable (storedTable (ss.map Sighting.entry)) := by
  induction ss using List.reverseRecOn with
  | nil => rfl
  | append_singleton ss s ih =>
    have hlast : stored (ss ++ [s]) = (stored ss).see s := by
      rw [stored, List.foldl_append]
      rfl
    rw [hlast, ih, see_ofTable (wellFormed_storedTable _), List.map_append, List.map_singleton,
      storedTable_concat]

/-! ### Places -/

theorem coherent_ofEntries {file : String} {es : List Entry}
    (hnd : (es.map (·.record.name)).Nodup) (hown : ∀ e ∈ es, e.record.file = file) :
    (FileEntries.ofEntries es).Coherent file := by
  refine ⟨fun name i => ?_, hown⟩
  rw [lookup_places]
  have hname : (∃ e, es[i]? = some e ∧ e.record.name = name) ↔
      (es.map (·.record.name))[i]? = some name := by
    rw [List.getElem?_map, Option.map_eq_some_iff]
  change _ ↔ ∃ e, es[i]? = some e ∧ e.record.name = name
  rw [hname]
  constructor
  · intro h
    split at h
    · rename_i hmem
      cases h
      exact List.getElem?_idxOf hmem
    · cases h
  · intro h
    obtain ⟨hlt, rfl⟩ := List.getElem?_eq_some_iff.mp h
    rw [if_pos (List.getElem_mem hlt), hnd.idxOf_getElem i hlt]

theorem coherent_ofTable {t : Table} (h : t.WellFormed) : (ofTable t).Coherent := by
  refine ⟨fun file f hf => ?_, h.files, fun file => ?_⟩
  · rw [lookup_byFile, Option.map_eq_some_iff] at hf
    obtain ⟨es, hes, rfl⟩ := hf
    have hmem := mem_of_lookup hes
    exact coherent_ofEntries (h.names _ hmem) (h.own _ hmem)
  · rw [lookup_byFile, Option.isSome_map, isSome_lookup]
    rfl

/-! ### Looking up a function -/

theorem named?_ofEntries (es : List Entry) (name : String) :
    (FileEntries.ofEntries es).named? name = es.find? (·.record.name = name) := by
  rw [FileEntries.named?, lookup_places]
  change (ite _ _ _ : Option Nat).bind (fun i => es[i]?) = _
  induction es with
  | nil => rfl
  | cons e es ih =>
    by_cases he : e.record.name = name
    · simp [he]
    · rw [List.find?_cons_of_neg (by simpa using he), ← ih, List.map_cons, List.idxOf_cons_ne _ he]
      by_cases hmem : name ∈ es.map (·.record.name)
      · simp [hmem]
      · simp [hmem, Ne.symm he]

theorem get?_ofTable (t : Table) (file name : String) :
    (ofTable t).get? file name = (t.lookup file).bind fun es => es.find? (·.record.name = name) := by
  rw [get?, lookup_byFile, Option.bind_map]
  exact congrArg _ (funext fun es => named?_ofEntries es name)

theorem find?_eq_some_iff_of_nodup {es : List Entry} (hnd : (es.map (·.record.name)).Nodup)
    {name : String} {e : Entry} :
    es.find? (·.record.name = name) = some e ↔ e ∈ es ∧ e.record.name = name := by
  constructor
  · intro h
    exact ⟨List.mem_of_find?_eq_some h, by simpa using List.find?_some h⟩
  · rintro ⟨he, rfl⟩
    obtain ⟨e', he'⟩ : ∃ e', es.find? (·.record.name = e.record.name) = some e' :=
      Option.isSome_iff_exists.mp (List.find?_isSome.mpr ⟨e, he, by simp⟩)
    have hname : e'.record.name = e.record.name := by simpa using List.find?_some he'
    rw [he', List.inj_on_of_nodup_map hnd (List.mem_of_find?_eq_some he') he hname]

/-! ### Counting the functions -/

/-- The functions of a table, by file and name. -/
def pairs (t : Table) : List (String × String) :=
  t.flatMap fun f => f.2.map fun e => (f.1, e.record.name)

theorem size_ofTable (t : Table) : (ofTable t).size = (pairs t).length := by
  rw [size, pairs, List.length_flatMap, List.length_flatMap, ofTable, List.map_map]
  exact congrArg List.sum (List.map_congr_left fun f _ => (List.length_map _).symm)

theorem nodup_pairs {t : Table} (h : t.WellFormed) : (pairs t).Nodup := by
  refine List.nodup_flatMap.mpr ⟨fun f hf => ?_, ?_⟩
  · have hpairs : f.2.map (fun e => (f.1, e.record.name)) =
        (f.2.map (·.record.name)).map (Prod.mk f.1) := by
      rw [List.map_map]
      rfl
    rw [hpairs]
    exact (h.names f hf).map fun _ _ heq => congrArg Prod.snd heq
  · refine (List.pairwise_map.mp h.files).imp fun hne => ?_
    rintro p hp hp'
    obtain ⟨e, -, rfl⟩ := List.mem_map.mp hp
    obtain ⟨e', -, heq⟩ := List.mem_map.mp hp'
    exact hne (congrArg Prod.fst heq).symm

theorem mem_pairs {t : Table} (h : t.WellFormed) {file name : String} :
    (file, name) ∈ pairs t ↔ name ∈ ((t.lookup file).getD []).map (·.record.name) := by
  rw [pairs, List.mem_flatMap]
  constructor
  · rintro ⟨f, hf, hmem⟩
    obtain ⟨e, he, heq⟩ := List.mem_map.mp hmem
    cases heq
    rw [lookup_of_mem h.files hf]
    exact List.mem_map_of_mem he
  · intro hmem
    cases hes : t.lookup file with
    | none => rw [hes] at hmem; cases hmem
    | some es =>
      rw [hes] at hmem
      obtain ⟨e, he, rfl⟩ := List.mem_map.mp hmem
      exact ⟨_, mem_of_lookup hes, List.mem_map.mpr ⟨e, he, rfl⟩⟩

theorem mem_pairs_storedTable (es : List Entry) (p : String × String) :
    p ∈ pairs (storedTable es) ↔ p ∈ es.map fun e => (e.record.file, e.record.name) := by
  obtain ⟨file, name⟩ := p
  induction es using List.reverseRecOn with
  | nil => rfl
  | append_singleton es e ih =>
    have hwf := wellFormed_storedTable es
    rw [storedTable_concat, mem_pairs (hwf.store e), lookup_store, List.map_append, List.mem_append,
      ← ih, mem_pairs hwf, List.map_singleton, List.mem_singleton, Prod.mk.injEq]
    by_cases hfile : file = e.record.file
    · rw [if_pos hfile, Option.getD_some, names_storeEntry, ← hfile]
      split
      · -- the name was listed, and the pair with it
        rename_i hmem
        exact ⟨.inl, fun h => h.elim id fun h => h.2 ▸ hmem⟩
      · simp
    · rw [if_neg hfile]
      simp [hfile]

theorem size_storedTable (es : List Entry) :
    (ofTable (storedTable es)).size =
      (es.map fun e => (e.record.file, e.record.name)).eraseDups.length := by
  have hwf := wellFormed_storedTable es
  rw [size_ofTable]
  refine ((List.perm_ext_iff_of_nodup (nodup_pairs hwf) (nodup_eraseDups _)).mpr fun p => ?_).length_eq
  rw [List.mem_eraseDups, mem_pairs_storedTable]

/-! ### Files apart -/

theorem keys_storedTable (es : List Entry) :
    (storedTable es).map (·.1) = (es.map (·.record.file)).eraseDups := by
  induction es using List.reverseRecOn with
  | nil => rfl
  | append_singleton es e ih =>
    rw [storedTable_concat, keys_store, ih, List.map_append, List.map_singleton, eraseDups_concat]
    simp only [List.mem_eraseDups]

/-- What is known of a file comes from what was stored under it. -/
theorem lookup_storedTable_filter (es : List Entry) (file : String) :
    (storedTable es).lookup file =
      (storedTable (es.filter fun e => e.record.file = file)).lookup file := by
  induction es using List.reverseRecOn with
  | nil => rfl
  | append_singleton es e ih =>
    rw [storedTable_concat, lookup_store, ih, List.filter_append]
    by_cases hfile : file = e.record.file
    · have hkept : [e].filter (fun e => e.record.file = file) = [e] := by simp [hfile]
      rw [hkept, storedTable_concat, lookup_store, if_pos hfile]
    · have hdropped : [e].filter (fun e => e.record.file = file) = [] := by simp [Ne.symm hfile]
      rw [hdropped, List.append_nil, if_neg hfile]

/-! ### Storing once more -/

section Store

variable {t : Table} (h : t.WellFormed) (e : Entry)

theorem file?_store (t : Table) (e : Entry) (file : String) :
    (ofTable (t.store e)).file? file =
      if file = e.record.file then some (storeEntry e (((ofTable t).file? file).getD []))
      else (ofTable t).file? file := by
  rw [file?_ofTable, file?_ofTable, lookup_store]

include h in
/-- A function that is known keeps its place. -/
theorem file?_store_of_known {known : List Entry} {i : Nat} {old : Entry}
    (hknown : (ofTable t).file? e.record.file = some known) (hi : known[i]? = some old)
    (hname : old.record.name = e.record.name) :
    (ofTable (t.store e)).file? e.record.file = some (known.set i e) := by
  rw [file?_store, if_pos rfl, hknown, Option.getD_some]
  rw [file?_ofTable] at hknown
  rw [storeEntry_eq_set (h.names _ (mem_of_lookup hknown)) hi hname]

/-- A function that is not found is not listed for its file. -/
theorem notMem_names_of_get? {file name : String} (hnew : (ofTable t).get? file name = none) :
    name ∉ ((t.lookup file).getD []).map (·.record.name) := by
  rw [get?_ofTable] at hnew
  cases hknown : t.lookup file with
  | none => exact List.not_mem_nil
  | some known =>
    rw [hknown, Option.bind_some, List.find?_eq_none] at hnew
    intro hmem
    obtain ⟨old, hold, hname⟩ := List.mem_map.mp hmem
    exact hnew old hold (decide_eq_true hname)

/-- A function that is new comes last. -/
theorem file?_store_of_new (hnew : (ofTable t).get? e.record.file e.record.name = none) :
    (ofTable (t.store e)).file? e.record.file =
      some (((ofTable t).file? e.record.file).getD [] ++ [e]) := by
  rw [file?_store, if_pos rfl, storeEntry, alter_of_notMem]
  rw [file?_ofTable]
  exact notMem_names_of_get? hnew

theorem get?_store (t : Table) (e : Entry) (file name : String) :
    (ofTable (t.store e)).get? file name =
      if (file, name) = (e.record.file, e.record.name) then some e
      else (ofTable t).get? file name := by
  rw [get?_ofTable, get?_ofTable, lookup_store]
  by_cases hfile : file = e.record.file
  · rw [if_pos hfile, Option.bind_some, find?_storeEntry]
    by_cases hname : name = e.record.name
    · rw [if_pos hname, if_pos (by rw [hfile, hname])]
    · rw [if_neg hname, if_neg fun heq => hname (congrArg Prod.snd heq)]
      cases t.lookup file <;> rfl
  · rw [if_neg hfile, if_neg fun heq => hfile (congrArg Prod.fst heq)]

include h in
theorem stores_store : Stores e (ofTable t) (ofTable (t.store e)) where
  known _ _ _ := file?_store_of_known h e
  new := file?_store_of_new e
  others file hother := (file?_store t e file).trans (if_neg hother)
  found := get?_store t e

/-- The entry stands where it is told to stand. -/
theorem getElem?_placeOf (t : Table) (r : FunctionRecord) :
    ((ofTable (t.store (.new r))).file? r.file).bind (·[(t.placeOf r).index]?) = some (.new r) := by
  have hfile : (ofTable (t.store (.new r))).file? r.file = _ :=
    (file?_store t (.new r) r.file).trans (if_pos rfl)
  rw [hfile, Option.bind_some, file?_ofTable]
  exact getElem?_storeEntry (.new r) _

end Store

theorem get?_eq_some_iff {t : Table} (h : t.WellFormed) {file name : String} {e : Entry} :
    (ofTable t).get? file name = some e ↔
      ∃ known, (ofTable t).file? file = some known ∧ e ∈ known ∧ e.record.name = name := by
  rw [get?_ofTable, Option.bind_eq_some_iff]
  simp only [file?_ofTable]
  refine exists_congr fun known => and_congr_right fun hknown => ?_
  exact find?_eq_some_iff_of_nodup (h.names _ (mem_of_lookup hknown))

theorem isEmpty_iff_size {t : Table} (h : t.WellFormed) :
    (ofTable t).isEmpty = true ↔ (ofTable t).size = 0 := by
  rw [size_ofTable, List.length_eq_zero_iff, pairs, List.flatMap_eq_nil_iff, isEmpty, ofTable,
    List.isEmpty_map, List.isEmpty_iff]
  constructor
  · rintro rfl f hf
    cases hf
  · intro hall
    refine List.eq_nil_iff_forall_not_mem.mpr fun f hf => h.nonempty f hf ?_
    exact List.map_eq_nil_iff.mp (hall f hf)

/-! ### The registry as a map -/

/-- **A registry is a map in the order of first sight.** Whatever was stored and marked:

* its dictionaries and lists fit each other, and its files come in the order of first sight;
* a function is found exactly if it is listed for its file, where each name is listed once;
* its size is the number of functions that were stored, and it is empty exactly if there are none;
* what is known of a file depends only on what was stored under this file;
* storing a record stores an entry with the numbers of the record and without marks, and tells where
  it stands; marking that place gives the entry these marks. Either way a function that is stored
  again keeps its place, a new one comes last in its file, and nothing else changes. -/
theorem stored_refines (ss : List Sighting) :
    let reg := stored ss
    (reg.Coherent ∧ reg.files = (ss.map (·.record.file)).eraseDups) ∧
      (∀ file known, reg.file? file = some known → (known.map (·.record.name)).Nodup) ∧
      (∀ file name e, reg.get? file name = some e ↔
        ∃ known, reg.file? file = some known ∧ e ∈ known ∧ e.record.name = name) ∧
      reg.size = (ss.map fun s => (s.record.file, s.record.name)).eraseDups.length ∧
      (reg.isEmpty = true ↔ reg.size = 0) ∧
      (∀ file, reg.file? file = (stored (ss.filter fun s => s.record.file = file)).file? file) ∧
      ∀ r,
        let unmarked : Entry := ⟨r, ⟨false, false, false, false⟩⟩
        let reg' := (reg.upsert r).1
        let place := (reg.upsert r).2
        Stores unmarked reg reg' ∧ place.file = r.file ∧
        (reg'.file? r.file).bind (·[place.index]?) = some unmarked ∧
        ∀ flags, Stores ⟨r, flags⟩ reg (reg'.mark place flags) := by
  intro reg
  let es := ss.map Sighting.entry
  obtain ⟨hreg, hwf⟩ : reg = ofTable (storedTable es) ∧ (storedTable es).WellFormed :=
    ⟨stored_eq_ofTable ss, wellFormed_storedTable es⟩
  have hfiles : reg.files = (ss.map (·.record.file)).eraseDups := by
    rw [hreg]
    exact (keys_storedTable es).trans (by rw [List.map_map]; rfl)
  have hsize : reg.size = (ss.map fun s => (s.record.file, s.record.name)).eraseDups.length := by
    rw [hreg, size_storedTable, List.map_map]
    rfl
  have hpart : ∀ file, reg.file? file =
      (stored (ss.filter fun s => s.record.file = file)).file? file := by
    intro file
    have hes : (ss.filter fun s => s.record.file = file).map Sighting.entry =
        es.filter fun e => e.record.file = file := by
      change _ = (ss.map Sighting.entry).filter _
      rw [List.filter_map]
      rfl
    rw [hreg, stored_eq_ofTable, hes, file?_ofTable, file?_ofTable, lookup_storedTable_filter]
  -- from here on the registry is that of a well-formed table, however it came about
  clear_value reg es
  subst hreg
  refine ⟨⟨coherent_ofTable hwf, hfiles⟩, fun file known hknown => ?_,
    fun file name e => get?_eq_some_iff hwf, hsize, isEmpty_iff_size hwf, hpart, fun r => ?_⟩
  · rw [file?_ofTable] at hknown
    exact hwf.names _ (mem_of_lookup hknown)
  · rw [upsert_ofTable hwf]
    refine ⟨stores_store hwf (.new r), rfl, getElem?_placeOf _ r, fun flags => ?_⟩
    rw [mark_ofTable hwf]
    exact stores_store hwf ⟨r, flags⟩

/-- Two functions of a file with one of another between them. The first is marked; it is then seen
again, with other numbers, and its mark is gone. Then it is marked anew. -/
theorem stored_refines_of_second_sight :
    let f : FunctionRecord := ⟨"f", "a.c", 3, 9, 1, 5, 1, 9⟩
    let g : FunctionRecord := ⟨"g", "a.c", 1, 4, 0, 2, 11, 12⟩
    let f' : FunctionRecord := ⟨"f", "a.c", 2, 7, 1, 4, 2, 8⟩
    let reg := stored
      [⟨f, some ⟨true, false, false, false⟩⟩, ⟨⟨"f", "b.c", 1, 1, 1, 1, 1, 1⟩, none⟩, ⟨g, none⟩]
    let reg' := (reg.upsert f').1
    let reg'' := reg'.mark (reg.upsert f').2 ⟨false, true, false, false⟩
    reg.files = ["a.c", "b.c"] ∧ reg.size = 3 ∧
      reg.file? "a.c" =
        some [⟨f, ⟨true, false, false, false⟩⟩, ⟨g, ⟨false, false, false, false⟩⟩] ∧
      reg'.file? "a.c" =
        some [⟨f', ⟨false, false, false, false⟩⟩, ⟨g, ⟨false, false, false, false⟩⟩] ∧
      reg''.file? "a.c" =
        some [⟨f', ⟨false, true, false, false⟩⟩, ⟨g, ⟨false, false, false, false⟩⟩] ∧
      reg''.file? "b.c" = reg.file? "b.c" ∧ reg''.get? "a.c" "g" = reg.get? "a.c" "g" := by
  intro f g f' reg reg' reg''
  obtain ⟨⟨-, hfiles⟩, -, -, hsize, -, -, hupsert⟩ := stored_refines
    [⟨f, some ⟨true, false, false, false⟩⟩, ⟨⟨"f", "b.c", 1, 1, 1, 1, 1, 1⟩, none⟩, ⟨g, none⟩]
  obtain ⟨hstored, -, -, hmarked⟩ := hupsert f'
  have hreg : reg.file? "a.c" =
      some [⟨f, ⟨true, false, false, false⟩⟩, ⟨g, ⟨false, false, false, false⟩⟩] := by
    decide +kernel
  have hstored' := hmarked ⟨false, true, false, false⟩
  exact ⟨hfiles.trans (by decide +kernel), hsize.trans (by decide +kernel), hreg,
    hstored.known _ 0 _ hreg rfl rfl, hstored'.known _ 0 _ hreg rfl rfl,
    hstored'.others "b.c" (by decide), hstored'.found "a.c" "g"⟩

end Registry

end ComplexityLint
