import ComplexityLint.Proofs.Keyed
import ComplexityLint.Registry

/-!
Registries as plain tables. A table lists the files in the order of first sight, each with its
functions, and `Registry.ofTable` adds the dictionaries that a registry keeps beside them. Storing in
a registry is storing in its table, and so is setting the marks of the entry that was stored
(`upsert_ofTable`, `mark_ofTable`). All that a registry is asked for can then be read off the table
(`file?_ofTable`, `get?_ofTable`).
-/

namespace ComplexityLint

/-- Some functions with the place of each name. -/
def FileEntries.ofEntries (es : List Entry) : FileEntries :=
  ⟨es, (es.map (·.record.name)).zipIdx⟩

namespace Registry

/-- The files in the order of first sight, each with its functions in the order of first sight. -/
abbrev Table := List (String × List Entry)

/-- Stores an entry among those of its file. -/
def storeEntry (e : Entry) : List Entry → List Entry :=
  alter (·.record.name) e.record.name (fun _ => e) e

/-- Gives the entry of the name the marks of another one. -/
def markEntry (e : Entry) : List Entry → List Entry :=
  alter (·.record.name) e.record.name (fun e' => { e' with flags := e.flags }) e

namespace Table

/-- Stores an entry under its file. -/
def store (e : Entry) : Table → Table :=
  alter (·.1) e.record.file (fun f => (f.1, storeEntry e f.2)) (e.record.file, [e])

/-- Where the entry of a record stands, or will stand once it is stored. -/
def placeOf (t : Table) (r : FunctionRecord) : Place :=
  ⟨r.file, (((t.lookup r.file).getD []).map (·.record.name)).idxOf r.name⟩

/-- Every file is listed once and has functions, each of them once. -/
structure WellFormed (t : Table) : Prop where
  files : (t.map (·.1)).Nodup
  nonempty : ∀ f ∈ t, f.2 ≠ []
  names : ∀ f ∈ t, (f.2.map (·.record.name)).Nodup
  own : ∀ f ∈ t, ∀ e ∈ f.2, e.record.file = f.1

end Table

/-- The registry of a table. -/
def ofTable (t : Table) : Registry where
  byFile := t.map fun f => (f.1, .ofEntries f.2)
  files := t.map (·.1)

/-! ### The functions of one file -/

section OneFile

variable {e : Entry} {es : List Entry}

theorem names_storeEntry (e : Entry) (es : List Entry) :
    (storeEntry e es).map (·.record.name) =
      if e.record.name ∈ es.map (·.record.name) then es.map (·.record.name)
      else es.map (·.record.name) ++ [e.record.name] :=
  map_key_alter (fun _ _ => rfl) rfl es

theorem nodup_names_storeEntry (h : (es.map (·.record.name)).Nodup) :
    ((storeEntry e es).map (·.record.name)).Nodup := by
  rw [names_storeEntry]
  split
  · exact h
  · rename_i hnew
    exact List.nodup_append_comm.mp (List.nodup_cons.mpr ⟨hnew, h⟩)

theorem mem_names_storeEntry (e : Entry) (es : List Entry) :
    e.record.name ∈ (storeEntry e es).map (·.record.name) := by
  rw [names_storeEntry]
  split
  · assumption
  · simp

/-- A name that is new has its place behind all others, which is where its entry is added. -/
theorem idxOf_storeEntry (e : Entry) (es : List Entry) :
    ((storeEntry e es).map (·.record.name)).idxOf e.record.name =
      (es.map (·.record.name)).idxOf e.record.name := by
  rw [names_storeEntry]
  split
  · rfl
  · rename_i hnew
    rw [List.idxOf_append_of_notMem hnew, List.idxOf_eq_length hnew, List.idxOf_cons_self,
      Nat.add_zero]

/-- An entry is stored in the place of its name. -/
theorem getElem?_storeEntry (e : Entry) (es : List Entry) :
    (storeEntry e es)[(es.map (·.record.name)).idxOf e.record.name]? = some e := by
  induction es with
  | nil => simp [storeEntry, alter]
  | cons e' es ih =>
    rw [storeEntry, alter, List.map_cons]
    by_cases he : e'.record.name = e.record.name
    · rw [if_pos he, he, List.idxOf_cons_self, List.getElem?_cons_zero]
    · rw [if_neg he, ← storeEntry, List.idxOf_cons_ne _ he, List.getElem?_cons_succ, ih]

theorem storeEntry_ne_nil : storeEntry e es ≠ [] := by
  cases es with
  | nil => simp [storeEntry, alter]
  | cons e' es =>
    rw [storeEntry, alter]
    split <;> simp

theorem file_of_mem_storeEntry {file : String} (hes : ∀ e' ∈ es, e'.record.file = file)
    (he : e.record.file = file) {e' : Entry} (h : e' ∈ storeEntry e es) : e'.record.file = file := by
  rcases mem_alter h with hmem | rfl | ⟨-, -, -, rfl⟩
  · exact hes e' hmem
  · exact he
  · exact he

/-- An entry of the name is replaced where it stands. -/
theorem storeEntry_eq_set {i : Nat} {e' : Entry} (hnd : (es.map (·.record.name)).Nodup)
    (hi : es[i]? = some e') (hname : e'.record.name = e.record.name) :
    storeEntry e es = es.set i e := by
  obtain ⟨hlt, rfl⟩ := List.getElem?_eq_some_iff.mp hi
  have hplace : (es.map (·.record.name)).idxOf e.record.name = i := by
    have hidx := hnd.idxOf_getElem i (by rwa [List.length_map])
    rwa [List.getElem_map, hname] at hidx
  have hmem : e.record.name ∈ es.map (·.record.name) :=
    List.mem_map.mpr ⟨es[i], List.getElem_mem hlt, hname⟩
  rw [storeEntry, alter_of_mem hmem, hplace, List.modify_eq_set_getElem?, hi]
  rfl

theorem find?_storeEntry (e : Entry) (es : List Entry) (name : String) :
    (storeEntry e es).find? (·.record.name = name) =
      if name = e.record.name then some e else es.find? (·.record.name = name) := by
  induction es with
  | nil =>
    rw [storeEntry, alter]
    by_cases hn : name = e.record.name
    · simp [hn]
    · simp [hn, Ne.symm hn]
  | cons e' es ih =>
    rw [storeEntry, alter]
    by_cases he : e'.record.name = e.record.name
    · by_cases hn : name = e.record.name
      · simp [he, hn]
      · simp [he, hn, Ne.symm hn]
    · rw [if_neg he, ← storeEntry, List.find?_cons, List.find?_cons, ih]
      by_cases hn : name = e.record.name
      · simp [hn, he]
      · simp [hn]

end OneFile

/-! ### Tables -/

section Tables

variable {t : Table} {e : Entry} {file : String}

theorem keys_store (e : Entry) (t : Table) :
    (t.store e).map (·.1) =
      if e.record.file ∈ t.map (·.1) then t.map (·.1) else t.map (·.1) ++ [e.record.file] := by
  apply map_key_alter
  · exact fun f hf => hf
  · rfl

theorem lookup_store (e : Entry) (t : Table) (file : String) :
    (t.store e).lookup file =
      if file = e.record.file then some (storeEntry e ((t.lookup file).getD []))
      else t.lookup file := by
  induction t with
  | nil => rw [Table.store, alter, lookup_cons]; rfl
  | cons f t ih =>
    rw [Table.store, alter]
    by_cases hf : f.1 = e.record.file
    · rw [if_pos hf, lookup_cons, lookup_cons, hf]
      split <;> rfl
    · rw [if_neg hf, lookup_cons, lookup_cons, ← Table.store, ih]
      by_cases hfile : file = f.1
      · rw [if_pos hfile, if_neg (hfile.trans_ne hf), if_pos hfile]
      · rw [if_neg hfile, if_neg hfile]

theorem wellFormed_nil : Table.WellFormed [] :=
  ⟨List.nodup_nil, nofun, nofun, nofun⟩

theorem Table.WellFormed.store (h : t.WellFormed) (e : Entry) : (t.store e).WellFormed := by
  have hcases : ∀ f ∈ t.store e, f ∈ t ∨ f = (e.record.file, [e]) ∨
      ∃ f' ∈ t, f'.1 = e.record.file ∧ f = (f'.1, storeEntry e f'.2) := fun f hf => mem_alter hf
  refine ⟨?_, fun f hf => ?_, fun f hf => ?_, fun f hf => ?_⟩
  · rw [keys_store]
    split
    · exact h.files
    · rename_i hnew
      exact List.nodup_append_comm.mp (List.nodup_cons.mpr ⟨hnew, h.files⟩)
  · rcases hcases f hf with hmem | rfl | ⟨f', -, -, rfl⟩
    · exact h.nonempty f hmem
    · exact List.cons_ne_nil _ _
    · exact storeEntry_ne_nil
  · rcases hcases f hf with hmem | rfl | ⟨f', hmem, -, rfl⟩
    · exact h.names f hmem
    · exact List.nodup_singleton _
    · exact nodup_names_storeEntry (h.names f' hmem)
  · rcases hcases f hf with hmem | rfl | ⟨f', hmem, hfile, rfl⟩
    · exact h.own f hmem
    · simp
    · exact fun e' he' => file_of_mem_storeEntry (h.own f' hmem) hfile.symm he'

end Tables

/-! ### The dictionaries of a table -/

section Entries

variable {es : List Entry} {r : FunctionRecord}

theorem lookup_places (es : List Entry) (name : String) :
    (FileEntries.ofEntries es).places.lookup name =
      if name ∈ es.map (·.record.name) then some ((es.map (·.record.name)).idxOf name) else none := by
  have hlookup := lookup_zipIdx (es.map (·.record.name)) 0 name
  rwa [Nat.zero_add] at hlookup

/-- **Storing in a file with its places** is storing among its functions. -/
theorem store_ofEntries (hown : ∀ e ∈ es, e.record.file = r.file) :
    (FileEntries.ofEntries es).store r =
      (.ofEntries (storeEntry (.new r) es), (es.map (·.record.name)).idxOf r.name) := by
  have hplace := lookup_places es r.name
  by_cases hmem : r.name ∈ es.map (·.record.name)
  · rw [if_pos hmem] at hplace
    -- the entry that is refreshed has the file and the name of the record already
    have hrefresh : es.modify ((es.map (·.record.name)).idxOf r.name) (.refresh r) =
        storeEntry (.new r) es := by
      have hname := List.getElem?_idxOf hmem
      rw [List.getElem?_map, Option.map_eq_some_iff] at hname
      obtain ⟨e, he, hname⟩ := hname
      have hfile := hown e (List.mem_of_getElem? he)
      have hplaceOf : (Entry.new r).record.name = r.name := rfl
      rw [storeEntry, hplaceOf, alter_of_mem hmem, List.modify_eq_set_getElem?,
        List.modify_eq_set_getElem?, he]
      simp [Entry.refresh, Entry.new, hname, hfile]
    have hnames : (storeEntry (.new r) es).map (·.record.name) = es.map (·.record.name) :=
      (names_storeEntry _ _).trans (if_pos hmem)
    simp only [FileEntries.store, hplace]
    rw [FileEntries.ofEntries, FileEntries.ofEntries, hnames, ← hrefresh]
  · rw [if_neg hmem] at hplace
    have hstored : storeEntry (.new r) es = es ++ [.new r] := alter_of_notMem hmem
    have hend : (es.map (·.record.name)).idxOf r.name = es.length := by
      rw [List.idxOf_eq_length hmem, List.length_map]
    have hkeep : (FileEntries.ofEntries es).places.put r.name es.length =
        (FileEntries.ofEntries es).places ++ [(r.name, es.length)] := by
      rw [Dictionary.put, hplace]
      rfl
    simp only [FileEntries.store, hplace]
    rw [hend, hstored]
    change ((⟨es ++ [.new r], (FileEntries.ofEntries es).places.put r.name es.length⟩ : FileEntries), _) = _
    rw [hkeep]
    simp [FileEntries.ofEntries, List.zipIdx_append, Entry.new]

/-- Marking at the place of a name is marking the entry of the name. -/
theorem mark_ofEntries {e : Entry} (hmem : e.record.name ∈ es.map (·.record.name)) :
    (FileEntries.ofEntries es).mark ((es.map (·.record.name)).idxOf e.record.name) e.flags =
      .ofEntries (markEntry e es) := by
  have hnames : (markEntry e es).map (·.record.name) = es.map (·.record.name) := by
    refine (map_key_alter (fun _ h => ?_) ?_ es).trans (if_pos hmem)
    · exact h
    · rfl
  rw [FileEntries.ofEntries, FileEntries.ofEntries, hnames, FileEntries.mark, markEntry,
    alter_of_mem hmem]

/-- An entry that was stored without marks and is then marked is stored with them. -/
theorem markEntry_storeEntry (r : FunctionRecord) (flags : Flags) (es : List Entry) :
    markEntry ⟨r, flags⟩ (storeEntry (.new r) es) = storeEntry ⟨r, flags⟩ es := by
  refine alter_alter (fun _ _ => ?_) ?_ es
  · rfl
  · rfl

end Entries

/-! ### The registry of a table -/

theorem lookup_byFile (t : Table) (file : String) :
    (ofTable t).byFile.lookup file = (t.lookup file).map .ofEntries :=
  lookup_mapValues t _ file

theorem file?_ofTable (t : Table) (file : String) : (ofTable t).file? file = t.lookup file := by
  rw [file?, lookup_byFile, Option.map_map]
  exact Option.map_id'

/-- Putting back the functions of a file, changed, is changing them in the table. -/
theorem put_byFile {t : Table} (h : (t.map (·.1)).Nodup) {file : String} {es : List Entry}
    (hes : t.lookup file = some es) (change : List Entry → List Entry) (new : String × List Entry) :
    (ofTable t).byFile.put file (.ofEntries (change es)) =
      (alter (·.1) file (fun f => (f.1, change f.2)) new t).map fun f => (f.1, .ofEntries f.2) := by
  have hmem : file ∈ t.map (·.1) := isSome_lookup.mp (by rw [hes]; rfl)
  have hknown : ((ofTable t).byFile.lookup file).isSome = true := by rw [lookup_byFile, hes]; rfl
  rw [Dictionary.put, if_pos hknown, alter_eq_map h hmem, ofTable, List.map_map, List.map_map]
  refine List.map_congr_left fun f hf => ?_
  by_cases hfile : f.1 = file
  · have hf' := lookup_of_mem h hf
    rw [hfile, hes] at hf'
    cases hf'
    simp [hfile]
  · simp [hfile]

section Table

variable {t : Table} (h : t.WellFormed) (r : FunctionRecord)
include h

/-- **Storing in a registry is storing in its table.** -/
theorem upsert_ofTable : (ofTable t).upsert r = (ofTable (t.store (.new r)), t.placeOf r) := by
  have hkeys := keys_store (.new r) t
  change _ = if r.file ∈ t.map (·.1) then _ else _ ++ [r.file] at hkeys
  by_cases hmem : r.file ∈ t.map (·.1)
  · obtain ⟨es, hes⟩ := Option.isSome_iff_exists.mp (isSome_lookup.mpr hmem)
    have hknown : (ofTable t).byFile.lookup r.file = some (.ofEntries es) := by
      rw [lookup_byFile, hes]
      rfl
    have hstore := store_ofEntries (h.own _ (mem_of_lookup hes))
    have hput := put_byFile h.files hes (storeEntry (.new r)) (r.file, [.new r])
    rw [if_pos hmem] at hkeys
    simp only [upsert, hknown, Option.getD_some, hstore, Option.isSome_some, if_true, hput,
      Table.placeOf, hes]
    rw [ofTable, ofTable, hkeys]
    rfl
  · have hnone : t.lookup r.file = none := by
      rw [← Option.not_isSome_iff_eq_none, isSome_lookup]
      exact hmem
    have hunknown : (ofTable t).byFile.lookup r.file = none := by
      rw [lookup_byFile, hnone]
      rfl
    have hstore : ({} : FileEntries).store r = (.ofEntries [.new r], 0) :=
      @store_ofEntries [] r nofun
    have hput : (ofTable t).byFile.put r.file (.ofEntries [.new r]) =
        (ofTable t).byFile ++ [(r.file, .ofEntries [.new r])] := by
      rw [Dictionary.put, hunknown]
      rfl
    have hstored : t.store (.new r) = t ++ [(r.file, [.new r])] := alter_of_notMem hmem
    rw [if_neg hmem] at hkeys
    simp only [upsert, hunknown, Option.getD_none, hstore, Option.isSome_none, Bool.false_eq_true,
      if_false, hput, Table.placeOf, hnone]
    rw [hstored, ofTable, ofTable, List.map_append, List.map_append]
    rfl

/-- **Marking the entry that was stored** is storing it with its marks. -/
theorem mark_ofTable (flags : Flags) :
    (ofTable (t.store (.new r))).mark (t.placeOf r) flags = ofTable (t.store ⟨r, flags⟩) := by
  let es := (t.lookup r.file).getD []
  have hes : (t.store (.new r)).lookup r.file = some (storeEntry (.new r) es) :=
    (lookup_store _ _ _).trans (if_pos rfl)
  have hknown : (ofTable (t.store (.new r))).byFile.lookup r.file =
      some (.ofEntries (storeEntry (.new r) es)) := by
    rw [lookup_byFile, hes]
    rfl
  have hmark : (FileEntries.ofEntries (storeEntry (.new r) es)).mark
      ((es.map (·.record.name)).idxOf r.name) flags =
        .ofEntries (markEntry ⟨r, flags⟩ (storeEntry (.new r) es)) := by
    have hplace := idxOf_storeEntry (.new r) es
    change _ = (es.map (·.record.name)).idxOf r.name at hplace
    rw [← hplace]
    exact mark_ofEntries (e := ⟨r, flags⟩) (mem_names_storeEntry (.new r) es)
  have hput := put_byFile (h.store (.new r)).files hes (markEntry ⟨r, flags⟩) (r.file, [⟨r, flags⟩])
  have hone : markEntry ⟨r, flags⟩ [.new r] = [⟨r, flags⟩] := by simp [markEntry, alter, Entry.new]
  have htwice : alter (·.1) r.file (fun f => (f.1, markEntry ⟨r, flags⟩ f.2)) (r.file, [⟨r, flags⟩])
      (t.store (.new r)) = t.store ⟨r, flags⟩ := by
    refine (alter_alter (fun _ h => ?_) ?_ t).trans ?_
    · exact h
    · rfl
    · simp only [markEntry_storeEntry, hone]
      rfl
  have hfiles : (t.store (.new r)).map (·.1) = (t.store ⟨r, flags⟩).map (·.1) := by
    rw [keys_store, keys_store]
    rfl
  simp only [mark, Table.placeOf, hknown]
  change (⟨(ofTable (t.store (.new r))).byFile.put r.file ((FileEntries.ofEntries
    (storeEntry (.new r) es)).mark ((es.map (·.record.name)).idxOf r.name) flags), _⟩ : Registry) = _
  rw [hmark, hput, htwice, ofTable, ofTable, hfiles]

end Table

/-! ### Sightings -/

/-- A record that is stored, and the marks that its entry is given then, if any. -/
structure Sighting where
  record : FunctionRecord
  marks : Option Flags
deriving DecidableEq

/-- What is known of a function once it was seen. -/
def Sighting.entry (s : Sighting) : Entry := ⟨s.record, s.marks.getD Flags.clear⟩

/-- Stores a record and sets the marks of its entry, if there are any. -/
def see (reg : Registry) (s : Sighting) : Registry :=
  let (reg, place) := reg.upsert s.record
  match s.marks with
  | some flags => reg.mark place flags
  | none => reg

/-- **One sighting**: an entry is stored in the table. -/
theorem see_ofTable {t : Table} (h : t.WellFormed) (s : Sighting) :
    (ofTable t).see s = ofTable (t.store s.entry) := by
  obtain ⟨r, marks⟩ := s
  rw [see, upsert_ofTable h]
  cases marks with
  | none => rfl
  | some flags => exact mark_ofTable h r flags

end Registry

end ComplexityLint
