import Graft.Store.Write
import Mathlib.Data.List.Nodup
import Mathlib.Data.List.Perm.Subperm

/-!
# New files

A file that is made anew gets a number no entry names and no file has
(`entryAt_ne_freshId`, `get?_freshId`), and a temporary one a name that is
vacant in its directory (`entryAt_vacantName`). So nothing that was there
before notices it: taken away again it leaves the very store it was put in
(`unlink_addFile`), and moved it changes one location and no other
(`entryAt_move_addFile`).
-/

namespace Graft

namespace Store

variable {store : Store} {place spot target : Location} {id : FileId} {mode : Mode}
variable {bytes : Bytes}

/-! ## Numbers -/

theorem lt_of_mem_foldr {n : Nat} {ids : List Nat} (h : n ∈ ids) :
    n < ids.foldr (fun id bound => max (id + 1) bound) 0 := by
  induction ids with
  | nil => cases h
  | cons first ids ih =>
    rw [List.foldr_cons]
    rcases List.mem_cons.1 h with rfl | h
    · omega
    · have := ih h
      omega

/-- No file has the fresh number. -/
theorem get?_freshId (store : Store) : Table.get? store.freshId store.files = none := by
  rw [Table.get?_eq_none_iff]
  intro pair hpair heq
  have hmem : pair.1 ∈ store.files.map (·.1) := List.mem_map_of_mem hpair
  have hlt : pair.1 < store.freshId := lt_of_mem_foldr (List.mem_append_left _ hmem)
  exact Nat.ne_of_lt hlt heq

/-- No listed entry names the fresh number. -/
theorem ne_freshId_of_mem {pair : Location × Entry} (h : pair ∈ store.entries) :
    pair.2 ≠ .file store.freshId := by
  intro heq
  obtain ⟨place, entry⟩ := pair
  obtain rfl : entry = .file store.freshId := heq
  have hlt : store.freshId < store.freshId :=
    lt_of_mem_foldr (List.mem_append_right _ (List.mem_filterMap.2 ⟨_, h, rfl⟩))
  exact Nat.lt_irrefl _ hlt

/-- What stands at a location and is no directory is listed. -/
theorem mem_entries_of_entryAt {entry : Entry} (h : store.entryAt place = some entry)
    (hentry : entry ≠ .directory) : (place, entry) ∈ store.entries := by
  have hne : store.entryAt place ≠ some .directory := by simpa [h] using hentry
  rw [entryAt_of_ne_directory hne] at h
  exact Table.mem_of_get?_eq_some h

/-- No location holds the fresh number. -/
theorem entryAt_ne_freshId (store : Store) (place : Location) :
    store.entryAt place ≠ some (.file store.freshId) := by
  intro h
  exact ne_freshId_of_mem (mem_entries_of_entryAt h nofun) rfl

/-! ## Names -/

/-- Temporary names differ in length. -/
theorem temporaryName_inj {m n : Nat} (h : temporaryName m = temporaryName n) : m = n := by
  have hlen := congrArg List.length h
  simp only [temporaryName, List.length_append, List.length_replicate] at hlen
  omega

/-- What stands in a directory is listed, or lies on the way to the working
directory. -/
theorem mem_of_entryAt_concat {name : Name} {entry : Entry}
    (h : store.entryAt (place ++ [name]) = some entry) :
    place ++ [name] ∈ store.home.take (place.length + 1) :: store.entries.map (·.1) := by
  by_cases hhome : place ++ [name] <+: store.home
  · have htake := List.prefix_iff_eq_take.1 hhome
    rw [List.length_append, List.length_singleton] at htake
    exact htake ▸ List.mem_cons_self
  · rw [entryAt, if_neg hhome] at h
    exact List.mem_cons_of_mem _ (List.mem_map_of_mem (Table.mem_of_get?_eq_some h))

/-- **There is a vacant temporary name**: a directory does not hold more
entries than the whole store, and one directory that has none. -/
theorem exists_vacant (store : Store) (place : Location) :
    ∃ n ∈ List.range (store.entries.length + 2),
      store.entryAt (place ++ [temporaryName n]) = none := by
  by_contra hno
  push Not at hno
  let spots := (List.range (store.entries.length + 2)).map fun n => place ++ [temporaryName n]
  have hnodup : spots.Nodup := by
    refine List.Nodup.map (fun m n h => ?_) List.nodup_range
    exact temporaryName_inj (by simpa using h)
  have hsub : spots ⊆ store.home.take (place.length + 1) :: store.entries.map (·.1) := by
    intro spot hspot
    obtain ⟨n, hn, rfl⟩ := List.mem_map.1 hspot
    obtain ⟨entry, hentry⟩ := Option.ne_none_iff_exists'.1 (hno n hn)
    exact mem_of_entryAt_concat hentry
  have hlen := (List.subperm_of_subset hnodup hsub).length_le
  simp only [spots, List.length_cons, List.length_map, List.length_range] at hlen
  omega

/-- The name of a temporary file is vacant. -/
theorem entryAt_vacantName (store : Store) (place : Location) :
    store.entryAt (place ++ [store.vacantName place]) = none := by
  unfold vacantName
  cases hfind : (List.range (store.entries.length + 2)).find? fun more =>
      (store.entryAt (place ++ [temporaryName more])).isNone with
  | none =>
    obtain ⟨n, hn, hvacant⟩ := exists_vacant store place
    have hall := List.find?_eq_none.1 hfind n hn
    simp [hvacant] at hall
  | some n =>
    have hvacant := List.find?_some hfind
    simpa using hvacant

/-! ## Adding a file -/

@[simp] theorem home_setFile (id : FileId) (file : File) :
    (store.setFile id file).home = store.home := rfl

@[simp] theorem fileAt_setFile_self (id : FileId) (file : File) :
    (store.setFile id file).fileAt id = file := by
  rw [fileAt_setFile, if_pos rfl]

/-- Of two contents given to a file the later one stays. -/
@[simp] theorem setFile_setFile (id : FileId) (a b : File) :
    (store.setFile id a).setFile id b = store.setFile id b := by
  simp only [setFile, Table.put_put]

@[simp] theorem home_addFile : (store.addFile spot mode bytes).home = store.home := rfl

theorem entryAt_addFile (hvacant : store.entryAt spot = none) (place : Location) :
    (store.addFile spot mode bytes).entryAt place =
      if spot = place then some (.file store.freshId) else store.entryAt place := by
  rw [addFile, entryAt_setFile, entryAt_setEntry (by simp [hvacant])]

theorem fileAt_addFile (id : FileId) :
    (store.addFile spot mode bytes).fileAt id =
      if store.freshId = id then ⟨mode, bytes⟩ else store.fileAt id := by
  rw [addFile, fileAt_setFile, fileAt_setEntry]

/-- Filling an added file and giving it its bits is adding it so. -/
theorem changeMode_fill_addFile (mode' : Nat) :
    ((store.addFile spot mode []).fill store.freshId bytes).changeMode store.freshId mode' =
      store.addFile spot (mode' &&& Mode.all) bytes := by
  unfold fill changeMode
  split
  · rename_i hempty
    obtain rfl : bytes = [] := by simpa using hempty
    simp only [addFile, fileAt_setFile_self, setFile_setFile]
  · simp only [addFile, fileAt_setFile_self, setFile_setFile]

/-- **A file added and taken away again leaves no trace.** -/
theorem unlink_addFile (hvacant : store.entryAt spot = none) :
    (store.addFile spot mode bytes).unlink spot = store := by
  have hentries : Table.erase spot (Table.put spot (.file store.freshId) store.entries) =
      store.entries := by
    refine Table.erase_put_of_get?_eq_none ?_ _
    rw [← entryAt_of_ne_directory (by simp [hvacant]), hvacant]
  have hfiles : Table.erase store.freshId (Table.put store.freshId ⟨mode, bytes⟩ store.files) =
      store.files :=
    Table.erase_put_of_get?_eq_none store.get?_freshId _
  have hunnamed (files : Table FileId File) :
      isNamed ⟨store.home, store.entries, files⟩ store.freshId = false := by
    simp only [isNamed, List.any_eq_false, decide_eq_true_eq]
    exact fun pair hpair => ne_freshId_of_mem hpair
  unfold unlink
  rw [entryAt_addFile hvacant, if_pos rfl]
  simp only [addFile, setEntry, setFile, hentries, release, hunnamed, hfiles]
  rfl

/-! ## Moving an added file -/

@[simp] theorem entries_release (store : Store) (id : FileId) :
    (store.release id).entries = store.entries := by
  unfold release
  split <;> rfl

@[simp] theorem home_release (store : Store) (id : FileId) :
    (store.release id).home = store.home := by
  unfold release
  split <;> rfl

@[simp] theorem home_unlink (store : Store) (place : Location) :
    (store.unlink place).home = store.home := by
  unfold unlink
  split
  · rw [home_release]
  · rfl

@[simp] theorem home_move (store : Store) (spot target : Location) :
    (store.move spot target).home = store.home := by
  unfold move
  split
  · rfl
  · split
    · rfl
    · exact home_unlink ..

@[simp] theorem entries_unlink (store : Store) (place : Location) :
    (store.unlink place).entries = Table.erase place store.entries := by
  unfold unlink
  split
  · rw [entries_release]
  · rfl

/-- Letting go of one file keeps the others. -/
theorem fileAt_release {other : FileId} (h : id ≠ other) :
    (store.release id).fileAt other = store.fileAt other := by
  unfold release
  split
  · rfl
  · simp only [fileAt, Table.get?_erase, if_neg h]

/-- Taking an entry away keeps the files that are not its own. -/
theorem fileAt_unlink (h : store.entryAt place ≠ some (.file id)) :
    (store.unlink place).fileAt id = store.fileAt id := by
  unfold unlink
  split
  · rename_i other hentry
    have hne : other ≠ id := by
      rintro rfl
      exact h hentry
    rw [fileAt_release hne]
    rfl
  · rfl

/-- Taking an entry away keeps the file that another entry names. -/
theorem fileAt_unlink_of_entryAt (h : store.entryAt place = some (.file id))
    (hne : target ≠ place) : (store.unlink target).fileAt id = store.fileAt id := by
  unfold unlink
  split
  · rename_i other hentry
    by_cases hother : other = id
    · subst hother
      have hnamed : ({ store with entries := Table.erase target store.entries } : Store).isNamed
          other = true := by
        rw [entryAt_of_ne_directory (by simp [h])] at h
        refine List.any_eq_true.2 ⟨(place, .file other), ?_, by simp⟩
        refine Table.mem_of_get?_eq_some ?_
        rw [Table.get?_erase, if_neg hne, h]
      rw [release, if_pos hnamed]
      rfl
    · rw [fileAt_release hother]
      rfl
  · rfl

/-- What stands where after a move of an added file: the file at its new
location, which was no directory, and all else as before. -/
theorem entryAt_move_addFile (hvacant : store.entryAt spot = none)
    (htarget : store.entryAt target ≠ some .directory) (place : Location) :
    ((store.addFile spot mode bytes).move spot target).entryAt place =
      if target = place then some (.file store.freshId) else store.entryAt place := by
  by_cases hhome : place <+: store.home
  · have hne : target ≠ place := by
      rintro rfl
      exact htarget (entryAt_of_above hhome)
    rw [if_neg hne, entryAt_of_above hhome, entryAt_of_above (by simpa using hhome)]
  unfold move
  by_cases hsame : spot = target
  · rw [if_pos hsame, entryAt_addFile hvacant, hsame]
  have hold : (store.addFile spot mode bytes).entryAt place =
      if spot = place then some (.file store.freshId) else store.entryAt place :=
    entryAt_addFile hvacant place
  rw [entryAt, home_addFile, if_neg hhome] at hold
  rw [if_neg hsame, entryAt_addFile hvacant, if_pos rfl, entryAt]
  simp only [home_unlink, home_addFile, if_neg hhome, entries_unlink, Table.get?_put,
    Table.get?_erase, hold]
  by_cases htp : target = place
  · simp [htp]
  · by_cases hsp : spot = place
    · subst hsp
      simp [htp, hvacant]
    · simp [htp, hsp]

/-- A moved file is the file it was. -/
theorem fileAt_move_addFile (hvacant : store.entryAt spot = none) :
    ((store.addFile spot mode bytes).move spot target).fileAt store.freshId = ⟨mode, bytes⟩ := by
  have hnew : (store.addFile spot mode bytes).fileAt store.freshId = ⟨mode, bytes⟩ := by
    rw [fileAt_addFile, if_pos rfl]
  unfold move
  by_cases hsame : spot = target
  · rw [if_pos hsame, hnew]
  rw [if_neg hsame, entryAt_addFile hvacant, if_pos rfl, ← hnew]
  refine fileAt_unlink ?_
  rw [entryAt_addFile hvacant, if_neg hsame]
  exact store.entryAt_ne_freshId target

/-- A file that is moved to one entry leaves those of the others alone. -/
theorem fileAt_move_addFile_of_entryAt (hvacant : store.entryAt spot = none)
    (h : store.entryAt place = some (.file id)) (hne : target ≠ place) :
    ((store.addFile spot mode bytes).move spot target).fileAt id = store.fileAt id := by
  have hid : store.freshId ≠ id := by
    rintro rfl
    exact store.entryAt_ne_freshId place h
  have hkept : (store.addFile spot mode bytes).fileAt id = store.fileAt id := by
    rw [fileAt_addFile, if_neg hid]
  have hentry : (store.addFile spot mode bytes).entryAt place = some (.file id) := by
    have hspotne : spot ≠ place := by
      rintro rfl
      rw [hvacant] at h
      cases h
    rw [entryAt_addFile hvacant, if_neg hspotne, h]
  unfold move
  by_cases hsame : spot = target
  · rw [if_pos hsame, hkept]
  rw [if_neg hsame, entryAt_addFile hvacant, if_pos rfl, ← hkept]
  exact fileAt_unlink_of_entryAt hentry hne

end Store

end Graft
