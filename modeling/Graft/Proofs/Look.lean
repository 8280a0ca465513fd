import Graft.Store.Basic

/-!
# What is seen at a location

Of an entry a reader sees its kind, the target of a link, and the bits and bytes
of a file, but not which file it is. Each kind of sight says which entry stands
there (`look_eq_file_iff`, `look_eq_link_iff`, `look_eq_directory_iff`), and
nothing else is seen where the entry is the same and so is the file it names
(`look_congr`).
-/

namespace Graft

namespace Store

variable {store after : Store} {place : Location} {id : FileId} {mode : Mode} {bytes : Bytes}

theorem look_of_file (h : store.entryAt place = some (.file id)) :
    store.look place = some (.file (store.fileAt id).mode (store.fileAt id).bytes) := by
  rw [look, h, Option.map_some]

/-- Where the entries are the same and so is the file that one names, the same
is seen. -/
theorem look_congr (hentry : after.entryAt place = store.entryAt place)
    (hfile : ∀ id, store.entryAt place = some (.file id) → after.fileAt id = store.fileAt id) :
    after.look place = store.look place := by
  unfold look
  rw [hentry]
  rcases h : store.entryAt place with _ | _ | id | target
  · rfl
  · rfl
  · simp only [Option.map_some, hfile id h]
  · rfl

theorem look_eq_directory_iff :
    store.look place = some .directory ↔ store.entryAt place = some .directory := by
  unfold look
  rcases store.entryAt place with _ | _ | id | target <;> simp

theorem look_eq_link_iff {target : Path} :
    store.look place = some (.link target) ↔ store.entryAt place = some (.link target) := by
  unfold look
  rcases store.entryAt place with _ | _ | id | other <;> simp

theorem look_eq_file_iff :
    store.look place = some (.file mode bytes) ↔
      ∃ id, store.entryAt place = some (.file id) ∧ store.fileAt id = ⟨mode, bytes⟩ := by
  constructor
  · intro h
    unfold look at h
    rcases hentry : store.entryAt place with _ | _ | id | target <;> rw [hentry] at h <;> cases h
    exact ⟨id, rfl, rfl⟩
  · rintro ⟨id, hentry, hfile⟩
    rw [look_of_file hentry, hfile]

theorem look_eq_none_iff : store.look place = none ↔ store.entryAt place = none := by
  rw [look, Option.map_eq_none_iff]

theorem isSome_look : (store.look place).isSome = (store.entryAt place).isSome := by
  rw [look, Option.isSome_map]

/-- Two locations hold one file where the entry of the one names the file of the
other. -/
theorem shareFile_iff_of_file {other : Location} (h : store.entryAt place = some (.file id)) :
    store.shareFile place other ↔ store.entryAt other = some (.file id) := by
  constructor
  · rintro ⟨same, hplace, hother⟩
    obtain rfl : id = same := by simpa using h.symm.trans hplace
    exact hother
  · intro hother
    exact ⟨id, h, hother⟩

end Store

end Graft
