import Graft.Proofs.Look
import Graft.Proofs.Parent

/-!
# What a write changes

A write that goes well changes one thing and nothing else. In place it is the
file to which the path leads, through whichever links, and so what is seen under
every name of that file; or, where the path leads to a vacant name, one entry is
made there. Atomically it is the entry of the path's last name, which is not
followed though it be a link: a file of its own stands there afterwards, and the
file or link that stood there before is untouched under its other names.

The two effects are `Overwritten` and `Placed`. A path speaks of one location,
but the effect is stated of all of them, for a file may have many names and a
location be reached by many paths.
-/

namespace Graft

namespace Mode

/-- The bits of a file that is made in place and filled with these bytes. Bytes
that are written clear set-id bits, and none are written where there are none. -/
def made (mode : Nat) (bytes : Bytes) : Mode :=
  if bytes.isEmpty then created mode else (created mode).afterWrite

end Mode

namespace Store

variable {store after : Store} {path : Path} {place spot target dir : Location} {id : FileId}
variable {mode : Mode} {bytes : Bytes}

/-! ## Effects -/

/-- The file at a location has these bits and bytes, under all its names. Every
entry is as it was, and of the other files the same is seen. -/
structure Overwritten (store after : Store) (place : Location) (mode : Mode) (bytes : Bytes) :
    Prop where
  home_eq : after.home = store.home
  entryAt_eq : ∀ p, after.entryAt p = store.entryAt p
  look_shared : ∀ p, store.shareFile place p → after.look p = some (.file mode bytes)
  look_eq : ∀ p, ¬ store.shareFile place p → after.look p = store.look p

/-- At a location stands a file with these bits and bytes that was not there
before and has no other name. All else is as it was. -/
structure Placed (store after : Store) (place : Location) (mode : Mode) (bytes : Bytes) :
    Prop where
  home_eq : after.home = store.home
  look_place : after.look place = some (.file mode bytes)
  entryAt_ne : after.entryAt place ≠ store.entryAt place
  one_name : ∀ p, after.shareFile place p → p = place
  entryAt_eq : ∀ p, p ≠ place → after.entryAt p = store.entryAt p
  look_eq : ∀ p, p ≠ place → after.look p = store.look p

/-- To give a file other bits and bytes is to overwrite it. -/
theorem overwritten_setFile (h : store.entryAt place = some (.file id)) (mode : Mode)
    (bytes : Bytes) : Overwritten store (store.setFile id ⟨mode, bytes⟩) place mode bytes where
  home_eq := rfl
  entryAt_eq _ := entryAt_setFile ..
  look_shared p hshared := by
    rw [shareFile_iff_of_file h] at hshared
    exact look_eq_file_iff.2 ⟨id, hshared, fileAt_setFile_self ..⟩
  look_eq p hother := by
    rw [shareFile_iff_of_file h] at hother
    refine look_congr (entryAt_setFile ..) fun other hentry => ?_
    have hne : id ≠ other := by
      rintro rfl
      exact hother hentry
    rw [fileAt_setFile, if_neg hne]

/-- A file with a new number is placed where its entry is put, if the files of
the other entries are kept. -/
theorem placed_of_entryAt (hhome : after.home = store.home)
    (hentry : ∀ p, after.entryAt p =
      if place = p then some (.file store.freshId) else store.entryAt p)
    (hfile : after.fileAt store.freshId = ⟨mode, bytes⟩)
    (hothers : ∀ p other, place ≠ p → store.entryAt p = some (.file other) →
      after.fileAt other = store.fileAt other) : Placed store after place mode bytes := by
  have hhere : after.entryAt place = some (.file store.freshId) := by rw [hentry, if_pos rfl]
  have hoff (p : Location) (hp : p ≠ place) : after.entryAt p = store.entryAt p := by
    rw [hentry, if_neg hp.symm]
  refine ⟨hhome, look_eq_file_iff.2 ⟨_, hhere, hfile⟩, ?_, fun p hshared => ?_, hoff,
    fun p hp => ?_⟩
  · rw [hhere]
    exact (store.entryAt_ne_freshId place).symm
  · -- no entry but the new one names the new file
    rw [shareFile_iff_of_file hhere] at hshared
    by_contra hp
    rw [hoff p hp] at hshared
    exact store.entryAt_ne_freshId p hshared
  · exact look_congr (hoff p hp) fun other => hothers p other hp.symm

/-- To add a file at a vacant location is to place it there. -/
theorem placed_addFile (hvacant : store.entryAt place = none) (mode : Mode) (bytes : Bytes) :
    Placed store (store.addFile place mode bytes) place mode bytes := by
  refine placed_of_entryAt rfl (entryAt_addFile hvacant) ?_ fun p other _ hentry => ?_
  · rw [fileAt_addFile, if_pos rfl]
  · have hne : store.freshId ≠ other := by
      rintro rfl
      exact store.entryAt_ne_freshId p hentry
    rw [fileAt_addFile, if_neg hne]

/-- To move an added file is to place it where it is moved. -/
theorem placed_move_addFile (hvacant : store.entryAt spot = none)
    (htarget : store.entryAt target ≠ some .directory) (mode : Mode) (bytes : Bytes) :
    Placed store ((store.addFile spot mode bytes).move spot target) target mode bytes :=
  placed_of_entryAt (home_move ..) (entryAt_move_addFile hvacant htarget)
    (fileAt_move_addFile hvacant)
    fun _ _ hp hentry => fileAt_move_addFile_of_entryAt hvacant hentry hp

/-! ## In place -/

/-- A file made empty and filled is one that was made full. -/
theorem fill_addFile (place : Location) (mode : Nat) (bytes : Bytes) :
    (store.addFile place (Mode.created mode) []).fill store.freshId bytes =
      store.addFile place (Mode.made mode bytes) bytes := by
  unfold fill Mode.made
  split
  · rename_i hempty
    obtain rfl : bytes = [] := by simpa using hempty
    rfl
  · rw [fileAt_addFile, if_pos rfl]
    simp only [addFile, setFile_setFile]

/-- **A write in place that goes well** is one to the file to which the path
leads, or makes a file at the vacant name to which it leads. -/
theorem writeInPlace_cases {mode : Nat} (h : (store.writeInPlace path mode bytes).1 = .ok ()) :
    (∃ place id, store.walk .writing path = .ok (.file place id) ∧
      (store.writeInPlace path mode bytes).2 =
        store.setFile id ⟨(store.fileAt id).mode.afterWrite, bytes⟩) ∨
    ∃ place, store.walk .writing path = .ok (.vacant place) ∧ store.entryAt place = none ∧
      (store.writeInPlace path mode bytes).2 =
        store.addFile place (Mode.made mode bytes) bytes := by
  rw [writeInPlace_eq] at h ⊢
  rcases hwalk : store.walk .writing path with failure | place | ⟨place, id⟩ | place
  · simp [hwalk] at h
  · simp [hwalk] at h
  · by_cases hwritable : (store.fileAt id).mode.isWritable = true
    · exact .inl ⟨place, id, rfl, by simp only [if_pos hwritable]⟩
    · simp [hwalk, hwritable] at h
  · cases (resolves_of_walk hwalk).found with
    | vacant _ entry => exact .inr ⟨_, rfl, entry, fill_addFile _ mode bytes⟩

/-! ## Atomically -/

/-- **An atomic write that goes well** places a file at the last name of the
path, in the directory to which the path but for that name leads. -/
theorem writeAtomically_cases {mode : Nat}
    (h : (store.writeAtomically path mode bytes).1 = .ok ()) :
    ∃ dir name, store.Resolves path.directory (.directory dir) ∧
      store.renameTarget path = .ok (dir ++ [name]) ∧ path.names.getLast? = some name ∧
      Placed store (store.writeAtomically path mode bytes).2 (dir ++ [name])
        (mode &&& Mode.all) bytes := by
  rw [writeAtomically_eq] at h ⊢
  cases htemp : store.temporaryPlace path.directory with
  | error failure => simp [htemp] at h
  | ok tmp =>
    cases htarget : store.renameTarget path with
    | error failure => simp [htemp, htarget] at h
    | ok target =>
      obtain ⟨hlast, hbare, hentry⟩ := renameTarget_eq_ok_iff.1 htarget
      obtain ⟨-, dir, name, henter, hname, proper, rfl⟩ := lastPlace_eq_ok_iff.1 hlast
      -- the directory of the temporary file is that of the last name
      have hdirectory : store.Resolves path.directory (.directory dir) := by
        obtain ⟨front, hnames⟩ := List.getLast?_eq_some_iff.1 hname
        rw [hnames, List.dropLast_concat] at henter
        obtain ⟨links, hle, hwalks⟩ :=
          enter_eq_ok_iff.1 ((enter_directory hnames proper.ne_here hbare).2 henter)
        exact ⟨check_directory htemp, links, hle, hwalks.any_slash _⟩
      exact ⟨dir, name, hdirectory, rfl, hname,
        placed_move_addFile (store.entryAt_vacantName tmp) hentry _ bytes⟩

end Store

open Store

variable {settings : Settings} {path : Path} {content : Text} {store : Store}

theorem answer_writeFile_eq_ok_iff :
    (writeFile settings path content store).answer = .ok () ↔
      (store.writeBytes settings.method path settings.fileMode (Text.encode content)).1 =
        .ok () := by
  rw [answer_writeFile]
  rcases (store.writeBytes settings.method path settings.fileMode (Text.encode content)).1 with
    failure | ⟨⟩
  · simp [Except.mapError]
  · simp [Except.mapError]

/-- **The effect of a write in place.** If the path leads to a file, that file,
and so every name of it, holds the text; its bits are as they were but for the
set-id bits that a write clears, whatever bits the settings ask for; and every
other entry and file is as it was. If the path leads to a vacant name, an entry
is made there, in a directory that exists: a file that holds the text, with the
bits that the settings ask for but for those that are withheld, and for the
set-id bits that the write of the text clears. Nothing else changes. -/
theorem writeFile_inPlace_effect (hplace : settings.atomicWrites = false)
    (hok : (writeFile settings path content store).answer = .ok ()) :
    let after := (writeFile settings path content store).store
    (∃ place id mode bytes, store.Resolves path (.file place id) ∧
      store.look place = some (.file mode bytes) ∧
      Overwritten store after place mode.afterWrite (Text.encode content)) ∨
    ∃ dir name, store.Resolves path (.vacant (dir ++ [name])) ∧
      store.look dir = some .directory ∧ store.look (dir ++ [name]) = none ∧
      Placed store after (dir ++ [name]) (Mode.made settings.fileMode (Text.encode content))
        (Text.encode content) := by
  intro after
  have hmethod := Settings.method_eq_inPlace hplace
  rw [answer_writeFile_eq_ok_iff, hmethod, writeBytes] at hok
  have hafter : after =
      (store.writeInPlace path settings.fileMode (Text.encode content)).2 := by
    rw [← writeBytes, ← hmethod]
    rfl
  rcases writeInPlace_cases hok with ⟨place, id, hwalk, hstore⟩ | ⟨place, hwalk, hvacant, hstore⟩
  · have hresolves := resolves_of_walk hwalk
    refine .inl ?_
    cases hresolves.found with
    | file _ entry =>
      rw [hafter, hstore]
      exact ⟨_, id, _, _, hresolves, look_of_file entry, overwritten_setFile entry _ _⟩
  · have hresolves := resolves_of_walk hwalk
    refine .inr ?_
    cases hresolves.found with
    | @vacant dir name parent entry =>
      rw [hafter, hstore]
      exact ⟨dir, name, hresolves, look_eq_directory_iff.2 parent, look_eq_none_iff.2 entry,
        placed_addFile hvacant _ _⟩

/-- Through two links, one of them to an absolute path, to a file with two
names. -/
theorem writeFile_inPlace_effect_of_links :
    let store : Store := ⟨[[0x77]], [([[0x64]], .directory), ([[0x64], [0x66]], .file 0),
      ([[0x68]], .file 0), ([[0x77], [0x6b]], .link (.ofText "/d/f".toList)),
      ([[0x64], [0x6c]], .link (.ofText "../w/./k".toList))], [(0, ⟨0o4755, [0x61]⟩)]⟩
    let settings : Settings := { fileMode := 0o600 }
    let path : Path := .ofText "../d/l".toList
    let after := (writeFile settings path "xy".toList store).store
    settings.atomicWrites = false ∧
      (writeFile settings path "xy".toList store).answer = .ok () ∧
      ((∃ place id mode bytes, store.Resolves path (.file place id) ∧
        store.look place = some (.file mode bytes) ∧
        Overwritten store after place mode.afterWrite (Text.encode "xy".toList)) ∨
      ∃ dir name, store.Resolves path (.vacant (dir ++ [name])) ∧
        store.look dir = some .directory ∧ store.look (dir ++ [name]) = none ∧
        Placed store after (dir ++ [name]) (Mode.made settings.fileMode (Text.encode "xy".toList))
          (Text.encode "xy".toList)) := by
  intro store settings path after
  have hok : (writeFile settings path "xy".toList store).answer = .ok () := by decide +kernel
  exact ⟨rfl, hok, writeFile_inPlace_effect rfl hok⟩

/-- **A write in place does not keep every bit**, neither of a file that was there
nor of those that were asked for: it clears the set-id bit of the owner. -/
theorem not_writeFile_inPlace_keeps_bits :
    (¬ ∀ (settings : Settings) (path : Path) (content : Text) (store : Store) (place : Location)
        (id : FileId) (mode : Mode) (bytes : Bytes), settings.atomicWrites = false →
      (writeFile settings path content store).answer = .ok () →
      store.Resolves path (.file place id) → store.look place = some (.file mode bytes) →
        (writeFile settings path content store).store.look place =
          some (.file mode (Text.encode content))) ∧
    ¬ ∀ (settings : Settings) (path : Path) (content : Text) (store : Store) (place : Location),
      settings.atomicWrites = false →
      (writeFile settings path content store).answer = .ok () →
      store.Resolves path (.vacant place) →
        (writeFile settings path content store).store.look place =
          some (.file (Mode.created settings.fileMode) (Text.encode content)) := by
  let store : Store := ⟨[], [([[0x66]], .file 0)], [(0, ⟨0o4755, [0x61]⟩)]⟩
  constructor
  · intro h
    have hresolves : store.Resolves (.ofText "f".toList) (.file [[0x66]] 0) :=
      resolves_iff.2 (by decide +kernel)
    have hlook := h {} (.ofText "f".toList) "b".toList store [[0x66]] 0 0o4755 [0x61] rfl
      (by decide +kernel) hresolves (by decide +kernel)
    revert hlook
    decide +kernel
  · intro h
    have hresolves : store.Resolves (.ofText "g".toList) (.vacant [[0x67]]) :=
      resolves_iff.2 (by decide +kernel)
    have hlook := h { fileMode := 0o6644 } (.ofText "g".toList) "c".toList store [[0x67]] rfl
      (by decide +kernel) hresolves
    revert hlook
    decide +kernel

/-- **The effect of an atomic write.** The one entry that differs afterwards is
that of the path's last name, in the directory to which the rest of the path
leads. It was no directory; it is a file of its own, with no other name, that
holds the text and has just the bits that the settings ask for, whether a file
stood there, with however many names, or a link, or nothing. The file and the
target of the link are as they were where they have another name. -/
theorem writeFile_atomic_effect (hatomic : settings.atomicWrites = true)
    (hok : (writeFile settings path content store).answer = .ok ()) :
    let after := (writeFile settings path content store).store
    ∃ dir name, store.Resolves path.directory (.directory dir) ∧
      path.names.getLast? = some name ∧ store.look dir = some .directory ∧
      store.look (dir ++ [name]) ≠ some .directory ∧
      Placed store after (dir ++ [name]) (settings.fileMode &&& Mode.all)
        (Text.encode content) := by
  intro after
  have hmethod := Settings.method_eq_atomic_iff.2 hatomic
  rw [answer_writeFile_eq_ok_iff, hmethod, writeBytes] at hok
  have hafter : after =
      (store.writeAtomically path settings.fileMode (Text.encode content)).2 := by
    rw [← writeBytes, ← hmethod]
    rfl
  obtain ⟨dir, name, hdirectory, htarget, hname, hplaced⟩ := writeAtomically_cases hok
  refine ⟨dir, name, hdirectory, hname, ?_, ?_, hafter ▸ hplaced⟩
  · cases hdirectory.found with
    | directory entry => exact look_eq_directory_iff.2 entry
  · rw [ne_eq, look_eq_directory_iff]
    exact (renameTarget_eq_ok_iff.1 htarget).2.2

/-- A link in a directory that is itself reached through a link to an absolute
path, in place of which a file is put. -/
theorem writeFile_atomic_effect_of_link :
    let store : Store := ⟨[[0x77]], [([[0x64]], .directory), ([[0x64], [0x66]], .file 0),
      ([[0x68]], .file 0), ([[0x64], [0x6c]], .link (.ofText "../h".toList)),
      ([[0x77], [0x6b]], .link (.ofText "/d".toList))], [(0, ⟨0o644, [0x61]⟩)]⟩
    let settings : Settings := { atomicWrites := true, fileMode := 0o4766 }
    let path : Path := .ofText "./k//../d/./l".toList
    let after := (writeFile settings path "xy".toList store).store
    settings.atomicWrites = true ∧
      (writeFile settings path "xy".toList store).answer = .ok () ∧
      ∃ dir name, store.Resolves path.directory (.directory dir) ∧
        path.names.getLast? = some name ∧ store.look dir = some .directory ∧
        store.look (dir ++ [name]) ≠ some .directory ∧
        Placed store after (dir ++ [name]) (settings.fileMode &&& Mode.all)
          (Text.encode "xy".toList) := by
  intro store settings path after
  have hok : (writeFile settings path "xy".toList store).answer = .ok () := by decide +kernel
  exact ⟨rfl, hok, writeFile_atomic_effect rfl hok⟩

end Graft
