import Graft.Proofs.Plain

/-!
# Edits of different files in any order

Edits of two files do not get into each other's way. In a plain store an edit
reads and writes one file, and the shape of the store, which decides what every
path leads to, stays as it is. So two edits of different files answer the same
in either order and leave the same behind (`Plain.perform_comm`), and so do
any number of edits in any two orders that agree on the edits of one file
(`run_interleavings`). How a path is spelt does not matter: two paths name one
file if they lead to it (`Store.sameFile`).
-/

namespace Graft

/-- An edit to be made in the file at a path, as settings say. -/
structure Task where
  settings : Settings
  path : Path
  edit : Edit

/-- The step of a session that does the task. -/
def Task.step (task : Task) : Step :=
  .splice task.settings task.path task.edit

namespace Store

variable {store store' after after' : Store} {path path' : Path} {place : Location} {id : FileId}
variable {change change' : Option (Location × Mode × Bytes)}

/-- Both paths lead to one and the same file. -/
def sameFile (store : Store) (path path' : Path) : Bool :=
  match store.walk .reading path, store.walk .reading path' with
  | .ok (.file _ id), .ok (.file _ id') => id = id'
  | _, _ => false

theorem sameFile_of_walk {place' : Location} (h : store.walk .reading path = .ok (.file place id))
    (h' : store.walk .reading path' = .ok (.file place' id)) :
    store.sameFile path path' = true := by
  simp [sameFile, h, h']

theorem exists_walk_of_sameFile (h : store.sameFile path path' = true) :
    ∃ place place' id, store.walk .reading path = .ok (.file place id) ∧
      store.walk .reading path' = .ok (.file place' id) := by
  unfold sameFile at h
  split at h
  · rename_i place id place' id' hwalk hwalk'
    obtain rfl : id = id' := by simpa using h
    exact ⟨place, place', id, hwalk, hwalk'⟩
  · cases h

theorem sameFile_symm (h : store.sameFile path path' = true) :
    store.sameFile path' path = true := by
  obtain ⟨_, _, _, hwalk, hwalk'⟩ := exists_walk_of_sameFile h
  exact sameFile_of_walk hwalk' hwalk

/-- In a plain store paths that lead to one location lead to one file. -/
theorem Plain.sameFile_of_place (hplain : store.Plain) {id' : FileId}
    (h : store.walk .reading path = .ok (.file place id))
    (h' : store.walk .reading path' = .ok (.file place id')) :
    store.sameFile path path' = true := by
  have hentry := (hplain.entryAt_of_walk h).symm.trans (hplain.entryAt_of_walk h')
  obtain rfl : id = id' := by simpa using hentry
  exact sameFile_of_walk h h'

/-- Which paths lead to one file depends on the shape of a plain store. -/
theorem SameShape.sameFile (hshape : SameShape store store') (hplain : store.Plain)
    (hplain' : store'.Plain) (h : store'.sameFile path path' = true) :
    store.sameFile path path' = true := by
  obtain ⟨place, place', id, hwalk, hwalk'⟩ := exists_walk_of_sameFile h
  obtain rfl : place = place' :=
    hplain'.one_name _ _ id (hplain'.entryAt_of_walk hwalk) (hplain'.entryAt_of_walk hwalk')
  obtain ⟨_, hwalk⟩ := hshape.symm.exists_walk_eq hwalk
  obtain ⟨_, hwalk'⟩ := hshape.symm.exists_walk_eq hwalk'
  exact hplain.sameFile_of_place hwalk hwalk'

/-! ## What an edit changes -/

/-- What is seen at a location after a change. -/
def seen (change : Option (Location × Mode × Bytes)) (place : Location) (sight : Option Sight) :
    Option Sight :=
  match change with
  | none => sight
  | some (changed, mode, bytes) => if changed = place then some (.file mode bytes) else sight

namespace Changed

theorem plain (h : Changed store path after change) (hplain : store.Plain) : after.Plain := by
  cases h with
  | kept => exact hplain
  | rewritten _ h => exact h.plain

theorem shape (h : Changed store path after change) : SameShape store after := by
  cases h with
  | kept => exact (SameContents.refl _).sameShape
  | rewritten _ h => exact h.shape

theorem look_eq (h : Changed store path after change) (place : Location) :
    after.look place = seen change place (store.look place) := by
  cases h with
  | kept => rfl
  | rewritten _ h => exact h.look_eq place

/-- One change made to stores in which the same is seen. -/
theorem seenAlike (h : Changed store path after change) (h' : Changed store' path after' change)
    (halike : SeenAlike store store') : SeenAlike after after' where
  home_eq := by rw [h'.shape.home_eq, halike.home_eq, h.shape.home_eq]
  look_eq place := by rw [h.look_eq, h'.look_eq, halike.look_eq]

/-- A change of one file is not seen at the end of a path to another. -/
theorem agreeAt (h : Changed store path after change) (hplain : store.Plain)
    (hother : ¬ store.sameFile path path' = true) : AgreeAt store after path' := by
  intro place id hwalk
  cases h with
  | kept => rfl
  | @rewritten _ changed _ _ _ hchanged h =>
    have hne : changed ≠ place := by
      rintro rfl
      exact hother (hplain.sameFile_of_place hchanged hwalk)
    rw [h.look_eq, if_neg hne]

/-- Changes of different files are seen alike in either order. -/
theorem seen_comm (h : Changed store path after change) (h' : Changed store path' after' change')
    (hplain : store.Plain) (hother : ¬ store.sameFile path path' = true) (place : Location)
    (sight : Option Sight) :
    seen change' place (seen change place sight) =
      seen change place (seen change' place sight) := by
  cases h with
  | kept => rfl
  | @rewritten _ changed _ _ _ hchanged _ =>
    cases h' with
    | kept => rfl
    | @rewritten _ changed' _ _ _ hchanged' _ =>
      have hne : changed ≠ changed' := by
        rintro rfl
        exact hother (hplain.sameFile_of_place hchanged hchanged')
      unfold seen
      simp only
      split
      · rename_i heq
        rw [if_neg (fun h => hne (h.trans heq.symm))]
      · rfl

end Changed

/-! ## Two edits -/

/-- An edit answers alike in stores in which the same is seen, and leaves the
same to be seen. -/
theorem Plain.perform_congr (hplain : store.Plain) (hplain' : store'.Plain)
    (halike : SeenAlike store store') (task : Task) :
    (task.step.perform store).answer = (task.step.perform store').answer ∧
      (task.step.perform store).store.Plain ∧ (task.step.perform store').store.Plain ∧
      SeenAlike (task.step.perform store).store (task.step.perform store').store := by
  obtain ⟨hanswer, change, hchange, hchange'⟩ :=
    hplain.perform_local hplain' halike.sameContents.sameShape
      (fun place _ _ => halike.look_eq place) task.settings task.edit
  exact ⟨hanswer, hchange.plain hplain, hchange'.plain hplain', hchange.seenAlike hchange' halike⟩

/-- What an edit changes. -/
theorem Plain.exists_changed (hplain : store.Plain) (task : Task) :
    ∃ change, Changed store task.path (task.step.perform store).store change := by
  obtain ⟨-, change, hchange, -⟩ :=
    hplain.perform_local hplain (SameContents.refl store).sameShape (fun _ _ _ => rfl)
      task.settings task.edit
  exact ⟨change, hchange⟩

/-- **Edits of different files commute.** Each answers as it does without the
other before it, and in either order the same is seen in the end. -/
theorem Plain.perform_comm (hplain : store.Plain) {a b : Task}
    (hother : ¬ store.sameFile a.path b.path = true) :
    let first := (a.step.perform store).store
    let second := (b.step.perform store).store
    (b.step.perform first).answer = (b.step.perform store).answer ∧
      (a.step.perform second).answer = (a.step.perform store).answer ∧
      SeenAlike (b.step.perform first).store (a.step.perform second).store := by
  intro first second
  have hother' : ¬ store.sameFile b.path a.path = true := mt sameFile_symm hother
  obtain ⟨_, hfirst⟩ := hplain.exists_changed a
  obtain ⟨_, hsecond⟩ := hplain.exists_changed b
  obtain ⟨hanswer, change, hchange, hafter⟩ := hplain.perform_local (hfirst.plain hplain)
    hfirst.shape (hfirst.agreeAt hplain hother) b.settings b.edit
  obtain ⟨hanswer', change', hchange', hafter'⟩ := hplain.perform_local (hsecond.plain hplain)
    hsecond.shape (hsecond.agreeAt hplain hother') a.settings a.edit
  refine ⟨hanswer.symm, hanswer'.symm, ?_, fun place => ?_⟩
  · calc (a.step.perform second).store.home
        = second.home := hafter'.shape.home_eq
      _ = store.home := hsecond.shape.home_eq
      _ = first.home := hfirst.shape.home_eq.symm
      _ = (b.step.perform first).store.home := hafter.shape.home_eq.symm
  calc (b.step.perform first).store.look place
      = seen change place (seen change' place (store.look place)) := by
        rw [← hchange'.look_eq]
        exact hafter.look_eq place
    _ = seen change' place (seen change place (store.look place)) :=
        hchange'.seen_comm hchange hplain hother place _
    _ = (a.step.perform second).store.look place := by
        rw [← hchange.look_eq]
        exact (hafter'.look_eq place).symm

end Store

/-! ## Sessions -/

variable {ι : Type} (work : ι → Task) {store store' : Store} {order order' front rest : List ι}
variable {a : ι}

/-- What every task answers when they are done in an order. -/
def answers (order : List ι) (store : Store) : List (ι × Except Error Answer) :=
  order.zip ((run (order.map fun i => (work i).step) store).map (·.answer))

/-- The store in the end, when the tasks have been done in an order. -/
def storeAfter (order : List ι) (store : Store) : Store :=
  (run (order.map fun i => (work i).step) store).foldl (fun _ outcome => outcome.store) store

theorem answers_cons (i : ι) (rest : List ι) (store : Store) :
    answers work (i :: rest) store = (i, ((work i).step.perform store).answer) ::
      answers work rest ((work i).step.perform store).store := rfl

/-- A session answers alike in stores in which the same is seen, and leaves the
same to be seen. -/
theorem answers_congr (hplain : store.Plain) (hplain' : store'.Plain)
    (halike : Store.SeenAlike store store') (order : List ι) :
    answers work order store = answers work order store' ∧
      ∀ place, (storeAfter work order store).look place =
        (storeAfter work order store').look place := by
  induction order generalizing store store' with
  | nil => exact ⟨rfl, halike.look_eq⟩
  | cons i rest ih =>
    obtain ⟨hanswer, hnext, hnext', halike'⟩ := hplain.perform_congr hplain' halike (work i)
    obtain ⟨hanswers, hafter⟩ := ih hnext hnext' halike'
    rw [answers_cons, answers_cons, hanswer, hanswers]
    exact ⟨rfl, hafter⟩

/-- **A task may be done before others** whose files are not its own. -/
theorem answers_move_front (hplain : store.Plain)
    (hothers : ∀ b ∈ front, ¬ store.sameFile (work b).path (work a).path = true)
    (rest : List ι) :
    (answers work (front ++ a :: rest) store).Perm (answers work (a :: (front ++ rest)) store) ∧
      ∀ place, (storeAfter work (front ++ a :: rest) store).look place =
        (storeAfter work (a :: (front ++ rest)) store).look place := by
  induction front generalizing store with
  | nil => exact ⟨.refl _, fun _ => rfl⟩
  | cons b front ih =>
    obtain ⟨hother, hothers⟩ := List.forall_mem_cons.1 hothers
    obtain ⟨_, hchanged⟩ := hplain.exists_changed (work b)
    obtain ⟨_, hchanged'⟩ := hplain.exists_changed (work a)
    have hfirst := hchanged.plain hplain
    have hsecond := hchanged'.plain hplain
    obtain ⟨hperm, hlook⟩ := ih hfirst fun c hc =>
      mt (hchanged.shape.sameFile hplain hfirst) (hothers c hc)
    obtain ⟨hanswer, hanswer', hsame⟩ := hplain.perform_comm hother
    obtain ⟨_, hboth⟩ := hfirst.exists_changed (work a)
    obtain ⟨_, hboth'⟩ := hsecond.exists_changed (work b)
    -- `b` and then `a` leaves the tasks still to come what `a` and then `b` does
    obtain ⟨hanswers, hafter⟩ :=
      answers_congr work (hboth.plain hfirst) (hboth'.plain hsecond) hsame (front ++ rest)
    refine ⟨?_, fun place => (hlook place).trans (hafter place)⟩
    have hhead : (answers work (b :: front ++ a :: rest) store).Perm
        ((b, ((work b).step.perform store).answer) ::
          answers work (a :: (front ++ rest)) ((work b).step.perform store).store) :=
      hperm.cons _
    refine hhead.trans ?_
    rw [List.cons_append, answers_cons, answers_cons, answers_cons, hanswer, hanswer', hanswers]
    exact .swap ..

/-- In a list without repetition nothing stands both before and behind. -/
theorem not_sublist_of_mem_front {b : ι} (hnodup : (front ++ a :: rest).Nodup) (hb : b ∈ front) :
    ¬ [a, b].Sublist (front ++ a :: rest) := by
  intro h
  obtain ⟨-, -, hdisjoint⟩ := List.nodup_append.1 hnodup
  obtain ⟨first, second, hsplit, hfirst, hsecond⟩ := List.sublist_append_iff.1 h
  cases first with
  | nil =>
    obtain rfl : [a, b] = second := by simpa using hsplit
    exact hdisjoint b hb b (hsecond.subset (by simp)) rfl
  | cons c first =>
    obtain rfl : a = c := (List.cons.inj hsplit).1
    exact hdisjoint a (hfirst.subset (by simp)) a (by simp) rfl

/-- What does not hold an element is not held less without it. -/
theorem sublist_of_not_mem {l : List ι} (ha : a ∉ l) (h : l.Sublist (front ++ a :: rest)) :
    l.Sublist (front ++ rest) := by
  obtain ⟨first, second, rfl, hfirst, hsecond⟩ := List.sublist_append_iff.1 h
  rcases List.sublist_cons_iff.1 hsecond with hsecond | ⟨others, rfl, -⟩
  · exact hfirst.append hsecond
  · simp at ha

/-- **Edits of different files can be made in any order.** In a plain store a
number of tasks are done in two orders, which agree on any two tasks whose
paths lead to the same file. Then every task answers the same in both, and in
the end the same is seen at every location. -/
theorem run_interleavings (hplain : store.Plain) (hnodup : order.Nodup)
    (hperm : order'.Perm order)
    (hkeep : ∀ a b, store.sameFile (work a).path (work b).path = true →
      [a, b].Sublist order → [a, b].Sublist order') :
    (answers work order' store).Perm (answers work order store) ∧
      ∀ place, (storeAfter work order' store).look place =
        (storeAfter work order store).look place := by
  induction order generalizing order' store with
  | nil =>
    obtain rfl : order' = [] := hperm.eq_nil
    exact ⟨.refl _, fun _ => rfl⟩
  | cons a rest ih =>
    obtain ⟨harest, hnodup'⟩ := List.nodup_cons.1 hnodup
    obtain ⟨front, back, rfl⟩ := List.append_of_mem (hperm.mem_iff.2 List.mem_cons_self)
    have hperm' : (front ++ back).Perm rest := (List.perm_middle.symm.trans hperm).cons_inv
    -- what is done before `a` in the one order only is about other files
    have hothers : ∀ b ∈ front, ¬ store.sameFile (work b).path (work a).path = true := by
      intro b hb hsame
      have hbrest : b ∈ rest := hperm'.mem_iff.1 (List.mem_append_left _ hb)
      have hbefore : [a, b].Sublist (a :: rest) := (List.singleton_sublist.2 hbrest).cons_cons a
      exact not_sublist_of_mem_front (hperm.nodup_iff.2 hnodup) hb
        (hkeep a b (Store.sameFile_symm hsame) hbefore)
    obtain ⟨_, hchanged⟩ := hplain.exists_changed (work a)
    have hnext := hchanged.plain hplain
    obtain ⟨hmoved, hlook⟩ := answers_move_front work hplain hothers back
    obtain ⟨hanswers, hafter⟩ := ih hnext hnodup' hperm' fun b c hsame hsub => by
      have hin := hkeep b c (hchanged.shape.sameFile hplain hnext hsame) (hsub.cons a)
      exact sublist_of_not_mem (fun ha => harest (hsub.subset ha)) hin
    exact ⟨hmoved.trans (hanswers.cons _), fun place => (hlook place).trans (hafter place)⟩

/-- Four tasks on two files, one of which is spelt in two ways, by its name and
from the root by way of another directory, and on none. -/
theorem run_interleavings_of_four :
    let store : Store := ⟨[[0x77]], [([[0x64]], .directory), ([[0x64], [0x67]], .file 0),
      ([[0x77], [0x66]], .file 1)], [(0, ⟨0o644, [0x61]⟩), (1, ⟨0o2755, [0x62]⟩)]⟩
    let atomic : Settings := { atomicWrites := true, fileMode := 0o600 }
    let work : Fin 4 → Task
      | 0 => ⟨{}, .ofText "f".toList, .insert "b".toList "c".toList⟩
      | 1 => ⟨atomic, .ofText "..//d/g".toList, .replace [⟨"a".toList, "x".toList⟩]⟩
      | 2 => ⟨atomic, .ofText "/d/../w/f".toList, .uncomment "bc".toList "b".toList⟩
      | 3 => ⟨{}, .ofText "../d/m".toList, .fillWebhook⟩
    let order : List (Fin 4) := [0, 1, 2, 3]
    let order' : List (Fin 4) := [3, 1, 0, 2]
    store.Plain ∧ order.Nodup ∧ order'.Perm order ∧
      (∀ a b, store.sameFile (work a).path (work b).path = true →
        [a, b].Sublist order → [a, b].Sublist order') ∧
      (answers work order' store).Perm (answers work order store) ∧
      ∀ place, (storeAfter work order' store).look place =
        (storeAfter work order store).look place := by
  intro store atomic work order order'
  have hplain : store.Plain := .of_entries (by simp [store]) (by simp [store])
  have hnodup : order.Nodup := by decide
  have hperm : order'.Perm order := by decide
  have hkeep : ∀ a b, store.sameFile (work a).path (work b).path = true →
      [a, b].Sublist order → [a, b].Sublist order' := by decide +kernel
  exact ⟨hplain, hnodup, hperm, hkeep, run_interleavings work hplain hnodup hperm hkeep⟩

end Graft
