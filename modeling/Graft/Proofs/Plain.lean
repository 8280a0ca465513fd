import Graft.Proofs.Look
import Graft.Proofs.Shape

/-!
# Plain stores

A store is plain if it has no symbolic links and no file with two names. There
a path leads to a file by one location only, and no other location sees the
file change. So a write, in whichever way, comes to one thing: at the location
of the file other bits and bytes are seen, and everywhere else what was seen
before (`Rewritten`). Whether it goes well and which bits the file gets depend
on the bits it had and on the directory for a temporary file
(`Store.newMode`), and on nothing else (`Plain.written`).

An edit reads one file and writes that file. So it answers alike in two plain
stores of one shape in which the file looks the same, and makes the same change
to both (`Plain.perform_local`).
-/

namespace Graft

namespace Store

variable {store store' after after' : Store} {path : Path} {dir place : Location} {name : Name}
variable {id new : FileId} {mode : Mode} {bytes : Bytes}

/-- No symbolic links, and no file with two names. -/
structure Plain (store : Store) : Prop where
  no_link : ∀ place target, store.entryAt place ≠ some (.link target)
  one_name : ∀ a b id, store.entryAt a = some (.file id) →
    store.entryAt b = some (.file id) → a = b

/-- In the list of entries there are no links and no number twice. -/
theorem Plain.of_entries
    (hlink : ∀ pair ∈ store.entries, ∀ target, pair.2 ≠ .link target)
    (hname : ∀ a ∈ store.entries, ∀ b ∈ store.entries, ∀ id, a.2 = .file id → b.2 = .file id →
      a.1 = b.1) : store.Plain := by
  constructor
  · intro place target h
    exact hlink _ (mem_entries_of_entryAt h (by simp)) target rfl
  · intro a b id ha hb
    exact hname _ (mem_entries_of_entryAt ha (by simp)) _ (mem_entries_of_entryAt hb (by simp)) id
      rfl rfl

/-- A path leads to a file through the entry that its last name stands for. -/
theorem Plain.place_eq (hplain : store.Plain) (h : store.Reaches path dir name place id) :
    place = dir ++ [name] ∧ store.entryAt place = some (.file id) := by
  obtain ⟨_, _, _, _, hwalks⟩ := h.walks
  cases hwalks with
  | here h => cases h
  | up h => cases h
  | enter _ _ h => cases h
  | follow _ entry _ => exact absurd entry (hplain.no_link _ _)
  | file _ entry => exact ⟨rfl, entry⟩

/-! ## Writing a file -/

/-- The store is as it was, but for the file at one location, which has these
bits and bytes. -/
structure Rewritten (store after : Store) (place : Location) (mode : Mode) (bytes : Bytes) :
    Prop where
  plain : after.Plain
  shape : SameShape store after
  look_eq : ∀ p, after.look p = if place = p then some (.file mode bytes) else store.look p

/-- A plain store stays plain when a file takes the place of another that no
other entry names. -/
theorem Plain.of_entryAt (hplain : store.Plain)
    (hnew : ∀ p, place ≠ p → store.entryAt p ≠ some (.file new))
    (hentry : ∀ p, after.entryAt p = if place = p then some (.file new) else store.entryAt p) :
    after.Plain := by
  have hhere : after.entryAt place = some (.file new) := by rw [hentry, if_pos rfl]
  have hoff (p : Location) (hp : place ≠ p) : after.entryAt p = store.entryAt p := by
    rw [hentry, if_neg hp]
  constructor
  · intro p target h
    by_cases hp : place = p
    · subst hp
      rw [hhere] at h
      cases h
    · exact hplain.no_link p target (hoff p hp ▸ h)
  · intro a b other ha hb
    by_cases hpa : place = a <;> by_cases hpb : place = b
    · exact hpa.symm.trans hpb
    · subst hpa
      obtain rfl : new = other := by simpa using hhere.symm.trans ha
      exact absurd (hoff b hpb ▸ hb) (hnew b hpb)
    · subst hpb
      obtain rfl : new = other := by simpa using hhere.symm.trans hb
      exact absurd (hoff a hpa ▸ ha) (hnew a hpa)
    · exact hplain.one_name a b other (hoff a hpa ▸ ha) (hoff b hpb ▸ hb)

/-- A file in the place of another leaves the shape as it was. -/
theorem SameShape.of_entryAt (hhome : after.home = store.home)
    (hold : store.entryAt place = some (.file id))
    (hentry : ∀ p, after.entryAt p = if place = p then some (.file new) else store.entryAt p) :
    SameShape store after := by
  refine ⟨hhome, fun p => ?_⟩
  rw [hentry]
  split
  · rename_i hp
    rw [← hp, hold]
    exact .some (.file id new)
  · cases store.entryAt p with
    | none => exact .none
    | some entry => exact .some (.refl entry)

/-- A file that takes the place of another, or of itself, changes nothing but
what is seen there. -/
theorem Plain.rewritten (hplain : store.Plain) (hhome : after.home = store.home)
    (hold : store.entryAt place = some (.file id))
    (hnew : ∀ p, place ≠ p → store.entryAt p ≠ some (.file new))
    (hentry : ∀ p, after.entryAt p = if place = p then some (.file new) else store.entryAt p)
    (hfile : after.fileAt new = ⟨mode, bytes⟩)
    (hothers : ∀ p other, place ≠ p → store.entryAt p = some (.file other) →
      after.fileAt other = store.fileAt other) : Rewritten store after place mode bytes := by
  refine ⟨hplain.of_entryAt hnew hentry, .of_entryAt hhome hold hentry, fun p => ?_⟩
  by_cases hp : place = p
  · subst hp
    have hhere : after.entryAt place = some (.file new) := by rw [hentry, if_pos rfl]
    rw [if_pos rfl, look_of_file hhere, hfile]
  · have hoff : after.entryAt p = store.entryAt p := by rw [hentry, if_neg hp]
    rw [if_neg hp]
    exact look_congr hoff fun other h => hothers p other hp h

/-- A file that is given other contents is another at its one location. -/
theorem Plain.rewritten_setFile (hplain : store.Plain)
    (hold : store.entryAt place = some (.file id)) (mode : Mode) (bytes : Bytes) :
    Rewritten store (store.setFile id ⟨mode, bytes⟩) place mode bytes := by
  have honly (p : Location) (hp : place ≠ p) : store.entryAt p ≠ some (.file id) :=
    fun hentry => hp (hplain.one_name _ _ _ hold hentry)
  refine hplain.rewritten rfl hold honly (fun p => ?_) (fileAt_setFile_self ..) ?_
  · rw [entryAt_setFile]
    split
    · rename_i hp
      rw [← hp, hold]
    · rfl
  · intro p other hp hentry
    rw [fileAt_setFile, if_neg]
    rintro rfl
    exact honly p hp hentry

/-- A new file that is moved over another is seen in its place. -/
theorem Plain.rewritten_move (hplain : store.Plain)
    (hold : store.entryAt place = some (.file id)) {spot : Location}
    (hvacant : store.entryAt spot = none) (mode : Mode) (bytes : Bytes) :
    Rewritten store ((store.addFile spot mode bytes).move spot place) place mode bytes := by
  refine hplain.rewritten (home_move ..) hold (fun p _ => store.entryAt_ne_freshId p)
    (entryAt_move_addFile hvacant (by simp [hold])) (fileAt_move_addFile hvacant) ?_
  intro p other hp hentry
  exact fileAt_move_addFile_of_entryAt hvacant hentry hp

/-- The bits that a file with these bits gets when it is written, or why it
cannot be: in place its owner must be allowed to, atomically there must be a
directory for the temporary file. -/
def newMode (store : Store) (method : Method) (path : Path) (asked : Nat) (old : Mode) :
    Except (Failure × Path) Mode :=
  match method with
  | .inPlace => if old.isWritable then .ok old.afterWrite else .error (.permissionDenied, path)
  | .atomic =>
    match store.temporaryPlace path.directory with
    | .ok _ => .ok (asked &&& Mode.all)
    | .error failure =>
      .error (.temporary (store.temporaryPath path.directory).shown failure, path.directory)

theorem SameShape.newMode_eq (hshape : SameShape store store') (method : Method) (path : Path)
    (asked : Nat) (old : Mode) :
    store.newMode method path asked old = store'.newMode method path asked old := by
  unfold newMode
  rw [hshape.temporaryPlace_eq, hshape.temporaryPath_eq]

/-- What writing these bytes to the file at a location comes to, beside the
bits that it gets. -/
inductive Written (store : Store) (place : Location) (bytes : Bytes) :
    Except (Failure × Path) Mode → Except (Failure × Path) Unit × Store → Prop
  | done {mode : Mode} {after : Store} (h : Rewritten store after place mode bytes) :
      Written store place bytes (.ok mode) (.ok (), after)
  | failed (failure : Failure × Path) :
      Written store place bytes (.error failure) (.error failure, store)

/-- **Writing a file in a plain store** changes what is seen of that file, or
nothing. -/
theorem Plain.written (hplain : store.Plain) (h : store.Reaches path dir name place id)
    (method : Method) (asked : Nat) (bytes : Bytes) :
    Written store place bytes (store.newMode method path asked (store.fileAt id).mode)
      (store.writeBytes method path asked bytes) := by
  obtain ⟨rfl, hold⟩ := hplain.place_eq h
  unfold newMode Store.writeBytes
  cases method with
  | inPlace =>
    by_cases hwritable : (store.fileAt id).mode.isWritable = true
    · rw [h.writeInPlace_eq hwritable]
      simp only [if_pos hwritable]
      exact .done (hplain.rewritten_setFile hold _ bytes)
    · rw [Store.writeInPlace_eq, h.walk_eq .writing]
      simp only [if_neg hwritable]
      exact .failed _
  | atomic =>
    cases htemp : store.temporaryPlace path.directory with
    | error failure =>
      rw [Store.writeAtomically_eq, htemp]
      exact .failed _
    | ok tmp =>
      rw [h.writeAtomically_eq htemp]
      exact .done (hplain.rewritten_move hold (store.entryAt_vacantName tmp) _ bytes)

/-! ## Editing a file -/

/-- What an edit of the file at a path did to a store: nothing, or other bits
and bytes at the location to which the path leads. -/
inductive Changed (store : Store) (path : Path) :
    Store → Option (Location × Mode × Bytes) → Prop
  | kept : Changed store path store none
  | rewritten {after : Store} {place : Location} {id : FileId} {mode : Mode} {bytes : Bytes}
      (walk : store.walk .reading path = .ok (.file place id))
      (h : Rewritten store after place mode bytes) :
      Changed store path after (some (place, mode, bytes))

/-- A file to which a path leads is that of the entry there. -/
theorem Plain.entryAt_of_walk (hplain : store.Plain)
    (h : store.walk .reading path = .ok (.file place id)) :
    store.entryAt place = some (.file id) := by
  obtain ⟨_, _, hreaches⟩ := exists_reaches h
  exact (hplain.place_eq hreaches).2

/-- Files that look the same are the same. -/
theorem fileAt_eq_of_look {id' : FileId} (h : store.entryAt place = some (.file id))
    (h' : store'.entryAt place = some (.file id')) (hlook : store.look place = store'.look place) :
    store.fileAt id = store'.fileAt id' := by
  rw [look_of_file h, look_of_file h'] at hlook
  rcases hfile : store.fileAt id with ⟨mode, bytes⟩
  rcases hfile' : store'.fileAt id' with ⟨mode', bytes'⟩
  simpa [hfile, hfile'] using hlook

/-- The stores look the same where the path leads to a file. -/
def AgreeAt (store store' : Store) (path : Path) : Prop :=
  ∀ place id, store.walk .reading path = .ok (.file place id) →
    store.look place = store'.look place

/-- **A write depends on the file it is about alone**: it answers alike in two
stores in which that looks the same, and does the same to both. -/
theorem Plain.writeFile_local (hplain : store.Plain) (hplain' : store'.Plain)
    (hshape : SameShape store store') (hagree : AgreeAt store store' path)
    (hwalk : store.walk .reading path = .ok (.file place id)) (settings : Settings)
    (content : Text) :
    (writeFile settings path content store).answer =
        (writeFile settings path content store').answer ∧
      ∃ change, Changed store path (writeFile settings path content store).store change ∧
        Changed store' path (writeFile settings path content store').store change := by
  obtain ⟨id', hwalk'⟩ := hshape.exists_walk_eq hwalk
  obtain ⟨_, _, hreaches⟩ := exists_reaches hwalk
  obtain ⟨_, _, hreaches'⟩ := exists_reaches hwalk'
  have hfile : store.fileAt id = store'.fileAt id' :=
    fileAt_eq_of_look (hplain.entryAt_of_walk hwalk) (hplain'.entryAt_of_walk hwalk')
      (hagree place id hwalk)
  have hwritten := hplain.written hreaches settings.method settings.fileMode (Text.encode content)
  have hwritten' := hplain'.written hreaches' settings.method settings.fileMode
    (Text.encode content)
  -- both come to the same bits, or fail for the same reason
  rw [hshape.newMode_eq, hfile] at hwritten
  simp only [answer_writeFile, store_writeFile]
  generalize store.writeBytes settings.method path settings.fileMode (Text.encode content) =
    result at hwritten ⊢
  generalize store'.writeBytes settings.method path settings.fileMode (Text.encode content) =
    result' at hwritten' ⊢
  generalize store'.newMode _ _ _ _ = bits at hwritten hwritten'
  cases hwritten with
  | failed failure =>
    cases hwritten'
    exact ⟨rfl, none, .kept, .kept⟩
  | done h =>
    cases hwritten' with
    | done h' => exact ⟨rfl, _, .rewritten hwalk h, .rewritten hwalk' h'⟩

/-- **An edit depends on the file it is about alone**: it answers alike in two
stores in which that looks the same, and does the same to both. -/
theorem Plain.perform_local (hplain : store.Plain) (hplain' : store'.Plain)
    (hshape : SameShape store store') (hagree : AgreeAt store store' path) (settings : Settings)
    (edit : Edit) :
    ((Step.splice settings path edit).perform store).answer =
        ((Step.splice settings path edit).perform store').answer ∧
      ∃ change, Changed store path ((Step.splice settings path edit).perform store).store change ∧
        Changed store' path ((Step.splice settings path edit).perform store').store change := by
  have hreads : store.readText path = store'.readText path := by
    refine hshape.readText_eq fun place id id' hwalk hwalk' => ?_
    have hfile := fileAt_eq_of_look (hplain.entryAt_of_walk hwalk) (hplain'.entryAt_of_walk hwalk')
      (hagree place id hwalk)
    rw [hfile]
    exact ⟨rfl, rfl⟩
  rcases perform_splice_of_readText_eq hreads settings settings edit with
    ⟨answer, ⟨hanswer, hstore⟩, hanswer', hstore'⟩ |
    ⟨content, new, hread, ⟨hanswer, hstore⟩, hanswer', hstore'⟩
  · rw [hanswer, hanswer', hstore, hstore']
    exact ⟨rfl, none, .kept, .kept⟩
  · obtain ⟨place, id, hwalk⟩ := exists_walk_of_readText hread
    obtain ⟨hsame, hchange⟩ := hplain.writeFile_local hplain' hshape hagree hwalk settings new
    rw [hanswer, hanswer', hstore, hstore', hsame]
    exact ⟨rfl, hchange⟩

end Store

end Graft
