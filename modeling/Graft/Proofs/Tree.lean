import Graft.Proofs.AllOrNothing
import Graft.Proofs.Effect
import Graft.Proofs.Interleaving

/-!
# What edits keep of a tree

A run of edits makes no entry and drops none. Directories and files stay what
they are, and so do links, but for those on which an atomic edit puts a file. An
edit writes texts to a file that held a text, so bytes that are no text are
safe, and what once is a text remains one (`run_keeps_tree`). Edits in place
keep every link and every hard link besides. Of the permission bits they clear
those that no write leaves (`Mode.afterWrite`), and these only from a file to
which an edit has written: one that finds nothing to do, or is refused, counts
for nothing (`Outcome.HasWritten`).

One edit is one of three changes of the store (`Rewrites`). Each of them keeps
the tree, and what one edit keeps and then another does is kept by both
(`TreeKept.trans`). That the two speak of the same entries is because the last
name of a path stands where it did: an entry that is replaced led to no
directory before, and leads to none after.
-/

namespace Graft

namespace Store

variable {store after last : Store} {path : Path} {place target spot dir : Location} {name : Name}
variable {id : FileId} {mode : Mode} {bytes : Bytes} {links : Nat} {names : List Name}
variable {slash : Bool} {method : Method}

/-! ## Entries -/

/-- The last name on the way to a file stands for the file itself or for a
link. -/
theorem Reaches.entryAt_last (h : store.Reaches path dir name place id) :
    store.entryAt (dir ++ [name]) = some (.file id) ∨
      ∃ target, store.entryAt (dir ++ [name]) = some (.link target) := by
  obtain ⟨-, second, -, -, hsecond⟩ := h.walks
  have hproper := hsecond.proper_of_file
  cases hsecond with
  | here _ => exact absurd rfl hproper.ne_here
  | up _ => exact absurd rfl hproper.ne_up
  | enter _ _ hdone => cases hdone
  | follow _ entry _ => exact .inr ⟨_, entry⟩
  | file _ entry => exact .inl entry

/-! ## The place of a last name -/

/-- The last name of a path stands where it did if the same directories are
entered. -/
theorem lastPlace_congr (hhome : after.home = store.home)
    (henter : ∀ place names dir,
      after.enter place names = .ok dir ↔ store.enter place names = .ok dir) :
    after.lastPlace path = .ok (some place) ↔ store.lastPlace path = .ok (some place) := by
  rw [lastPlace_eq_ok_iff, lastPlace_eq_ok_iff, startOf_congr hhome]
  simp only [henter]

theorem enter_of_agree (hsame : ∀ p, after.entryAt p = store.entryAt p) :
    after.enter place names = .ok dir ↔ store.enter place names = .ok dir := by
  rw [enter_eq_ok_iff, enter_eq_ok_iff]
  constructor
  · rintro ⟨links, hle, hwalks⟩
    exact ⟨links, hle, hwalks.of_agree fun p => (hsame p).symm⟩
  · rintro ⟨links, hle, hwalks⟩
    exact ⟨links, hle, hwalks.of_agree hsame⟩

/-- The same directories are entered, whatever becomes of an entry that led to
no directory and leads to none. -/
theorem enter_of_agree_off (hsame : ∀ p, p ≠ spot → after.entryAt p = store.entryAt p)
    (hblind : Blind store spot) (hblind' : Blind after spot) :
    after.enter place names = .ok dir ↔ store.enter place names = .ok dir := by
  rw [enter_eq_ok_iff, enter_eq_ok_iff]
  constructor
  · rintro ⟨links, hle, hwalks⟩
    exact ⟨links, hle, hwalks.of_agree_off (fun p hp => (hsame p hp).symm) hblind'⟩
  · rintro ⟨links, hle, hwalks⟩
    exact ⟨links, hle, hwalks.of_agree_off hsame hblind⟩

/-! ## One edit -/

/-- A file holds a text. -/
def HoldsText (bytes : Bytes) : Prop :=
  ∃ content, Text.decode? bytes = some content

/-- What an edit may do to the store: nothing, or write a text where the path
leads to one, in the file itself or in place of the entry of the last name. -/
inductive Rewrites (store : Store) (path : Path) : Method → Store → Prop
  | kept (method : Method) : Rewrites store path method store
  | inPlace {dir place : Location} {name : Name} {id : FileId} (content : Text)
      (reaches : store.Reaches path dir name place id)
      (text : HoldsText (store.fileAt id).bytes) :
      Rewrites store path .inPlace
        (store.setFile id ⟨(store.fileAt id).mode.afterWrite, Text.encode content⟩)
  | atomic {dir place spot : Location} {name : Name} {id : FileId} {mode : Mode} (content : Text)
      (reaches : store.Reaches path dir name place id)
      (text : HoldsText (store.fileAt id).bytes) (vacant : store.entryAt spot = none) :
      Rewrites store path .atomic
        ((store.addFile spot mode (Text.encode content)).move spot (dir ++ [name]))

/-- A path that reads as a text leads to a file that holds it. -/
theorem exists_reaches_of_readText {content : Text} (h : store.readText path = .ok content) :
    ∃ dir name place id, store.Reaches path dir name place id ∧
      HoldsText (store.fileAt id).bytes := by
  obtain ⟨place, id, hwalk⟩ := exists_walk_of_readText h
  obtain ⟨dir, name, hreaches⟩ := exists_reaches hwalk
  refine ⟨dir, name, place, id, hreaches, ?_⟩
  unfold readText at h
  obtain ⟨bytes, hread, hdecode⟩ := bind_eq_ok_iff.1 h
  unfold readBytes at hread
  rw [hwalk, bind_eq_ok_iff] at hread
  obtain ⟨stop, hstop, hread⟩ := hread
  cases hstop
  simp only at hread
  split at hread
  · cases hread
    split at hdecode
    · exact ⟨_, ‹_›⟩
    · cases hdecode
  · cases hread

/-- A write of a text to a path that reads as one. -/
theorem rewrites_writeBytes {old : Text} (h : store.readText path = .ok old) (method : Method)
    (mode : Nat) (content : Text) :
    Rewrites store path method (store.writeBytes method path mode (Text.encode content)).2 := by
  obtain ⟨dir, name, place, id, hreaches, htext⟩ := exists_reaches_of_readText h
  cases method with
  | inPlace =>
    rw [Store.writeBytes, Store.writeInPlace_eq, hreaches.walk_eq .writing]
    simp only
    split
    · exact .inPlace content hreaches htext
    · exact .kept _
  | atomic =>
    rw [Store.writeBytes, Store.writeAtomically_eq]
    cases store.temporaryPlace path.directory with
    | error failure => exact .kept _
    | ok tmp =>
      rw [hreaches.renameTarget_eq]
      exact .atomic content hreaches htext (store.entryAt_vacantName tmp)

/-- **An edit rewrites a text or does nothing.** -/
theorem rewrites_perform (task : Task) (store : Store) :
    Rewrites store task.path task.settings.method (task.step.perform store).store := by
  cases hread : store.readText task.path with
  | error failure =>
    rw [Task.step, (perform_splice_of_unreadable task.settings task.edit hread).2]
    exact .kept _
  | ok content =>
    cases hdecide : task.edit.decide content with
    | keep =>
      rw [Task.step, (perform_splice_of_keep task.settings hread hdecide).2]
      exact .kept _
    | refuse error =>
      rw [Task.step, (perform_splice_of_refuse task.settings hread hdecide).2]
      exact .kept _
    | write new =>
      rw [Task.step, (perform_splice_of_write task.settings hread hdecide).2, store_writeFile]
      exact rewrites_writeBytes hread _ _ _

/-! ## Trees -/

/-- What a change keeps of a tree in which it may put files in place of links at
some of the locations. -/
structure TreeKept (store : Store) (replaced : Location → Prop) (after : Store) : Prop where
  /-- No entry is made and none goes. -/
  isSome_eq : ∀ place, (after.look place).isSome = (store.look place).isSome
  directory : ∀ place, store.look place = some .directory → after.look place = some .directory
  /-- A file stays one; a text in it is followed by a text, and bytes that are no
  text by nothing else, and then the bits stay too. -/
  file : ∀ place mode bytes, store.look place = some (.file mode bytes) →
    ∃ mode' bytes', after.look place = some (.file mode' bytes') ∧
      (HoldsText bytes → HoldsText bytes') ∧ (¬ HoldsText bytes → mode' = mode ∧ bytes' = bytes)
  /-- A link stays what it is, or a file with a text is put in its place. -/
  link : ∀ place target, store.look place = some (.link target) →
    after.look place = some (.link target) ∨
      replaced place ∧ ∃ mode bytes, after.look place = some (.file mode bytes) ∧ HoldsText bytes
  /-- The last names of paths stand for the same entries. -/
  lastPlace_iff : ∀ path place,
    after.lastPlace path = .ok (some place) ↔ store.lastPlace path = .ok (some place)

namespace TreeKept

variable {replaced replaced' : Location → Prop}

theorem refl (store : Store) (replaced : Location → Prop) : TreeKept store replaced store where
  isSome_eq _ := rfl
  directory _ h := h
  file _ mode bytes h := ⟨mode, bytes, h, id, fun _ => ⟨rfl, rfl⟩⟩
  link _ _ h := .inl h
  lastPlace_iff _ _ := .rfl

/-- More locations may be replaced. -/
theorem mono (h : TreeKept store replaced after)
    (himp : ∀ place, replaced place → replaced' place) :
    TreeKept store replaced' after where
  isSome_eq := h.isSome_eq
  directory := h.directory
  file := h.file
  link place target hlink := (h.link place target hlink).imp_right fun hfile =>
    ⟨himp place hfile.1, hfile.2⟩
  lastPlace_iff := h.lastPlace_iff

/-- **What two changes keep one after another is kept by both.** -/
theorem trans (h : TreeKept store replaced after) (h' : TreeKept after replaced last) :
    TreeKept store replaced last where
  isSome_eq place := (h'.isSome_eq place).trans (h.isSome_eq place)
  directory place hdir := h'.directory place (h.directory place hdir)
  file place mode bytes hfile := by
    obtain ⟨mode', bytes', hfile', htext, hother⟩ := h.file place mode bytes hfile
    obtain ⟨mode'', bytes'', hfile'', htext', hother'⟩ := h'.file place mode' bytes' hfile'
    refine ⟨mode'', bytes'', hfile'', fun ht => htext' (htext ht), fun hno => ?_⟩
    obtain ⟨rfl, rfl⟩ := hother hno
    exact hother' hno
  link place target hlink := by
    rcases h.link place target hlink with hkept | ⟨hreplaced, mode, bytes, hfile, htext⟩
    · exact h'.link place target hkept
    · obtain ⟨mode', bytes', hfile', htext', -⟩ := h'.file place mode bytes hfile
      exact .inr ⟨hreplaced, mode', bytes', hfile', htext' htext⟩
  lastPlace_iff path place := (h'.lastPlace_iff path place).trans (h.lastPlace_iff path place)

end TreeKept

/-- Written texts are texts. -/
theorem holdsText_encode (content : Text) : HoldsText (Text.encode content) :=
  ⟨content, Text.decode?_eq_some_iff.2 rfl⟩

/-- Writing a text into a file that holds one keeps the tree. -/
theorem treeKept_setFile {replaced : Location → Prop} (htext : HoldsText (store.fileAt id).bytes)
    (mode : Mode) (content : Text) :
    TreeKept store replaced (store.setFile id ⟨mode, Text.encode content⟩) where
  isSome_eq place := by rw [isSome_look, isSome_look, entryAt_setFile]
  directory place h := by
    rw [look_eq_directory_iff] at h ⊢
    rwa [entryAt_setFile]
  file place former bytes h := by
    obtain ⟨other, hentry, hfile⟩ := look_eq_file_iff.1 h
    by_cases hsame : id = other
    · subst hsame
      refine ⟨mode, Text.encode content, look_eq_file_iff.2 ⟨id, hentry, fileAt_setFile_self ..⟩,
        fun _ => holdsText_encode content, fun hno => absurd ?_ hno⟩
      rwa [hfile] at htext
    · refine ⟨former, bytes, look_eq_file_iff.2 ⟨other, hentry, ?_⟩, fun h => h,
        fun _ => ⟨rfl, rfl⟩⟩
      rw [fileAt_setFile, if_neg hsame, hfile]
  link place target h := by
    rw [look_eq_link_iff] at h
    exact .inl (look_eq_link_iff.2 h)
  lastPlace_iff path place :=
    lastPlace_congr (home_setFile ..) fun _ _ _ => enter_of_agree fun _ => entryAt_setFile ..

/-- Putting a text in place of the entry of a last name keeps the tree but for
that entry. -/
theorem Reaches.treeKept_of_placed {content : Text} (h : store.Reaches path dir name place id)
    (htext : HoldsText (store.fileAt id).bytes)
    (hplaced : Placed store after (dir ++ [name]) mode (Text.encode content)) :
    TreeKept store (fun place => place = dir ++ [name]) after where
  isSome_eq p := by
    by_cases hp : p = dir ++ [name]
    · subst hp
      rw [hplaced.look_place, isSome_look]
      rcases h.entryAt_last with hlast | ⟨target, hlast⟩ <;> rw [hlast]
      · rfl
      · rfl
    · rw [hplaced.look_eq p hp]
  directory p hdir := by
    have hp : p ≠ dir ++ [name] := by
      rintro rfl
      rw [look_eq_directory_iff] at hdir
      rcases h.entryAt_last with hlast | ⟨target, hlast⟩ <;> rw [hlast] at hdir <;> cases hdir
    rw [hplaced.look_eq p hp, hdir]
  file p former bytes hfile := by
    by_cases hp : p = dir ++ [name]
    · -- the entry of the file itself
      subst hp
      obtain ⟨other, hother, hbytes⟩ := look_eq_file_iff.1 hfile
      refine ⟨mode, Text.encode content, hplaced.look_place, fun _ => holdsText_encode content,
        fun hno => absurd ?_ hno⟩
      rcases h.entryAt_last with hlast | ⟨target, hlast⟩ <;> rw [hlast] at hother <;> cases hother
      rwa [hbytes] at htext
    · exact ⟨former, bytes, (hplaced.look_eq p hp).trans hfile, fun h => h, fun _ => ⟨rfl, rfl⟩⟩
  link p target hlink := by
    by_cases hp : p = dir ++ [name]
    · subst hp
      exact .inr ⟨rfl, mode, _, hplaced.look_place, holdsText_encode content⟩
    · exact .inl ((hplaced.look_eq p hp).trans hlink)
  lastPlace_iff _ _ := by
    obtain ⟨new, hnew, -⟩ := look_eq_file_iff.1 hplaced.look_place
    have hafter := h.replace hplaced.home_eq hplaced.entryAt_eq hnew
    exact lastPlace_congr hplaced.home_eq fun _ _ _ =>
      enter_of_agree_off hplaced.entryAt_eq h.blind hafter.blind

/-- **One edit keeps the tree**, and replaces nothing but the entry of the
path's last name, if it is to be atomic. -/
theorem Rewrites.treeKept (h : Rewrites store path method after) :
    TreeKept store (fun place => method = .atomic ∧ store.lastPlace path = .ok (some place))
      after := by
  cases h with
  | kept _ => exact .refl store _
  | inPlace content reaches text => exact treeKept_setFile text _ content
  | atomic content reaches text vacant =>
    have htarget := (renameTarget_eq_ok_iff.1 reaches.renameTarget_eq).2.2
    refine (reaches.treeKept_of_placed text (placed_move_addFile vacant htarget _ _)).mono ?_
    rintro place rfl
    exact ⟨rfl, reaches.lastPlace_eq⟩

/-! ## Edits in place -/

/-- The path leads to the file that the entry at a location names. -/
def LeadsTo (store : Store) (path : Path) (place : Location) : Prop :=
  ∃ spot id, store.walk .reading path = .ok (.file spot id) ∧ store.entryAt place = some (.file id)

/-- What a change keeps of a tree in which it may write to the files at some of
the locations. -/
structure EntriesKept (store : Store) (written : Location → Prop) (after : Store) : Prop where
  home_eq : after.home = store.home
  entryAt_eq : ∀ place, after.entryAt place = store.entryAt place
  /-- A file keeps its bits, but for those no write leaves. -/
  mode : ∀ place id, store.entryAt place = some (.file id) →
    (after.fileAt id).mode = (store.fileAt id).mode ∨
      written place ∧ (after.fileAt id).mode = (store.fileAt id).mode.afterWrite

namespace EntriesKept

variable {written written' : Location → Prop}

theorem refl (store : Store) (written : Location → Prop) : EntriesKept store written store where
  home_eq := rfl
  entryAt_eq _ := rfl
  mode _ _ _ := .inl rfl

theorem mono (h : EntriesKept store written after)
    (himp : ∀ place, written place → written' place) :
    EntriesKept store written' after where
  home_eq := h.home_eq
  entryAt_eq := h.entryAt_eq
  mode place id hentry := (h.mode place id hentry).imp_right fun hmode =>
    ⟨himp place hmode.1, hmode.2⟩

/-- A second write clears no more bits. -/
theorem trans (h : EntriesKept store written after) (h' : EntriesKept after written last) :
    EntriesKept store written last where
  home_eq := h'.home_eq.trans h.home_eq
  entryAt_eq place := (h'.entryAt_eq place).trans (h.entryAt_eq place)
  mode place id hentry := by
    have hentry' : after.entryAt place = some (.file id) := (h.entryAt_eq place).trans hentry
    rcases h.mode place id hentry with hmode | ⟨hwritten, hmode⟩ <;>
      rcases h'.mode place id hentry' with hmode' | ⟨hwritten', hmode'⟩ <;> rw [hmode] at hmode'
    · exact .inl hmode'
    · exact .inr ⟨hwritten', hmode'⟩
    · exact .inr ⟨hwritten, hmode'⟩
    · rw [Mode.afterWrite_afterWrite] at hmode'
      exact .inr ⟨hwritten, hmode'⟩

/-- Paths lead to the same files. -/
theorem leadsTo (h : EntriesKept store written after) (hlead : after.LeadsTo path place) :
    store.LeadsTo path place := by
  obtain ⟨spot, id, hwalk, hentry⟩ := hlead
  obtain ⟨dir, name, hreaches⟩ := exists_reaches hwalk
  have hreaches' := hreaches.of_agree h.home_eq.symm fun p => (h.entryAt_eq p).symm
  exact ⟨spot, id, hreaches'.walk_eq .reading, (h.entryAt_eq place).symm.trans hentry⟩

theorem shareFile_iff (h : EntriesKept store written after) (a b : Location) :
    after.shareFile a b ↔ store.shareFile a b := by
  unfold shareFile
  rw [h.entryAt_eq, h.entryAt_eq]

end EntriesKept

/-- An edit in place keeps the entries, and writes to no file but that to which
the path leads. -/
theorem Rewrites.entriesKept (h : Rewrites store path .inPlace after) :
    EntriesKept store (store.LeadsTo path) after := by
  cases h with
  | kept => exact .refl store _
  | @inPlace dir spot name id content reaches text =>
    refine ⟨home_setFile .., fun _ => entryAt_setFile .., fun place other hentry => ?_⟩
    rw [fileAt_setFile]
    split
    · rename_i hsame
      subst hsame
      exact .inr ⟨⟨spot, id, reaches.walk_eq .reading, hentry⟩, rfl⟩
    · exact .inl rfl

end Store

/-! ## Runs of edits -/

variable {store : Store} {task : Task} {outcome : Outcome Answer}
variable {earlier later done : List (Task × Outcome Answer)}

/-- The step went well and wrote to a file. -/
def Outcome.HasWritten (outcome : Outcome Answer) : Prop :=
  outcome.answer = .ok .done ∧ ∃ method path bytes, .writing method path bytes ∈ outcome.events

/-- **An edit writes or leaves the store alone.** -/
theorem hasWritten_or_store_eq (task : Task) (store : Store) :
    (task.step.perform store).HasWritten ∨ (task.step.perform store).store = store := by
  unfold Task.step
  cases hread : store.readText task.path with
  | error failure =>
    exact .inr (perform_splice_of_unreadable task.settings task.edit hread).2
  | ok content =>
    cases hdecide : task.edit.decide content with
    | keep => exact .inr (perform_splice_of_keep task.settings hread hdecide).2
    | refuse error => exact .inr (perform_splice_of_refuse task.settings hread hdecide).2
    | write new =>
      obtain ⟨hanswer, hstore⟩ := perform_splice_of_write task.settings hread hdecide
      cases hwrite : (writeFile task.settings task.path new store).answer with
      | error error => exact .inr (hstore.trans (writeFile_of_error hwrite))
      | ok _ =>
        rw [hwrite] at hanswer
        refine .inl ⟨hanswer, task.settings.method, task.path, Text.byteLength new, ?_⟩
        rw [events_splice_of_write task.settings hread hdecide]
        simp

/-- One of the tasks done was an atomic edit that has written, and whose path has
its last name at the location. -/
def ReplacedBy (store : Store) (done : List (Task × Outcome Answer)) (place : Location) : Prop :=
  ∃ pair ∈ done, pair.1.settings.atomicWrites = true ∧ pair.2.HasWritten ∧
    store.lastPlace pair.1.path = .ok (some place)

/-- One of the tasks done was an edit that has written, and whose path leads to the
file at the location. -/
def WrittenBy (store : Store) (done : List (Task × Outcome Answer)) (place : Location) : Prop :=
  ∃ pair ∈ done, pair.2.HasWritten ∧ store.LeadsTo pair.1.path place

/-- What one task keeps. -/
theorem treeKept_perform (task : Task) (store : Store) :
    Store.TreeKept store (ReplacedBy store [(task, task.step.perform store)])
      (task.step.perform store).store := by
  rcases hasWritten_or_store_eq task store with hwritten | hsame
  · refine (Store.rewrites_perform task store).treeKept.mono ?_
    rintro place ⟨hatomic, hplace⟩
    exact ⟨_, List.mem_singleton_self _, Settings.method_eq_atomic_iff.1 hatomic, hwritten, hplace⟩
  · rw [hsame]
    exact .refl store _

theorem entriesKept_perform (hplace : task.settings.atomicWrites = false) (store : Store) :
    Store.EntriesKept store (WrittenBy store [(task, task.step.perform store)])
      (task.step.perform store).store := by
  rcases hasWritten_or_store_eq task store with hwritten | hsame
  · have hrewrites := Store.rewrites_perform task store
    rw [Settings.method_eq_inPlace hplace] at hrewrites
    exact hrewrites.entriesKept.mono fun place hlead =>
      ⟨_, List.mem_singleton_self _, hwritten, hlead⟩
  · rw [hsame]
    exact .refl store _

theorem ReplacedBy.mono {done' : List (Task × Outcome Answer)} {place : Location}
    (hsub : done ⊆ done') (h : ReplacedBy store done place) : ReplacedBy store done' place := by
  obtain ⟨pair, hpair, hreplaced⟩ := h
  exact ⟨pair, hsub hpair, hreplaced⟩

theorem WrittenBy.mono {done' : List (Task × Outcome Answer)} {place : Location}
    (hsub : done ⊆ done') (h : WrittenBy store done place) : WrittenBy store done' place := by
  obtain ⟨pair, hpair, hwritten⟩ := h
  exact ⟨pair, hsub hpair, hwritten⟩

/-- The tasks of a run with their outcomes begin with the first task. -/
theorem zip_run_cons (first : Task) (rest : List Task) (store : Store) :
    (first :: rest).zip (run ((first :: rest).map Task.step) store) =
      (first, first.step.perform store) ::
        rest.zip (run (rest.map Task.step) (first.step.perform store).store) := rfl

/-- What the tasks up to one of them keep. -/
theorem kept_of_zip_run {tasks : List Task}
    (h : tasks.zip (run (tasks.map Task.step) store) = earlier ++ (task, outcome) :: later) :
    Store.TreeKept store (ReplacedBy store (earlier ++ [(task, outcome)])) outcome.store ∧
      ((∀ pair ∈ earlier ++ [(task, outcome)], pair.1.settings.atomicWrites = false) →
        Store.EntriesKept store (WrittenBy store (earlier ++ [(task, outcome)]))
          outcome.store) := by
  induction earlier generalizing store tasks with
  | nil =>
    cases tasks with
    | nil => cases h
    | cons first rest =>
      rw [zip_run_cons, List.nil_append] at h
      obtain ⟨hpair, -⟩ := List.cons.inj h
      cases hpair
      exact ⟨treeKept_perform task store, fun hplace =>
        entriesKept_perform (hplace _ (List.mem_singleton_self _)) store⟩
  | cons pair earlier ih =>
    cases tasks with
    | nil => cases h
    | cons first rest =>
      rw [zip_run_cons, List.cons_append] at h
      obtain ⟨rfl, hrest⟩ := List.cons.inj h
      obtain ⟨htree, hentries⟩ := ih hrest
      -- what the first task keeps is all in the list of all tasks
      have hfirst := treeKept_perform first store
      have hsub : [(first, first.step.perform store)] ⊆
          (first, first.step.perform store) :: (earlier ++ [(task, outcome)]) := by simp
      have hsub' : earlier ++ [(task, outcome)] ⊆
          (first, first.step.perform store) :: (earlier ++ [(task, outcome)]) :=
        List.subset_cons_self ..
      refine ⟨(hfirst.mono fun place => ReplacedBy.mono hsub).trans (htree.mono fun place h => ?_),
        fun hplace => ?_⟩
      · obtain ⟨pair, hpair, hatomic, hwritten, hlast⟩ := h
        exact ⟨pair, hsub' hpair, hatomic, hwritten, (hfirst.lastPlace_iff _ _).1 hlast⟩
      · rw [List.cons_append, List.forall_mem_cons] at hplace
        have hfirst := entriesKept_perform hplace.1 store
        refine (hfirst.mono fun place => WrittenBy.mono hsub).trans
          ((hentries hplace.2).mono fun place h => ?_)
        obtain ⟨pair, hpair, hwritten, hlead⟩ := h
        exact ⟨pair, hsub' hpair, hwritten, hfirst.leadsTo hlead⟩

/-- **What a run of edits keeps of a tree**, after each of them. No entry is made
and none goes; directories stay directories and files stay files; a link stays
what it is unless an atomic edit has put a file in its place; what holds a text
goes on holding one, and a file that holds none keeps its bytes and bits. If all
the edits were made in place, every link is as it was and the same entries share
a file, and the bits of a file are as they were, but for the set-id bits that a
write clears, if an edit has written to the file. -/
theorem run_keeps_tree (tasks : List Task) (store : Store)
    (h : tasks.zip (run (tasks.map Task.step) store) = earlier ++ (task, outcome) :: later) :
    let done := earlier ++ [(task, outcome)]
    Store.TreeKept store (ReplacedBy store done) outcome.store ∧
      ((∀ pair ∈ done, pair.1.settings.atomicWrites = false) →
        (∀ place target, store.look place = some (.link target) →
          outcome.store.look place = some (.link target)) ∧
        (∀ a b, outcome.store.shareFile a b ↔ store.shareFile a b) ∧
        ∀ place mode bytes, store.look place = some (.file mode bytes) →
          ∃ mode' bytes', outcome.store.look place = some (.file mode' bytes') ∧
            (mode' = mode ∨ WrittenBy store done place ∧ mode' = mode.afterWrite)) := by
  intro done
  obtain ⟨htree, hentries⟩ := kept_of_zip_run h
  refine ⟨htree, fun hplace => ?_⟩
  have hkept := hentries hplace
  refine ⟨fun place target hlink => ?_, hkept.shareFile_iff, fun place mode bytes hfile => ?_⟩
  · rw [Store.look_eq_link_iff] at hlink ⊢
    rw [hkept.entryAt_eq, hlink]
  · obtain ⟨id, hentry, hid⟩ := Store.look_eq_file_iff.1 hfile
    have hmode := hkept.mode place id hentry
    rw [hid] at hmode
    exact ⟨_, _, Store.look_of_file ((hkept.entryAt_eq place).trans hentry), hmode⟩

/-- An edit in place, an atomic one on a link with an absolute target, and one of
bytes that are no text. -/
theorem run_keeps_tree_of_three :
    let store : Store := ⟨[[0x77]], [([[0x66]], .file 0), ([[0x67]], .file 0),
      ([[0x77], [0x6c]], .link (.ofText "/f".toList)), ([[0x77], [0x62]], .file 1)],
      [(0, ⟨0o4755, [0x61]⟩), (1, ⟨0o644, [0xff]⟩)]⟩
    let a : Task := ⟨{}, .ofText "l".toList, .insert "a".toList "b".toList⟩
    let b : Task := ⟨{ atomicWrites := true, fileMode := 0o600 }, .ofText "../w/l".toList,
      .insert "b".toList "c".toList⟩
    let c : Task := ⟨{}, .ofText "b".toList, .fillWebhook⟩
    let first := a.step.perform store
    let second := b.step.perform first.store
    let third := c.step.perform second.store
    [a, b, c].zip (run ([a, b, c].map Task.step) store) =
        [(a, first), (b, second)] ++ [(c, third)] ∧
      first.store.look [[0x67]] = some (.file 0o755 [0x61, 0x62]) ∧
      third.store.look [[0x77], [0x6c]] = some (.file 0o600 [0x61, 0x62, 0x63]) ∧
      third.answer = .error (.io .notText (some (.ofText "b".toList))) ∧
      Store.TreeKept store (ReplacedBy store [(a, first), (b, second), (c, third)]) third.store ∧
      ∀ p q, first.store.shareFile p q ↔ store.shareFile p q := by
  intro store a b c first second third
  have hrun : [a, b, c].zip (run ([a, b, c].map Task.step) store) =
      [(a, first), (b, second)] ++ [(c, third)] := rfl
  have hfirst : [a, b, c].zip (run ([a, b, c].map Task.step) store) =
      [] ++ (a, first) :: [(b, second), (c, third)] := rfl
  have hplace : ∀ pair ∈ ([] : List (Task × Outcome Answer)) ++ [(a, first)],
      pair.1.settings.atomicWrites = false := by
    rw [List.nil_append, List.forall_mem_singleton]
  exact ⟨hrun, by decide +kernel, by decide +kernel, by decide +kernel,
    (run_keeps_tree [a, b, c] store hrun).1,
    ((run_keeps_tree [a, b, c] store hfirst).2 hplace).2.1⟩

/-- **Edits in place do not keep every bit**: a write clears the set-id bit of
the owner. -/
theorem not_run_keeps_mode :
    ¬ ∀ (tasks : List Task) (store : Store) (earlier later : List (Task × Outcome Answer))
        (task : Task) (outcome : Outcome Answer),
      tasks.zip (run (tasks.map Task.step) store) = earlier ++ (task, outcome) :: later →
        (∀ pair ∈ earlier ++ [(task, outcome)], pair.1.settings.atomicWrites = false) →
          ∀ place mode bytes, store.look place = some (.file mode bytes) →
            ∃ bytes', outcome.store.look place = some (.file mode bytes') := by
  intro h
  let store : Store := ⟨[], [([[0x66]], .file 0)], [(0, ⟨0o4755, [0x61]⟩)]⟩
  let task : Task := ⟨{}, .ofText "f".toList, .insert "a".toList "b".toList⟩
  have hplace : ∀ pair ∈ ([] : List (Task × Outcome Answer)) ++ [(task, task.step.perform store)],
      pair.1.settings.atomicWrites = false := by
    rw [List.nil_append, List.forall_mem_singleton]
  obtain ⟨bytes, hlook⟩ := h [task] store [] [] task (task.step.perform store) rfl hplace
    [[0x66]] 0o4755 [0x61] (by decide +kernel)
  have hcleared : (task.step.perform store).store.look [[0x66]] =
      some (.file 0o755 [0x61, 0x62]) := by decide +kernel
  rw [hcleared] at hlook
  cases hlook

end Graft
