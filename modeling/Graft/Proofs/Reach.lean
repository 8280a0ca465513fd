import Graft.Proofs.Resolution
import Graft.Proofs.Writing

/-!
# Files that a path reaches

`Resolves` says where a path leads, through whichever links; reading asks for
just that (`resolves_iff`), and writing goes no other way. A path that leads to a
file does so in two parts (`exists_reaches`): its names but the last lead to a
directory, and the last leads on from there. Reading
and writing in place go the whole way, replacing the file stops at the entry
the last name stands for (`Reaches.renameTarget_eq`). A file put in place of
that entry, whatever it was, is reached by the very same path
(`Reaches.replace`), for the way to the directory does not pass it.

So each way of writing leaves the path at a file that holds what has been
written (`Reaches.writeBytes`).
-/

namespace Graft

/-- A computation in two parts goes well where both parts do. -/
theorem bind_eq_ok_iff {ε α β : Type} {x : Except ε α} {f : α → Except ε β} {b : β} :
    (x >>= f) = .ok b ↔ ∃ a, x = .ok a ∧ f a = .ok b := by
  cases x with
  | error e =>
    constructor
    · intro h
      cases h
    · rintro ⟨a, h, -⟩
      cases h
  | ok a =>
    constructor
    · intro h
      exact ⟨a, rfl, h⟩
    · rintro ⟨a, h, hf⟩
      cases h
      exact hf

namespace Store

variable {store store' : Store} {path : Path} {dir place tmp : Location} {name : Name}
variable {names : List Name} {id new : FileId} {spot : Spot}

/-! ## Where a path leads -/

/-- Paths start alike in stores with one working directory. -/
theorem startOf_congr (hhome : store'.home = store.home) (path : Path) :
    store'.startOf path = store.startOf path := by
  unfold startOf
  rw [hhome]

/-- The system takes the path, and along its names a walk from where it starts
ends at the spot within its budget of links. -/
structure Resolves (store : Store) (path : Path) (spot : Spot) : Prop where
  check_eq : path.check = .ok ()
  walks : ∃ links ≤ linkBudget,
    Walks store links (store.startOf path) path.names path.endsInSlash spot

/-- Whatever a walk is for, it goes where the path leads. -/
theorem resolves_of_walk {purpose : Purpose} (h : store.walk purpose path = .ok spot) :
    store.Resolves path spot := by
  unfold walk at h
  rw [bind_eq_ok_iff] at h
  obtain ⟨_, hcheck, hwalk⟩ := h
  exact ⟨hcheck, exists_walks_of_walkFrom hwalk⟩

/-- **A path leads where reading finds it.** -/
theorem resolves_iff : store.Resolves path spot ↔ store.walk .reading path = .ok spot := by
  constructor
  · rintro ⟨hcheck, links, hle, hwalks⟩
    unfold walk
    rw [bind_eq_ok_iff]
    exact ⟨(), hcheck, hwalks.walkFrom_eq hle (.inl rfl)⟩
  · intro h
    exact resolves_of_walk h

namespace Resolves

/-- A path leads to the same in a store with the same entries. -/
theorem of_agree (hhome : store'.home = store.home)
    (hsame : ∀ p, store'.entryAt p = store.entryAt p)
    (h : store.Resolves path spot) : store'.Resolves path spot := by
  obtain ⟨links, hle, hwalks⟩ := h.walks
  exact ⟨h.check_eq, links, hle, startOf_congr hhome path ▸ hwalks.of_agree hsame⟩

/-- What the path leads to stands there. -/
theorem found (h : store.Resolves path spot) : Found store spot := by
  obtain ⟨_, _, hwalks⟩ := h.walks
  exact hwalks.found (.startOf store path)

end Resolves

/-! ## The way to a directory -/

/-- Names can be entered where a walk along them ends at a directory. -/
theorem enter_eq_ok_iff :
    store.enter place names = .ok dir ↔
      ∃ links ≤ linkBudget, Walks store links place names false (.directory dir) := by
  unfold enter
  rw [bind_eq_ok_iff]
  constructor
  · -- the dot at the end is met in a directory only
    rintro ⟨spot, hwalk, hspot⟩
    obtain ⟨links, hle, hwalks⟩ := exists_walks_of_walkFrom hwalk
    obtain ⟨first, second, middle, hsum, hfirst, hsecond⟩ := hwalks.split (by simp)
    obtain rfl : spot = .directory middle := hsecond.spot_unique (.here .done)
    obtain rfl : middle = dir := Except.ok.inj hspot
    exact ⟨first, by omega, hfirst⟩
  · rintro ⟨links, hle, hwalks⟩
    have hhere : Walks store links place (names ++ [Path.here]) false (.directory dir) :=
      hwalks.append (by simp) (.here .done)
    exact ⟨_, hhere.walkFrom_eq hle (.inl rfl), rfl⟩

/-- The last name of a path stands for an entry of the directory to which the
names before it lead. -/
theorem lastPlace_eq_ok_iff :
    store.lastPlace path = .ok (some place) ↔
      path.check = .ok () ∧ ∃ dir name,
        store.enter (store.startOf path) path.names.dropLast = .ok dir ∧
        path.names.getLast? = some name ∧ Proper name ∧ place = dir ++ [name] := by
  unfold lastPlace
  rw [bind_eq_ok_iff]
  constructor
  · rintro ⟨⟨⟩, hcheck, h⟩
    obtain ⟨dir, henter, h⟩ := bind_eq_ok_iff.1 h
    split at h
    · cases h
    rename_i name hlast
    split at h
    · cases h
    rename_i hdots
    split at h
    · cases h
    rename_i hlong
    cases h
    obtain ⟨hhere, hup⟩ := not_or.1 hdots
    exact ⟨hcheck, dir, name, henter, hlast, ⟨hhere, hup, Nat.not_lt.1 hlong⟩, rfl⟩
  · rintro ⟨hcheck, dir, name, henter, hlast, hproper, rfl⟩
    refine ⟨(), hcheck, bind_eq_ok_iff.2 ⟨dir, henter, ?_⟩⟩
    simp only [hlast, if_neg (not_or.2 ⟨hproper.ne_here, hproper.ne_up⟩),
      if_neg (Nat.not_lt.2 hproper.short)]

/-- The names before the last are walked to the directory of its entry. -/
theorem exists_walks_of_lastPlace (h : store.lastPlace path = .ok (some place)) :
    path.check = .ok () ∧ ∃ front dir name, path.names = front ++ [name] ∧ Proper name ∧
      place = dir ++ [name] ∧
      ∃ links ≤ linkBudget,
        Walks store links (store.startOf path) front false (.directory dir) := by
  obtain ⟨hcheck, dir, name, henter, hname, proper, rfl⟩ := lastPlace_eq_ok_iff.1 h
  obtain ⟨front, hnames⟩ := List.getLast?_eq_some_iff.1 hname
  rw [hnames, List.dropLast_concat] at henter
  exact ⟨hcheck, front, dir, name, hnames, proper, rfl, enter_eq_ok_iff.1 henter⟩

/-- A rename takes the entry of the last name, unless that is a directory or a
slash asks for one. -/
theorem renameTarget_eq_ok_iff :
    store.renameTarget path = .ok place ↔
      store.lastPlace path = .ok (some place) ∧ path.endsInSlash = false ∧
        store.entryAt place ≠ some .directory := by
  unfold renameTarget
  constructor
  · intro h
    split at h
    · cases h
    obtain ⟨found, hlast, h⟩ := bind_eq_ok_iff.1 h
    cases found with
    | none => cases h
    | some other =>
      simp only at h
      split at h
      · cases h
      rename_i hslash
      split at h
      · cases h
      rename_i hentry
      cases h
      exact ⟨hlast, by simpa using hslash, hentry⟩
  · rintro ⟨hlast, hslash, hentry⟩
    have hnul : ¬ path.bytes.contains 0 = true := by
      intro hnul
      have hcheck := (lastPlace_eq_ok_iff.1 hlast).1
      rw [Path.check, if_pos hnul] at hcheck
      cases hcheck
    rw [if_neg hnul, bind_eq_ok_iff]
    refine ⟨some place, hlast, ?_⟩
    simp only [hslash, if_neg hentry]
    rfl

/-- A temporary file is made in the directory to which the path leads. -/
theorem temporaryPlace_eq_ok_iff :
    store.temporaryPlace path = .ok dir ↔ (store.temporaryPath path).check = .ok () ∧
      ∃ links ≤ linkBudget,
        Walks store links (store.startOf path) path.names false (.directory dir) := by
  unfold temporaryPlace
  rw [bind_eq_ok_iff, ← enter_eq_ok_iff]
  constructor
  · rintro ⟨⟨⟩, h⟩
    exact h
  · intro h
    exact ⟨(), h⟩

/-- The directory of a temporary file stays where it is, whatever becomes of
an entry that leads to no directory. -/
theorem temporaryPlace_of_agree_off {blind : Location} (hhome : store'.home = store.home)
    (hsame : ∀ p, p ≠ blind → store'.entryAt p = store.entryAt p) (hblind : Blind store blind)
    (h : store.temporaryPlace path = .ok dir) : store'.temporaryPlace path = .ok dir := by
  rw [temporaryPlace_eq_ok_iff] at h ⊢
  obtain ⟨hcheck, links, hle, hwalks⟩ := h
  refine ⟨?_, links, hle, startOf_congr hhome path ▸ hwalks.of_agree_off hsame hblind⟩
  rwa [temporaryPath, hhome]

/-! ## The way to a file -/

/-- The path leads to the file `id`: all its names but the last to the
directory at `dir`, and the last, `name`, from there to the entry at `place`,
which is the file's. -/
structure Reaches (store : Store) (path : Path) (dir : Location) (name : Name) (place : Location)
    (id : FileId) : Prop where
  check_eq : path.check = .ok ()
  bare : path.endsInSlash = false
  names_eq : path.names = path.names.dropLast ++ [name]
  proper : Proper name
  /-- The links of both parts together are within the budget of one walk. -/
  walks : ∃ first second, first + second ≤ linkBudget ∧
    Walks store first (store.startOf path) path.names.dropLast false (.directory dir) ∧
    Walks store second dir [name] false (.file place id)

/-- The last name on the way to a file is one that a directory can hold. -/
theorem Walks.proper_of_file {links : Nat}
    (h : Walks store links dir [name] false (.file place id)) : Proper name := by
  cases h with
  | here h => cases h
  | up h => cases h
  | enter proper _ _ => exact proper
  | follow proper _ _ => exact proper
  | file proper _ => exact proper

/-- **Where a path leads to a file, it does so in two parts.** -/
theorem exists_reaches (h : store.walk .reading path = .ok (.file place id)) :
    ∃ dir name, store.Reaches path dir name place id := by
  obtain ⟨hcheck, links, hle, hwalks⟩ := resolves_iff.2 h
  have hbare := hwalks.slash_eq_false
  -- without a name the walk would have ended where it starts
  have hne : path.names ≠ [] := by
    intro hnil
    rw [hnil] at hwalks
    cases hwalks
  have hnames := (List.dropLast_append_getLast hne).symm
  rw [hbare, hnames] at hwalks
  obtain ⟨first, second, dir, hsum, hfirst, hsecond⟩ := hwalks.split (by simp)
  exact ⟨dir, path.names.getLast hne, hcheck, hbare, hnames, hsecond.proper_of_file,
    first, second, by omega, hfirst, hsecond⟩

/-- A path that reads as a text leads to a file. -/
theorem exists_walk_of_readText {content : Text} (h : store.readText path = .ok content) :
    ∃ place id, store.walk .reading path = .ok (.file place id) := by
  unfold readText at h
  obtain ⟨bytes, hread, -⟩ := bind_eq_ok_iff.1 h
  unfold readBytes at hread
  obtain ⟨spot, hwalk, hread⟩ := bind_eq_ok_iff.1 hread
  cases spot with
  | directory place => cases hread
  | vacant place => cases hread
  | file place id => exact ⟨place, id, hwalk⟩

namespace Reaches

/-- Reading and writing go the same way to a file. -/
theorem walk_eq (h : store.Reaches path dir name place id) (purpose : Purpose) :
    store.walk purpose path = .ok (.file place id) := by
  obtain ⟨first, second, hle, hfirst, hsecond⟩ := h.walks
  have hwalks := hfirst.append (by simp) hsecond
  rw [← h.names_eq] at hwalks
  unfold walk
  rw [bind_eq_ok_iff]
  refine ⟨(), h.check_eq, ?_⟩
  rw [h.bare]
  exact hwalks.walkFrom_eq hle (.inr ⟨place, id, rfl⟩)

/-- No directory is reached through the entry the last name stands for. -/
theorem blind (h : store.Reaches path dir name place id) : Blind store (dir ++ [name]) := by
  obtain ⟨-, second, -, -, hsecond⟩ := h.walks
  exact hsecond.blind nofun

/-- The names before the last lead to the directory. -/
theorem enter_eq (h : store.Reaches path dir name place id) :
    store.enter (store.startOf path) path.names.dropLast = .ok dir := by
  obtain ⟨first, second, hle, hfirst, -⟩ := h.walks
  exact enter_eq_ok_iff.2 ⟨first, by omega, hfirst⟩

theorem lastPlace_eq (h : store.Reaches path dir name place id) :
    store.lastPlace path = .ok (some (dir ++ [name])) := by
  have hlast : path.names.getLast? = some name := by
    rw [h.names_eq]
    exact List.getLast?_concat
  exact lastPlace_eq_ok_iff.2 ⟨h.check_eq, dir, name, h.enter_eq, hlast, h.proper, rfl⟩

/-- The entry that a rename to the path would take is the one its last name
stands for. -/
theorem renameTarget_eq (h : store.Reaches path dir name place id) :
    store.renameTarget path = .ok (dir ++ [name]) := by
  have hfile : store.entryAt (dir ++ [name]) ≠ some .directory := fun hentry =>
    h.blind dir name rfl 0 false _ (.enter h.proper hentry .done)
  exact renameTarget_eq_ok_iff.2 ⟨h.lastPlace_eq, h.bare, hfile⟩

/-- A store with the same entries is walked the same way. -/
theorem of_agree (hhome : store'.home = store.home)
    (hsame : ∀ p, store'.entryAt p = store.entryAt p)
    (h : store.Reaches path dir name place id) : store'.Reaches path dir name place id := by
  obtain ⟨first, second, hle, hfirst, hsecond⟩ := h.walks
  exact ⟨h.check_eq, h.bare, h.names_eq, h.proper,
    first, second, hle, startOf_congr hhome path ▸ hfirst.of_agree hsame, hsecond.of_agree hsame⟩

/-- **A file put in place of the entry the last name stands for is reached by
the same path**, though a link may have stood there before. -/
theorem replace (hhome : store'.home = store.home)
    (hsame : ∀ p, p ≠ dir ++ [name] → store'.entryAt p = store.entryAt p)
    (hnew : store'.entryAt (dir ++ [name]) = some (.file new))
    (h : store.Reaches path dir name place id) :
    store'.Reaches path dir name (dir ++ [name]) new := by
  obtain ⟨first, second, hle, hfirst, -⟩ := h.walks
  exact ⟨h.check_eq, h.bare, h.names_eq, h.proper,
    first, 0, by omega, startOf_congr hhome path ▸ hfirst.of_agree_off hsame h.blind,
    .file h.proper hnew⟩

/-! ## Writing on the way -/

/-- Written in place, the file at the end of the path is emptied and filled. -/
theorem writeInPlace_eq (h : store.Reaches path dir name place id)
    (hwritable : (store.fileAt id).mode.isWritable = true) (mode : Nat) (bytes : Bytes) :
    store.writeInPlace path mode bytes =
      (.ok (), store.setFile id ⟨(store.fileAt id).mode.afterWrite, bytes⟩) := by
  rw [Store.writeInPlace_eq, h.walk_eq .writing]
  exact if_pos hwritable

/-- Written atomically, a new file takes the place of the entry the last name
stands for. -/
theorem writeAtomically_eq (h : store.Reaches path dir name place id)
    (htemp : store.temporaryPlace path.directory = .ok tmp) (mode : Nat) (bytes : Bytes) :
    store.writeAtomically path mode bytes =
      (.ok (), (store.addFile (tmp ++ [store.vacantName tmp]) (mode &&& Mode.all) bytes).move
        (tmp ++ [store.vacantName tmp]) (dir ++ [name])) := by
  rw [Store.writeAtomically_eq, htemp, h.renameTarget_eq]

/-- **Either way of writing goes well where the path reaches a file** that may
be written and a temporary file can be made. The path reaches a file
afterwards, which holds what has been written, and a temporary file can be made
as before. The owner may still read and write it, if the bits of a new file
allow that. -/
theorem writeBytes (h : store.Reaches path dir name place id)
    (hwritable : (store.fileAt id).mode.isWritable = true)
    (htemp : store.temporaryPlace path.directory = .ok tmp) (method : Method) (mode : Nat)
    (bytes : Bytes) :
    ∃ after place' id', store.writeBytes method path mode bytes = (.ok (), after) ∧
      after.Reaches path dir name place' id' ∧ (after.fileAt id').bytes = bytes ∧
      after.temporaryPlace path.directory = .ok tmp ∧
      ((method = .atomic → Mode.isOpen mode = true) → (store.fileAt id).mode.isOpen = true →
        (after.fileAt id').mode.isOpen = true) := by
  cases method with
  | inPlace =>
    let after := store.setFile id ⟨(store.fileAt id).mode.afterWrite, bytes⟩
    have hhome : after.home = store.home := home_setFile ..
    have hsame (p : Location) : after.entryAt p = store.entryAt p := entryAt_setFile ..
    have hfile : after.fileAt id = ⟨(store.fileAt id).mode.afterWrite, bytes⟩ :=
      fileAt_setFile_self ..
    refine ⟨after, place, id, h.writeInPlace_eq hwritable mode bytes, h.of_agree hhome hsame, ?_,
      temporaryPlace_of_agree_off hhome (fun p _ => hsame p) h.blind htemp, ?_⟩
    · rw [hfile]
    · intro _ hopen
      rw [hfile, Mode.isOpen_afterWrite, hopen]
  | atomic =>
    have hvacant := store.entryAt_vacantName tmp
    let after := (store.addFile (tmp ++ [store.vacantName tmp]) (mode &&& Mode.all) bytes).move
      (tmp ++ [store.vacantName tmp]) (dir ++ [name])
    -- of the entries only that of the last name is another
    have hentry (p : Location) : after.entryAt p =
        if dir ++ [name] = p then some (.file store.freshId) else store.entryAt p :=
      entryAt_move_addFile hvacant (renameTarget_eq_ok_iff.1 h.renameTarget_eq).2.2 p
    have hfile : after.fileAt store.freshId = ⟨mode &&& Mode.all, bytes⟩ :=
      fileAt_move_addFile hvacant
    have hsame (p : Location) (hp : p ≠ dir ++ [name]) : after.entryAt p = store.entryAt p := by
      rw [hentry, if_neg hp.symm]
    have hhome : after.home = store.home := home_move ..
    refine ⟨after, dir ++ [name], store.freshId, h.writeAtomically_eq htemp mode bytes,
      h.replace hhome hsame ?_, ?_, temporaryPlace_of_agree_off hhome hsame h.blind htemp, ?_⟩
    · rw [hentry, if_pos rfl]
    · rw [hfile]
    · intro hmode _
      rw [hfile, Mode.isOpen_and_all]
      exact hmode rfl

end Reaches

end Store

end Graft
