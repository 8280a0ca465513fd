import Graft.Proofs.Reach

/-!
# Stores of one shape

Two stores have one shape if one works in the same directory in both, and at
every location both have a directory, or both a link to the same path, or both
a file, or neither anything. Which file it is and what it holds may differ. A
walk asks for no more than the shape (`walkFrom_sameEnd`), so paths lead to the
same places in both stores, and a temporary file can be made in the one where
it can in the other (`SameShape.temporaryPlace_eq`). What a path reads as
depends besides on the one file at its end (`SameShape.readText_eq`).

Stores have the same contents if all that is seen of them is the same but for
the permission bits. Then they have one shape (`SameContents.sameShape`).
-/

namespace Graft

/-- Entries of one kind, that may differ in the file they name. -/
inductive Entry.SameKind : Entry → Entry → Prop
  | directory : SameKind .directory .directory
  | file (id id' : FileId) : SameKind (.file id) (.file id')
  | link (target : Path) : SameKind (.link target) (.link target)

theorem Entry.SameKind.refl (entry : Entry) : entry.SameKind entry := by
  cases entry with
  | directory => exact .directory
  | file id => exact .file id id
  | link target => exact .link target

theorem Entry.SameKind.symm {entry entry' : Entry} (h : entry.SameKind entry') :
    entry'.SameKind entry := by
  cases h with
  | directory => exact .directory
  | file id id' => exact .file id' id
  | link target => exact .link target

namespace Store

variable {store store' : Store} {purpose : Purpose} {path : Path} {place : Location}
variable {names : List Name} {slash : Bool} {id : FileId}

/-- The stores have one working directory, and entries of one kind at each
location. -/
structure SameShape (store store' : Store) : Prop where
  home_eq : store'.home = store.home
  entryAt_rel : ∀ place, Option.Rel Entry.SameKind (store.entryAt place) (store'.entryAt place)

theorem SameShape.symm (h : SameShape store store') : SameShape store' store := by
  refine ⟨h.home_eq.symm, fun place => ?_⟩
  have hplace := h.entryAt_rel place
  generalize store.entryAt place = entry at hplace ⊢
  generalize store'.entryAt place = entry' at hplace ⊢
  cases hplace with
  | none => exact .none
  | some hkind => exact .some hkind.symm

/-- Two walks that come to the same: the same failure, or spots at one place
that may differ in the file. -/
inductive SameEnd : Except Failure Spot → Except Failure Spot → Prop
  | error (failure : Failure) : SameEnd (.error failure) (.error failure)
  | directory (place : Location) : SameEnd (.ok (.directory place)) (.ok (.directory place))
  | file (place : Location) (id id' : FileId) :
      SameEnd (.ok (.file place id)) (.ok (.file place id'))
  | vacant (place : Location) : SameEnd (.ok (.vacant place)) (.ok (.vacant place))

/-! ## Walks -/

/-- Up to the first link the names are taken alike. -/
theorem takeNames_sameEnd (hshape : SameShape store store')
    {follow follow' : Location → List Name → Bool → Except Failure Spot}
    (hfollow : ∀ place names slash, SameEnd (follow place names slash) (follow' place names slash))
    (place : Location) (names : List Name) (slash : Bool) :
    SameEnd (store.takeNames purpose follow place names slash)
      (store'.takeNames purpose follow' place names slash) := by
  induction names generalizing place with
  | nil => exact .directory place
  | cons name rest ih =>
    unfold takeNames
    by_cases hhere : name = Path.here
    · rw [if_pos hhere, if_pos hhere]
      exact ih place
    by_cases hup : name = Path.up
    · simp only [if_neg hhere, if_pos hup]
      exact ih place.dropLast
    by_cases hslash : (rest.isEmpty && slash && purpose = .writing) = true
    · simp only [if_neg hhere, if_neg hup, if_pos hslash]
      exact .error _
    by_cases hlong : maxNameLength < name.length
    · simp only [if_neg hhere, if_neg hup, if_neg hslash, if_pos hlong]
      exact .error _
    simp only [if_neg hhere, if_neg hup, if_neg hslash, if_neg hlong]
    have hentry := hshape.entryAt_rel (place ++ [name])
    generalize store.entryAt (place ++ [name]) = entry at hentry ⊢
    generalize store'.entryAt (place ++ [name]) = entry' at hentry ⊢
    cases hentry with
    | none =>
      simp only
      split
      · exact .vacant _
      · exact .error _
    | some hkind =>
      cases hkind with
      | directory => exact ih _
      | file id id' =>
        simp only
        split
        · exact .file _ id id'
        · exact .error _
      | link target => exact hfollow _ _ _

/-- **Walks in stores of one shape come to the same.** -/
theorem walkFrom_sameEnd (hshape : SameShape store store') (budget : Nat) (place : Location)
    (names : List Name) (slash : Bool) :
    SameEnd (store.walkFrom purpose budget place names slash)
      (store'.walkFrom purpose budget place names slash) := by
  induction budget generalizing place names slash with
  | zero => exact takeNames_sameEnd hshape (fun _ _ _ => .error _) place names slash
  | succ budget ih => exact takeNames_sameEnd hshape ih place names slash

/-- Paths come to the same in stores of one shape. -/
theorem walk_sameEnd (hshape : SameShape store store') (purpose : Purpose) (path : Path) :
    SameEnd (store.walk purpose path) (store'.walk purpose path) := by
  unfold walk
  cases path.check with
  | error failure => exact .error failure
  | ok _ =>
    rw [startOf_congr hshape.home_eq]
    exact walkFrom_sameEnd hshape ..

/-- A path that leads to a file leads to one at the same location. -/
theorem SameShape.exists_walk_eq (hshape : SameShape store store')
    (h : store.walk purpose path = .ok (.file place id)) :
    ∃ id', store'.walk purpose path = .ok (.file place id') := by
  have hend := walk_sameEnd hshape purpose path
  rw [h] at hend
  generalize store'.walk purpose path = result at hend
  cases hend with
  | file _ _ id' => exact ⟨id', rfl⟩

/-! ## Directories -/

theorem SameShape.enter_eq (hshape : SameShape store store') (place : Location)
    (names : List Name) : store.enter place names = store'.enter place names := by
  unfold enter
  have hend : SameEnd (store.walkFrom .reading linkBudget place (names ++ [Path.here]) false)
      (store'.walkFrom .reading linkBudget place (names ++ [Path.here]) false) :=
    walkFrom_sameEnd hshape ..
  generalize store.walkFrom .reading linkBudget place (names ++ [Path.here]) false = result
    at hend ⊢
  generalize store'.walkFrom .reading linkBudget place (names ++ [Path.here]) false = result'
    at hend ⊢
  cases hend <;> rfl

theorem SameShape.temporaryPath_eq (hshape : SameShape store store') (directory : Path) :
    store.temporaryPath directory = store'.temporaryPath directory := by
  rw [temporaryPath, temporaryPath, hshape.home_eq]

/-- Temporary files are made in the same directories. -/
theorem SameShape.temporaryPlace_eq (hshape : SameShape store store') (directory : Path) :
    store.temporaryPlace directory = store'.temporaryPlace directory := by
  unfold temporaryPlace
  rw [hshape.temporaryPath_eq, startOf_congr hshape.home_eq, hshape.enter_eq]

/-! ## Reading -/

/-- **Where the files at the end of a path can both be read and hold the same
bytes, the path reads alike**; and so it does where it leads to no file. -/
theorem SameShape.readText_eq (hshape : SameShape store store')
    (hfile : ∀ place id id', store.walk .reading path = .ok (.file place id) →
      store'.walk .reading path = .ok (.file place id') →
        (store.fileAt id).mode.isReadable = (store'.fileAt id').mode.isReadable ∧
          (store.fileAt id).bytes = (store'.fileAt id').bytes) :
    store.readText path = store'.readText path := by
  have hbytes : store.readBytes path = store'.readBytes path := by
    unfold readBytes
    have hend := walk_sameEnd hshape .reading path
    generalize store.walk .reading path = result at hend hfile ⊢
    generalize store'.walk .reading path = result' at hend hfile ⊢
    cases hend with
    | error failure => rfl
    | directory place => rfl
    | vacant place => rfl
    | file place id id' =>
      obtain ⟨hreadable, hbytes⟩ := hfile place id id' rfl rfl
      simp only [bind, Except.bind, hreadable, hbytes]
  unfold readText
  rw [hbytes]

end Store

/-! ## Contents -/

/-- What is seen, but for the permission bits. -/
def Sight.withoutMode : Sight → Sight
  | .file _ bytes => .file 0 bytes
  | .directory => .directory
  | .link target => .link target

namespace Store

variable {store store' : Store}

/-- One works in the same directory, and the same directories, links and files
with the same bytes stand at the same locations. -/
structure SameContents (store store' : Store) : Prop where
  home_eq : store'.home = store.home
  look_eq : ∀ place,
    (store.look place).map Sight.withoutMode = (store'.look place).map Sight.withoutMode

theorem SameContents.sameShape (h : SameContents store store') : SameShape store store' := by
  refine ⟨h.home_eq, fun place => ?_⟩
  have hplace := h.look_eq place
  unfold look at hplace
  rcases hs : store.entryAt place with _ | _ | id | target <;>
    rcases hs' : store'.entryAt place with _ | _ | id' | target' <;>
      rw [hs, hs'] at hplace <;> simp [Sight.withoutMode] at hplace
  · exact .none
  · exact .some .directory
  · exact .some (.file id id')
  · obtain rfl := hplace
    exact .some (.link target)

theorem SameContents.refl (store : Store) : SameContents store store where
  home_eq := rfl
  look_eq _ := rfl

/-- The same is seen in both stores, and from the same directory. -/
structure SeenAlike (store store' : Store) : Prop where
  home_eq : store'.home = store.home
  look_eq : ∀ place, store.look place = store'.look place

/-- Stores in which the same is seen have the same contents. -/
theorem SeenAlike.sameContents (h : SeenAlike store store') : SameContents store store' :=
  ⟨h.home_eq, fun place => congrArg _ (h.look_eq place)⟩

end Store

end Graft
