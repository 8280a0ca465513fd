import Graft.Store.Walk

/-!
# How a path resolves

`Walks` is a walk without its budget: one rule for each thing a name can
stand for, and a count of the links followed. A walk within a budget goes
well exactly where there is such a derivation within it
(`exists_walks_of_walkFrom`, `Walks.walkFrom_eq`), so a walk ends in one
spot only (`Walks.spot_unique`), and it can be cut at any name
(`Walks.split`) and put together again (`Walks.append`). Wherever it stands on
its way there are only directories above (`Grounded`), so two dots lead to one
too, and what a walk ends at stands there (`Walks.found`).

A walk looks at entries and nothing else (`Walks.of_agree`), and only at those
it meets on its way (`Meets`, `Walks.of_not_meets`). One that ends at a directory
meets only entries through which some directory is reached, so what becomes of
the others does not matter to it (`Walks.of_agree_off`).
-/

namespace Graft

namespace Store

variable {store store' : Store} {purpose : Purpose} {budget links : Nat}
variable {place dir : Location} {name : Name} {names rest front : List Name} {slash : Bool}
variable {spot : Spot} {id : FileId}

/-! ## Walks without a budget -/

/-- A name that a directory can hold. -/
structure Proper (name : Name) : Prop where
  ne_here : name ≠ Path.here
  ne_up : name ≠ Path.up
  short : name.length ≤ maxNameLength

/-- The slash that stands after a link's own names: that of the link, where
these are the last, and that of its target. -/
def slashAfter (slash : Bool) (rest : List Name) (target : Path) : Bool :=
  if rest.isEmpty then slash || target.endsInSlash else slash

/-- A walk for reading that goes well, with the number of links it follows. -/
inductive Walks (store : Store) : Nat → Location → List Name → Bool → Spot → Prop
  /-- No name is left. -/
  | done {place : Location} {slash : Bool} : Walks store 0 place [] slash (.directory place)
  /-- A dot stays where it is. -/
  | here {links : Nat} {place : Location} {rest : List Name} {slash : Bool} {spot : Spot}
      (h : Walks store links place rest slash spot) :
      Walks store links place (Path.here :: rest) slash spot
  /-- Two dots go to the directory above. -/
  | up {links : Nat} {place : Location} {rest : List Name} {slash : Bool} {spot : Spot}
      (h : Walks store links place.dropLast rest slash spot) :
      Walks store links place (Path.up :: rest) slash spot
  /-- A directory is entered. -/
  | enter {links : Nat} {place : Location} {name : Name} {rest : List Name} {slash : Bool}
      {spot : Spot} (proper : Proper name)
      (entry : store.entryAt (place ++ [name]) = some .directory)
      (h : Walks store links (place ++ [name]) rest slash spot) :
      Walks store links place (name :: rest) slash spot
  /-- A link is followed. -/
  | follow {links : Nat} {place : Location} {name : Name} {rest : List Name} {slash : Bool}
      {spot : Spot} {target : Path} (proper : Proper name)
      (entry : store.entryAt (place ++ [name]) = some (.link target))
      (h : Walks store links (target.start place) (target.names ++ rest)
        (slashAfter slash rest target) spot) :
      Walks store (links + 1) place (name :: rest) slash spot
  /-- The last name is a file's. -/
  | file {place : Location} {name : Name} {id : FileId} (proper : Proper name)
      (entry : store.entryAt (place ++ [name]) = some (.file id)) :
      Walks store 0 place [name] false (.file (place ++ [name]) id)
  /-- The last name is vacant. -/
  | vacant {place : Location} {name : Name} {slash : Bool} (proper : Proper name)
      (entry : store.entryAt (place ++ [name]) = none) :
      Walks store 0 place [name] slash (.vacant (place ++ [name]))

/-! ## Walks and budgets -/

@[simp] theorem walkFrom_nil (store : Store) (purpose : Purpose) (budget : Nat) (place : Location)
    (slash : Bool) : store.walkFrom purpose budget place [] slash = .ok (.directory place) := by
  cases budget <;> simp [walkFrom, takeNames]

@[simp] theorem walkFrom_here (store : Store) (purpose : Purpose) (budget : Nat)
    (place : Location) (rest : List Name) (slash : Bool) :
    store.walkFrom purpose budget place (Path.here :: rest) slash =
      store.walkFrom purpose budget place rest slash := by
  cases budget <;> simp [walkFrom, takeNames]

@[simp] theorem walkFrom_up (store : Store) (purpose : Purpose) (budget : Nat)
    (place : Location) (rest : List Name) (slash : Bool) :
    store.walkFrom purpose budget place (Path.up :: rest) slash =
      store.walkFrom purpose budget place.dropLast rest slash := by
  have hne : Path.up ≠ Path.here := by decide
  cases budget <;> simp [walkFrom, takeNames, hne]

/-- A walk at a proper name, which no slash forbids to write to. -/
theorem walkFrom_cons (proper : Proper name)
    (hslash : ¬ (rest.isEmpty && slash && purpose = .writing) = true) :
    store.walkFrom purpose budget place (name :: rest) slash =
      match store.entryAt (place ++ [name]) with
      | some .directory => store.walkFrom purpose budget (place ++ [name]) rest slash
      | some (.link target) =>
        match budget with
        | 0 => .error .linkLoop
        | budget + 1 =>
          store.walkFrom purpose budget (target.start place) (target.names ++ rest)
            (slashAfter slash rest target)
      | some (.file id) =>
        if rest.isEmpty && !slash then .ok (.file (place ++ [name]) id) else .error .notDirectory
      | none => if rest.isEmpty then .ok (.vacant (place ++ [name])) else .error .notFound := by
  have hlong : ¬ maxNameLength < name.length := Nat.not_lt.2 proper.short
  rcases hentry : store.entryAt (place ++ [name]) with _ | _ | id | target <;> cases budget <;>
    simp only [walkFrom, takeNames, slashAfter, if_neg proper.ne_here, if_neg proper.ne_up,
      if_neg hslash, if_neg hlong, hentry]

/-- A walk that goes well takes only names that a directory can hold, and is
stopped by no slash. -/
theorem proper_of_walkFrom_cons (hhere : name ≠ Path.here) (hup : name ≠ Path.up)
    (h : store.walkFrom purpose budget place (name :: rest) slash = .ok spot) :
    Proper name ∧ ¬ (rest.isEmpty && slash && purpose = .writing) = true := by
  have hboth : ¬ (rest.isEmpty && slash && purpose = .writing) = true ∧
      ¬ maxNameLength < name.length := by
    cases budget <;>
    · simp only [walkFrom, takeNames, if_neg hhere, if_neg hup] at h
      split at h
      · cases h
      · rename_i hslash
        split at h
        · cases h
        · rename_i hlong
          exact ⟨hslash, hlong⟩
  exact ⟨⟨hhere, hup, Nat.not_lt.1 hboth.2⟩, hboth.1⟩

/-- A walk has a derivation if the walks behind its links have. -/
theorem exists_walks_of_follow
    (hfollow : ∀ fewer, budget = fewer + 1 → ∀ place names slash spot,
      store.walkFrom purpose fewer place names slash = .ok spot →
        ∃ links ≤ fewer, Walks store links place names slash spot)
    (h : store.walkFrom purpose budget place names slash = .ok spot) :
    ∃ links ≤ budget, Walks store links place names slash spot := by
  -- up to the next link every step takes one of the names
  induction names generalizing place with
  | nil =>
    rw [walkFrom_nil] at h
    cases h
    exact ⟨0, Nat.zero_le _, .done⟩
  | cons name rest ih =>
    by_cases hhere : name = Path.here
    · subst hhere
      rw [walkFrom_here] at h
      obtain ⟨links, hle, hwalks⟩ := ih h
      exact ⟨links, hle, .here hwalks⟩
    by_cases hup : name = Path.up
    · subst hup
      rw [walkFrom_up] at h
      obtain ⟨links, hle, hwalks⟩ := ih h
      exact ⟨links, hle, .up hwalks⟩
    obtain ⟨proper, hslash⟩ := proper_of_walkFrom_cons hhere hup h
    rw [walkFrom_cons proper hslash] at h
    rcases hentry : store.entryAt (place ++ [name]) with _ | _ | id | target
    · cases rest with
      | nil =>
        simp only [hentry] at h
        cases h
        exact ⟨0, Nat.zero_le _, .vacant proper hentry⟩
      | cons next rest => simp [hentry] at h
    · simp only [hentry] at h
      obtain ⟨links, hle, hwalks⟩ := ih h
      exact ⟨links, hle, .enter proper hentry hwalks⟩
    · cases rest with
      | nil =>
        cases slash with
        | false =>
          simp only [hentry] at h
          cases h
          exact ⟨0, Nat.zero_le _, .file proper hentry⟩
        | true => simp [hentry] at h
      | cons next rest => simp [hentry] at h
    · cases budget with
      | zero => simp [hentry] at h
      | succ fewer =>
        simp only [hentry] at h
        obtain ⟨links, hle, hwalks⟩ := hfollow fewer rfl _ _ _ _ h
        exact ⟨links + 1, Nat.succ_le_succ hle, .follow proper hentry hwalks⟩

/-- **A walk that goes well has a derivation** within its budget. -/
theorem exists_walks_of_walkFrom
    (h : store.walkFrom purpose budget place names slash = .ok spot) :
    ∃ links ≤ budget, Walks store links place names slash spot := by
  -- a link may bring any number of names, but costs one of the budget
  induction budget generalizing place names slash spot with
  | zero => exact exists_walks_of_follow (fun _ hfewer => nomatch hfewer) h
  | succ budget ih =>
    refine exists_walks_of_follow (fun fewer hfewer place names slash spot hwalk => ?_) h
    obtain rfl : budget = fewer := Nat.succ.inj hfewer
    exact ih hwalk

/-- A walk ends at a file only where no slash is asked for. -/
theorem Walks.slash_eq_false (h : Walks store links place names slash (.file dir id)) :
    slash = false := by
  generalize hspot : Spot.file dir id = spot at h
  induction h with
  | done => cases hspot
  | here _ ih => exact ih hspot
  | up _ ih => exact ih hspot
  | enter _ _ _ ih => exact ih hspot
  | @follow _ _ _ rest slash _ target _ _ _ ih =>
    have hflag := ih hspot
    unfold slashAfter at hflag
    split at hflag
    · exact (Bool.or_eq_false_iff.1 hflag).1
    · exact hflag
  | file _ _ => rfl
  | vacant _ _ => cases hspot

/-- **A derivation is a walk** in every budget that allows for its links. A
walk to a file may be one for writing as well. -/
theorem Walks.walkFrom_eq (h : Walks store links place names slash spot) (hle : links ≤ budget)
    (hpurpose : purpose = .reading ∨ ∃ dir id, spot = .file dir id) :
    store.walkFrom purpose budget place names slash = .ok spot := by
  have hfree {k : Nat} {p : Location} {ns rest : List Name} {s : Bool}
      (hk : Walks store k p ns s spot) : ¬ (rest.isEmpty && s && purpose = .writing) = true := by
    rcases hpurpose with rfl | ⟨dir, id, rfl⟩
    · simp
    · simp [hk.slash_eq_false]
  induction h generalizing budget with
  | done => exact walkFrom_nil ..
  | here _ ih => rw [walkFrom_here, ih hle hpurpose hfree]
  | up _ ih => rw [walkFrom_up, ih hle hpurpose hfree]
  | enter proper entry h ih =>
    rw [walkFrom_cons proper (hfree (.enter proper entry h)), entry]
    exact ih hle hpurpose hfree
  | follow proper entry h ih =>
    rw [walkFrom_cons proper (hfree (.follow proper entry h)), entry]
    cases budget with
    | zero => cases hle
    | succ budget => exact ih (Nat.le_of_succ_le_succ hle) hpurpose hfree
  | file proper entry =>
    rw [walkFrom_cons proper (hfree (.file proper entry)), entry]
    rfl
  | vacant proper entry =>
    rw [walkFrom_cons proper (hfree (.vacant proper entry)), entry]
    rfl

/-- **A walk ends in one spot only.** -/
theorem Walks.spot_unique {links' : Nat} {spot' : Spot}
    (h : Walks store links place names slash spot)
    (h' : Walks store links' place names slash spot') : spot = spot' := by
  have hw := h.walkFrom_eq (Nat.le_max_left links links') (.inl rfl)
  have hw' := h'.walkFrom_eq (Nat.le_max_right links links') (.inl rfl)
  rw [hw] at hw'
  exact Except.ok.inj hw'

/-! ## What stands at the end -/

/-- What a spot says stands there, a file and a vacant name in a directory. -/
inductive Found (store : Store) : Spot → Prop
  | directory {place : Location} (entry : store.entryAt place = some .directory) :
      Found store (.directory place)
  | file {dir : Location} {name : Name} {id : FileId}
      (parent : store.entryAt dir = some .directory)
      (entry : store.entryAt (dir ++ [name]) = some (.file id)) :
      Found store (.file (dir ++ [name]) id)
  | vacant {dir : Location} {name : Name} (parent : store.entryAt dir = some .directory)
      (entry : store.entryAt (dir ++ [name]) = none) : Found store (.vacant (dir ++ [name]))

/-- The location is that of a directory, below directories all the way from the
root. -/
def Grounded (store : Store) (place : Location) : Prop :=
  ∀ above, above <+: place → store.entryAt above = some .directory

namespace Grounded

theorem entry (h : Grounded store place) : store.entryAt place = some .directory :=
  h place (List.prefix_refl place)

theorem dropLast (h : Grounded store place) : Grounded store place.dropLast :=
  fun above habove => h above (habove.trans (List.dropLast_prefix place))

theorem concat (h : Grounded store place)
    (hentry : store.entryAt (place ++ [name]) = some .directory) :
    Grounded store (place ++ [name]) := by
  intro above habove
  rcases List.prefix_concat_iff.1 habove with rfl | habove
  · exact hentry
  · exact h above habove

/-- The root and the working directory are directories below directories. -/
theorem of_above (h : place <+: store.home) : Grounded store place :=
  fun _ habove => entryAt_of_above (habove.trans h)

theorem start (h : Grounded store place) (path : Path) : Grounded store (path.start place) := by
  unfold Path.start
  split
  · exact .of_above List.nil_prefix
  · exact h

theorem startOf (store : Store) (path : Path) : Grounded store (store.startOf path) :=
  .start (.of_above (List.prefix_refl _)) path

end Grounded

/-- **A walk from a directory below directories finds what it says.** -/
theorem Walks.found (h : Walks store links place names slash spot)
    (hplace : Grounded store place) : Found store spot := by
  induction h with
  | done => exact .directory hplace.entry
  | here _ ih => exact ih hplace
  | up _ ih => exact ih hplace.dropLast
  | enter _ entry _ ih => exact ih (hplace.concat entry)
  | follow _ _ _ ih => exact ih (hplace.start _)
  | file _ entry => exact .file hplace.entry entry
  | vacant _ entry => exact .vacant hplace.entry entry

/-! ## Cutting a walk -/

/-- A directory is reached with a slash behind it and without. -/
theorem Walks.any_slash (h : Walks store links place names slash (.directory dir))
    (slash' : Bool) : Walks store links place names slash' (.directory dir) := by
  generalize hspot : Spot.directory dir = spot at h ⊢
  induction h generalizing slash' with
  | done => exact .done
  | here _ ih => exact .here (ih slash' hspot)
  | up _ ih => exact .up (ih slash' hspot)
  | enter proper entry _ ih => exact .enter proper entry (ih slash' hspot)
  | follow proper entry _ ih => exact .follow proper entry (ih _ hspot)
  | file _ _ => cases hspot
  | vacant proper entry => exact .vacant proper entry

theorem slashAfter_append_of_ne_nil (slash : Bool) (front : List Name) (target : Path)
    (h : names ≠ []) : slashAfter slash (front ++ names) target = slash := by
  unfold slashAfter
  rw [if_neg (by simp [h])]

/-- A walk to a directory can be followed by a walk from there. -/
theorem Walks.append {links' : Nat} {slash' : Bool}
    (h : Walks store links place front slash' (.directory dir)) (hnames : names ≠ [])
    (h' : Walks store links' dir names slash spot) :
    Walks store (links + links') place (front ++ names) slash spot := by
  generalize hdir : Spot.directory dir = middle at h
  induction h with
  | done =>
    cases hdir
    rwa [Nat.zero_add]
  | here _ ih => exact .here (ih hdir)
  | up _ ih => exact .up (ih hdir)
  | enter proper entry _ ih => exact .enter proper entry (ih hdir)
  | @follow links place name rest _ _ target proper entry _ ih =>
    have hrest := ih hdir
    rw [List.append_assoc, ← slashAfter_append_of_ne_nil slash rest target hnames] at hrest
    rw [Nat.add_right_comm]
    exact .follow proper entry hrest
  | file _ _ => cases hdir
  | vacant _ _ => cases hdir

/-- **A walk can be cut before any of its names**: what comes first leads to a
directory. -/
theorem Walks.split (h : Walks store links place (front ++ names) slash spot)
    (hnames : names ≠ []) :
    ∃ first second dir, links = first + second ∧
      Walks store first place front slash (.directory dir) ∧
      Walks store second dir names slash spot := by
  generalize hall : front ++ names = all at h
  induction h generalizing front with
  | done => exact absurd (List.append_eq_nil_iff.1 hall).2 hnames
  | @here links place rest slash spot h ih =>
    rcases List.append_eq_cons_iff.1 hall with ⟨rfl, rfl⟩ | ⟨front, rfl, rfl⟩
    · exact ⟨0, links, place, (Nat.zero_add _).symm, .done, .here h⟩
    · obtain ⟨a, b, dir, hsum, hfirst, hsecond⟩ := ih rfl
      exact ⟨a, b, dir, hsum, .here hfirst, hsecond⟩
  | @up links place rest slash spot h ih =>
    rcases List.append_eq_cons_iff.1 hall with ⟨rfl, rfl⟩ | ⟨front, rfl, rfl⟩
    · exact ⟨0, links, place, (Nat.zero_add _).symm, .done, .up h⟩
    · obtain ⟨a, b, dir, hsum, hfirst, hsecond⟩ := ih rfl
      exact ⟨a, b, dir, hsum, .up hfirst, hsecond⟩
  | @enter links place name rest slash spot proper entry h ih =>
    rcases List.append_eq_cons_iff.1 hall with ⟨rfl, rfl⟩ | ⟨front, rfl, rfl⟩
    · exact ⟨0, links, place, (Nat.zero_add _).symm, .done, .enter proper entry h⟩
    · obtain ⟨a, b, dir, hsum, hfirst, hsecond⟩ := ih rfl
      exact ⟨a, b, dir, hsum, .enter proper entry hfirst, hsecond⟩
  | @follow links place name rest slash spot target proper entry h ih =>
    rcases List.append_eq_cons_iff.1 hall with ⟨rfl, rfl⟩ | ⟨front, rfl, rfl⟩
    · exact ⟨0, links + 1, place, (Nat.zero_add _).symm, .done, .follow proper entry h⟩
    · obtain ⟨a, b, dir, hsum, hfirst, hsecond⟩ := ih (List.append_assoc ..)
      rw [slashAfter_append_of_ne_nil slash front target hnames] at hsecond
      exact ⟨a + 1, b, dir, by omega, .follow proper entry (hfirst.any_slash _), hsecond⟩
  | @file place name id proper entry =>
    rcases List.append_eq_cons_iff.1 hall with ⟨rfl, rfl⟩ | ⟨front, rfl, hnil⟩
    · exact ⟨0, 0, place, rfl, .done, .file proper entry⟩
    · exact absurd (List.append_eq_nil_iff.1 hnil.symm).2 hnames
  | @vacant place name slash proper entry =>
    rcases List.append_eq_cons_iff.1 hall with ⟨rfl, rfl⟩ | ⟨front, rfl, hnil⟩
    · exact ⟨0, 0, place, rfl, .done, .vacant proper entry⟩
    · exact absurd (List.append_eq_nil_iff.1 hnil.symm).2 hnames

/-! ## What a walk does not pass -/

/-- Stores with the same entries have the same walks. -/
theorem Walks.of_agree (hsame : ∀ p, store'.entryAt p = store.entryAt p)
    (h : Walks store links place names slash spot) : Walks store' links place names slash spot := by
  induction h with
  | done => exact .done
  | here _ ih => exact .here ih
  | up _ ih => exact .up ih
  | enter proper entry _ ih => exact .enter proper ((hsame _).trans entry) ih
  | follow proper entry _ ih => exact .follow proper ((hsame _).trans entry) ih
  | file proper entry => exact .file proper ((hsame _).trans entry)
  | vacant proper entry => exact .vacant proper ((hsame _).trans entry)

/-- The way along the names meets the entry at a location. -/
inductive Meets (store : Store) (spot : Location) : Location → List Name → Prop
  /-- A dot stays where it is. -/
  | here {place : Location} {rest : List Name} (h : Meets store spot place rest) :
      Meets store spot place (Path.here :: rest)
  /-- Two dots go to the directory above. -/
  | up {place : Location} {rest : List Name} (h : Meets store spot place.dropLast rest) :
      Meets store spot place (Path.up :: rest)
  /-- The next name stands for the entry. -/
  | now {place : Location} {name : Name} {rest : List Name} (proper : Proper name)
      (eq_spot : place ++ [name] = spot) : Meets store spot place (name :: rest)
  /-- It is met beyond a directory. -/
  | enter {place : Location} {name : Name} {rest : List Name} (proper : Proper name)
      (entry : store.entryAt (place ++ [name]) = some .directory)
      (h : Meets store spot (place ++ [name]) rest) : Meets store spot place (name :: rest)
  /-- It is met beyond a link. -/
  | follow {place : Location} {name : Name} {rest : List Name} {target : Path}
      (proper : Proper name)
      (entry : store.entryAt (place ++ [name]) = some (.link target))
      (h : Meets store spot (target.start place) (target.names ++ rest)) :
      Meets store spot place (name :: rest)

theorem meets_here_iff {off : Location} :
    Meets store off place (Path.here :: rest) ↔ Meets store off place rest := by
  constructor
  · intro h
    cases h with
    | here h => exact h
    | now proper _ => exact absurd rfl proper.ne_here
    | enter proper _ _ => exact absurd rfl proper.ne_here
    | follow proper _ _ => exact absurd rfl proper.ne_here
  · exact .here

theorem meets_up_iff {off : Location} :
    Meets store off place (Path.up :: rest) ↔ Meets store off place.dropLast rest := by
  constructor
  · intro h
    cases h with
    | up h => exact h
    | now proper _ => exact absurd rfl proper.ne_up
    | enter proper _ _ => exact absurd rfl proper.ne_up
    | follow proper _ _ => exact absurd rfl proper.ne_up
  · exact .up

/-- What the way meets from a directory on. -/
theorem meets_cons_iff_of_directory {off : Location} (proper : Proper name)
    (entry : store.entryAt (place ++ [name]) = some .directory) :
    Meets store off place (name :: rest) ↔
      place ++ [name] = off ∨ Meets store off (place ++ [name]) rest := by
  constructor
  · intro h
    cases h with
    | here _ => exact absurd rfl proper.ne_here
    | up _ => exact absurd rfl proper.ne_up
    | now _ eq_spot => exact .inl eq_spot
    | enter _ _ h => exact .inr h
    | follow _ entry' _ => simp [entry] at entry'
  · rintro (heq | h)
    · exact .now proper heq
    · exact .enter proper entry h

/-- What the way meets from a link on. -/
theorem meets_cons_iff_of_link {off : Location} {target : Path} (proper : Proper name)
    (entry : store.entryAt (place ++ [name]) = some (.link target)) :
    Meets store off place (name :: rest) ↔
      place ++ [name] = off ∨ Meets store off (target.start place) (target.names ++ rest) := by
  constructor
  · intro h
    cases h with
    | here _ => exact absurd rfl proper.ne_here
    | up _ => exact absurd rfl proper.ne_up
    | now _ eq_spot => exact .inl eq_spot
    | enter _ entry' _ => simp [entry] at entry'
    | follow _ entry' h =>
      obtain rfl : target = _ := by simpa using entry.symm.trans entry'
      exact .inr h
  · rintro (heq | h)
    · exact .now proper heq
    · exact .follow proper entry h

/-- **What becomes of an entry does not matter to a walk that does not meet
it.** -/
theorem Walks.of_not_meets {off : Location}
    (hsame : ∀ p, p ≠ off → store'.entryAt p = store.entryAt p)
    (h : Walks store links place names slash spot) (hoff : ¬ Meets store off place names) :
    Walks store' links place names slash spot := by
  induction h with
  | done => exact .done
  | here _ ih => exact .here (ih fun hmeets => hoff (.here hmeets))
  | up _ ih => exact .up (ih fun hmeets => hoff (.up hmeets))
  | enter proper entry _ ih =>
    have hentry := (hsame _ fun heq => hoff (.now proper heq)).trans entry
    exact .enter proper hentry (ih fun hmeets => hoff (.enter proper entry hmeets))
  | follow proper entry _ ih =>
    have hentry := (hsame _ fun heq => hoff (.now proper heq)).trans entry
    exact .follow proper hentry (ih fun hmeets => hoff (.follow proper entry hmeets))
  | file proper entry =>
    exact .file proper ((hsame _ fun heq => hoff (.now proper heq)).trans entry)
  | vacant proper entry =>
    exact .vacant proper ((hsame _ fun heq => hoff (.now proper heq)).trans entry)

/-- No directory is reached through the entry at a location. -/
def Blind (store : Store) (spot : Location) : Prop :=
  ∀ place name, spot = place ++ [name] → ∀ links slash dir,
    ¬ Walks store links place [name] slash (.directory dir)

/-- A walk to a directory does not meet an entry that leads to none. -/
theorem Walks.not_meets_of_blind {blind : Location} (hblind : Blind store blind)
    (h : Walks store links place names slash (.directory dir)) :
    ¬ Meets store blind place names := by
  generalize hdir : Spot.directory dir = spot at h
  induction h with
  | done =>
    intro hmeets
    cases hmeets
  | here _ ih =>
    intro hmeets
    exact ih hdir (meets_here_iff.1 hmeets)
  | up _ ih =>
    intro hmeets
    exact ih hdir (meets_up_iff.1 hmeets)
  | enter proper entry _ ih =>
    intro hmeets
    rcases (meets_cons_iff_of_directory proper entry).1 hmeets with heq | hmeets
    · exact hblind _ _ heq.symm 0 false _ (.enter proper entry .done)
    · exact ih hdir hmeets
  | @follow links place name rest slash spot target proper entry h ih =>
    intro hmeets
    rcases (meets_cons_iff_of_link proper entry).1 hmeets with heq | hmeets
    · -- the link's own names lead to a directory, so the link does
      obtain ⟨a, mid, hfirst⟩ : ∃ a mid, Walks store a (target.start place) target.names slash
          (.directory mid) := by
        cases rest with
        | nil =>
          rw [List.append_nil, ← hdir] at h
          exact ⟨links, dir, h.any_slash slash⟩
        | cons next rest =>
          obtain ⟨a, -, mid, -, hfirst, -⟩ := h.split (by simp)
          exact ⟨a, mid, hfirst.any_slash slash⟩
      refine hblind place name heq.symm (a + 1) slash mid (.follow proper entry ?_)
      rw [List.append_nil]
      exact hfirst.any_slash _
    · exact ih hdir hmeets
  | file _ _ => cases hdir
  | vacant _ _ => cases hdir

/-- **A walk to a directory does not pass an entry that leads to none**, so it
stays as it is whatever becomes of that entry. -/
theorem Walks.of_agree_off {blind : Location}
    (hsame : ∀ p, p ≠ blind → store'.entryAt p = store.entryAt p) (hblind : Blind store blind)
    (h : Walks store links place names slash (.directory dir)) :
    Walks store' links place names slash (.directory dir) :=
  h.of_not_meets hsame (h.not_meets_of_blind hblind)

/-- An entry that stands for something else leads to no directory. -/
theorem Walks.blind (h : Walks store links place [name] slash spot)
    (hspot : ∀ dir, spot ≠ .directory dir) : Blind store (place ++ [name]) := by
  intro place' name' heq links' slash' dir' hdir
  obtain ⟨rfl, hname⟩ := List.append_inj' heq rfl
  obtain rfl : name = name' := by simpa using hname
  exact hspot dir' (h.spot_unique (hdir.any_slash slash))

end Store

end Graft
