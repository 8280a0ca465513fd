import Graft.Proofs.Reach
import Mathlib.Data.List.Induction

/-!
# The directory of a path

Two ways lead to the directory in which the last name of a path stands. The
renaming takes all names but the last; the temporary file is made in
`Path.directory`, which is cut off the bytes of the path with the slashes and
dot names at the cut. The names of the two are the same up to dot names at the
end (`exists_dropLast_names_eq`), and a dot name leads nowhere else; and they
start at the same place, as the first slash of a path is never cut off
(`isAbsolute_directory`). So a file that a path reaches stands where the
temporary file is made (`Reaches.enter_directory`).
-/

namespace Graft

namespace Path

variable {a b name : Bytes} {path : Path}

/-! ## Names around a slash -/

@[simp] theorem names_nil : names ⟨[]⟩ = [] := rfl

/-- A slash parts the names. -/
theorem names_append_slash (a b : Bytes) :
    names ⟨a ++ slash :: b⟩ = names ⟨a⟩ ++ names ⟨b⟩ := by
  simp [names, List.splitOn_append_cons_self]

/-- Bytes without a slash are one name. -/
theorem names_of_not_mem (hslash : slash ∉ name) (hne : name ≠ []) : names ⟨name⟩ = [name] := by
  simp [names, List.splitOn_eq_singleton hslash, hne]

theorem names_here : names ⟨here⟩ = [here] :=
  names_of_not_mem (by decide) (by decide)

/-- A slash at the end names nothing. -/
theorem names_append_slash_nil (a : Bytes) : names ⟨a ++ [slash]⟩ = names ⟨a⟩ := by
  rw [names_append_slash, names_nil, List.append_nil]

/-- What is dropped at the end of a path read backwards are slashes and dot
names. -/
theorem exists_names_dropTrailing (backwards : Bytes) :
    ∃ k, names ⟨backwards.reverse⟩ =
      names ⟨(dropTrailing backwards).reverse⟩ ++ List.replicate k here := by
  induction backwards using dropTrailing.induct with
  | case1 => exact ⟨0, rfl⟩
  | case2 =>
    refine ⟨0, ?_⟩
    rw [dropTrailing, if_pos rfl]
    rfl
  | case3 b hb =>
    refine ⟨0, ?_⟩
    rw [dropTrailing, if_neg hb, List.replicate_zero, List.append_nil]
  | case4 c rest ih =>
    obtain ⟨k, ih⟩ := ih
    refine ⟨k, ?_⟩
    rw [dropTrailing, if_pos rfl, ← ih, List.reverse_cons, names_append_slash_nil]
  | case5 b c rest hb hdot ih =>
    obtain ⟨k, ih⟩ := ih
    obtain ⟨rfl, rfl⟩ := hdot
    refine ⟨k + 1, ?_⟩
    have hcut : (dot :: slash :: rest).reverse = rest.reverse ++ slash :: here := by
      simp [here]
    rw [dropTrailing, if_neg hb, if_pos ⟨rfl, rfl⟩, hcut, names_append_slash, ih, names_here,
      List.append_assoc, ← List.replicate_succ']
  | case6 b c rest hb hdot =>
    refine ⟨0, ?_⟩
    rw [dropTrailing, if_neg hb, if_neg hdot, List.replicate_zero, List.append_nil]

/-! ## The last name -/

/-- The bytes of a path are those of its last name behind others, which end in
a slash if there are any. -/
structure EndsIn (path : Path) (front name : Bytes) : Prop where
  bytes_eq : path.bytes = front ++ name
  front_cut : front = [] ∨ ∃ rest, front = rest ++ [slash]
  slash_not_mem : slash ∉ name
  ne_nil : name ≠ []

/-- Bytes can be cut behind the last slash. -/
theorem exists_cut (bytes : Bytes) :
    ∃ front name, bytes = front ++ name ∧ (front = [] ∨ ∃ rest, front = rest ++ [slash]) ∧
      slash ∉ name := by
  induction bytes using List.reverseRecOn with
  | nil => exact ⟨[], [], rfl, .inl rfl, by simp⟩
  | append_singleton bytes b ih =>
    by_cases hb : b = slash
    · subst hb
      exact ⟨bytes ++ [slash], [], by simp, .inr ⟨bytes, rfl⟩, by simp⟩
    · obtain ⟨front, name, rfl, hfront, hname⟩ := ih
      exact ⟨front, name ++ [b], by simp, hfront, by simp [hname, Ne.symm hb]⟩

/-- A path that ends in no slash ends in a name, if it has any names. -/
theorem exists_endsIn (hne : path.names ≠ []) (hbare : path.endsInSlash = false) :
    ∃ front name, path.EndsIn front name := by
  obtain ⟨front, name, hbytes, hfront, hname⟩ := exists_cut path.bytes
  refine ⟨front, name, hbytes, hfront, hname, ?_⟩
  rintro rfl
  rw [List.append_nil] at hbytes
  rcases hfront with rfl | ⟨rest, rfl⟩
  · exact hne (by rw [names, hbytes]; rfl)
  · rw [endsInSlash, hbytes] at hbare
    simp at hbare

namespace EndsIn

theorem names_eq (h : path.EndsIn a name) : path.names = names ⟨a⟩ ++ [name] := by
  have hpath : path.names = names ⟨a ++ name⟩ := by rw [names, names, h.bytes_eq]
  rw [hpath]
  rcases h.front_cut with rfl | ⟨rest, rfl⟩
  · exact names_of_not_mem h.slash_not_mem h.ne_nil
  · rw [List.append_assoc, List.singleton_append, names_append_slash, names_append_slash_nil,
      names_of_not_mem h.slash_not_mem h.ne_nil]

/-- Nothing is dropped behind a last name that is no dot name. -/
theorem dropTrailing_eq (h : path.EndsIn a name) (hname : name ≠ here) :
    dropTrailing path.bytes.reverse = path.bytes.reverse := by
  obtain ⟨b, others, hrev⟩ := List.exists_cons_of_ne_nil (List.reverse_ne_nil_iff.2 h.ne_nil)
  have hslash : slash ∉ name.reverse := by simpa using h.slash_not_mem
  rw [hrev, List.mem_cons, not_or] at hslash
  have hb : b ≠ slash := Ne.symm hslash.1
  rw [h.bytes_eq, List.reverse_append, hrev]
  cases others with
  | nil =>
    -- the one byte of the name is no dot
    have hdot : b ≠ dot := by
      rintro rfl
      exact hname (by simpa [here] using congrArg List.reverse hrev)
    cases hfront : a.reverse with
    | nil => rw [List.append_nil, dropTrailing, if_neg hb]
    | cons c rest =>
      rw [List.cons_append, List.nil_append, dropTrailing, if_neg hb, if_neg (by simp [hdot])]
  | cons c others =>
    have hc : c ≠ slash := fun hc => hslash.2 (by simp [hc])
    rw [List.cons_append, List.cons_append, dropTrailing, if_neg hb, if_neg (by simp [hc])]

/-- Before the last name stands what is in front of it. -/
theorem beforeLast_eq (h : path.EndsIn a name) (hname : name ≠ here) :
    path.beforeLast = a.reverse := by
  have hname' : ∀ b ∈ name.reverse, (b != slash) = true := by
    intro b hb
    have hmem : b ∈ name := by simpa using hb
    simpa using fun heq : b = slash => h.slash_not_mem (heq ▸ hmem)
  have hfront : (a.reverse.dropWhile fun b => b != slash) = a.reverse := by
    rcases h.front_cut with rfl | ⟨rest, rfl⟩ <;> simp
  rw [beforeLast, h.dropTrailing_eq hname, h.bytes_eq, List.reverse_append]
  simp only [List.dropWhile_append_of_pos hname', hfront]

end EndsIn

/-! ## The directory before it -/

/-- What is left at the end of a path read backwards is what was there. -/
theorem dropTrailing_suffix (backwards : Bytes) : dropTrailing backwards <:+ backwards := by
  induction backwards using dropTrailing.induct with
  | case1 => exact List.suffix_rfl
  | case2 =>
    rw [dropTrailing, if_pos rfl]
    exact List.nil_suffix
  | case3 b hb =>
    simp [dropTrailing, hb]
  | case4 c rest ih =>
    rw [dropTrailing, if_pos rfl]
    exact ih.trans (List.suffix_cons ..)
  | case5 b c rest hb hdot ih =>
    rw [dropTrailing, if_neg hb, if_pos hdot]
    exact ih.trans ((List.suffix_cons ..).trans (List.suffix_cons ..))
  | case6 b c rest hb hdot =>
    simp [dropTrailing, hb, hdot]

/-- All of a path is dropped only where it begins with a slash. -/
theorem getLast?_of_dropTrailing_eq_nil {backwards : Bytes} (h : dropTrailing backwards = [])
    (hne : backwards ≠ []) : backwards.getLast? = some slash := by
  induction backwards using dropTrailing.induct with
  | case1 => exact absurd rfl hne
  | case2 => rfl
  | case3 b hb =>
    rw [dropTrailing, if_neg hb] at h
    cases h
  | case4 c rest ih =>
    rw [dropTrailing, if_pos rfl] at h
    rw [List.getLast?_cons_cons]
    exact ih h (by simp)
  | case5 b c rest hb hdot ih =>
    obtain ⟨rfl, rfl⟩ := hdot
    rw [dropTrailing, if_neg hb, if_pos ⟨rfl, rfl⟩] at h
    cases rest with
    | nil => rfl
    | cons d rest =>
      rw [List.getLast?_cons_cons, List.getLast?_cons_cons]
      exact ih h (by simp)
  | case6 b c rest hb hdot =>
    rw [dropTrailing, if_neg hb, if_neg hdot] at h
    cases h

/-- The directory of a path with more than one name, by what stands before the
last. -/
theorem directory_cases (hne : path.beforeLast ≠ []) :
    (dropTrailing path.beforeLast = [] ∧ path.directory = ⟨[slash]⟩) ∨
      (dropTrailing path.beforeLast ≠ [] ∧
        path.directory = ⟨(dropTrailing path.beforeLast).reverse⟩) := by
  unfold directory
  split
  · rename_i hnil
    exact absurd hnil hne
  · split
    · rename_i hdrop
      exact .inl ⟨hdrop, rfl⟩
    · rename_i hdrop
      exact .inr ⟨hdrop, rfl⟩

theorem directory_of_beforeLast_eq_nil (h : path.beforeLast = []) : path.directory = ⟨here⟩ := by
  rw [directory, h]

/-- **The directory of a path has all its names but the last**, up to dot names
at the end. Where nothing else is left it is the dot. -/
theorem exists_dropLast_names_eq {front : List Name} (hnames : path.names = front ++ [name])
    (hname : name ≠ here) (hbare : path.endsInSlash = false) :
    ∃ common k l, front = common ++ List.replicate k here ∧
      path.directory.names = common ++ List.replicate l here := by
  obtain ⟨a, name', h⟩ := exists_endsIn (by simp [hnames]) hbare
  obtain ⟨rfl, heq⟩ := List.append_inj' (hnames.symm.trans h.names_eq) rfl
  obtain rfl : name = name' := by simpa using heq
  have hbefore := h.beforeLast_eq hname
  obtain ⟨k, hk⟩ := exists_names_dropTrailing a.reverse
  rw [List.reverse_reverse] at hk
  by_cases hnil : a = []
  · subst hnil
    rw [directory_of_beforeLast_eq_nil hbefore, names_here]
    exact ⟨[], 0, 1, rfl, rfl⟩
  · have hne : path.beforeLast ≠ [] := by simpa [hbefore] using hnil
    rcases directory_cases hne with ⟨hdrop, hdirectory⟩ | ⟨-, hdirectory⟩
    · rw [hbefore] at hdrop
      rw [hdrop] at hk
      exact ⟨[], k, 0, hk, by rw [hdirectory]; rfl⟩
    · rw [hdirectory, hbefore]
      exact ⟨_, k, 0, hk, by simp⟩

/-- **The directory of a path is absolute where the path is.** -/
theorem isAbsolute_directory (hne : path.names ≠ []) (hname : path.names.getLast? ≠ some here)
    (hbare : path.endsInSlash = false) : path.directory.isAbsolute = path.isAbsolute := by
  obtain ⟨a, name, h⟩ := exists_endsIn hne hbare
  have hbefore := h.beforeLast_eq (by rintro rfl; exact hname (by simp [h.names_eq]))
  unfold isAbsolute
  by_cases hnil : a = []
  · subst hnil
    -- the one name begins with no slash
    obtain ⟨b, others, rfl⟩ := List.exists_cons_of_ne_nil h.ne_nil
    have hb : b ≠ slash := fun hb => h.slash_not_mem (by simp [hb])
    rw [directory_of_beforeLast_eq_nil hbefore, h.bytes_eq]
    simp [here, hb, show dot ≠ slash by decide]
  · have hfirst : path.bytes.head? = a.head? := by
      rw [h.bytes_eq, List.head?_append_of_ne_nil _ hnil]
    have hne : path.beforeLast ≠ [] := by simpa [hbefore] using hnil
    rcases directory_cases hne with ⟨hdrop, hdirectory⟩ | ⟨hdrop, hdirectory⟩
    · rw [hbefore] at hdrop
      have hslash := getLast?_of_dropTrailing_eq_nil hdrop (by simpa using hnil)
      rw [List.getLast?_reverse] at hslash
      rw [hdirectory, hfirst, hslash]
      rfl
    · rw [hbefore] at hdrop hdirectory
      obtain ⟨cut, hcut⟩ := dropTrailing_suffix a.reverse
      have hsame : a = (dropTrailing a.reverse).reverse ++ cut.reverse := by
        rw [← List.reverse_append, hcut, List.reverse_reverse]
      rw [hdirectory, hfirst, hsame, List.head?_append_of_ne_nil _ (by simpa using hdrop)]
      simp only [← hsame]

/-! ## Paths put together -/

theorem directory_ne_nil (path : Path) : path.directory.bytes ≠ [] := by
  by_cases hnil : path.beforeLast = []
  · rw [directory_of_beforeLast_eq_nil hnil]
    decide
  · rcases directory_cases hnil with ⟨-, hdirectory⟩ | ⟨hdrop, hdirectory⟩
    · rw [hdirectory]
      decide
    · rw [hdirectory]
      exact List.reverse_ne_nil_iff.2 hdrop

theorem infix_join_left {directory path : Path} (h : path.isAbsolute = false) :
    directory.bytes <:+: (directory.join path).bytes := by
  unfold join
  rw [h, Bool.false_or]
  split
  · rename_i hempty
    rw [List.isEmpty_iff.1 hempty]
    exact List.nil_infix
  · split
    · exact (List.prefix_append ..).isInfix
    · exact (List.prefix_append ..).isInfix

theorem infix_join_right (directory path : Path) : path.bytes <:+: (directory.join path).bytes := by
  unfold join
  split
  · exact List.infix_rfl
  · split
    · exact (List.suffix_append ..).isInfix
    · exact ((List.suffix_cons ..).trans (List.suffix_append ..)).isInfix

/-- The system takes what is part of a path that it takes. -/
theorem check_of_infix {whole : Path} (h : whole.check = .ok ())
    (hpart : path.bytes <:+: whole.bytes) (hne : path.bytes ≠ []) : path.check = .ok () := by
  unfold check at h ⊢
  split at h
  · cases h
  rename_i hnul
  split at h
  · cases h
  split at h
  · cases h
  rename_i hlong
  have hnul' : ¬ path.bytes.contains 0 = true := by
    simp only [List.contains_iff_mem] at hnul ⊢
    exact fun hmem => hnul (hpart.subset hmem)
  rw [if_neg hnul', if_neg (by simpa using hne)]
  exact if_neg (Nat.not_lt.2 (Nat.le_trans hpart.length_le (Nat.not_lt.1 hlong)))

end Path

namespace Store

variable {store : Store} {path : Path} {dir place : Location} {name : Name} {id : FileId}

/-- Dot names lead nowhere. -/
theorem Walks.replicate_here (place : Location) (slash : Bool) (k : Nat) :
    Walks store 0 place (List.replicate k Path.here) slash (.directory place) := by
  induction k with
  | zero => exact .done
  | succ k ih => exact .here ih

/-- Dot names at the end can be left out and put in. -/
theorem enter_append_here (names : List Name) (k : Nat) :
    store.enter place (names ++ List.replicate k Path.here) = .ok dir ↔
      store.enter place names = .ok dir := by
  rw [enter_eq_ok_iff, enter_eq_ok_iff]
  cases k with
  | zero => simp
  | succ k =>
    have hne : List.replicate (k + 1) Path.here ≠ [] := by simp
    constructor
    · rintro ⟨links, hle, hwalks⟩
      obtain ⟨first, second, middle, hsum, hfirst, hsecond⟩ := hwalks.split hne
      obtain rfl : dir = middle := by
        simpa using hsecond.spot_unique (.replicate_here middle false (k + 1))
      exact ⟨first, by omega, hfirst⟩
    · rintro ⟨links, hle, hwalks⟩
      exact ⟨links, hle, hwalks.append hne (.replicate_here dir false (k + 1))⟩

/-- **The directory of a path is the one to which its names but the last lead.** -/
theorem enter_directory {front : List Name} (hnames : path.names = front ++ [name])
    (hname : name ≠ Path.here) (hbare : path.endsInSlash = false) :
    store.enter (store.startOf path.directory) path.directory.names = .ok dir ↔
      store.enter (store.startOf path) front = .ok dir := by
  obtain ⟨common, k, l, hfront, hdirectory⟩ :=
    Path.exists_dropLast_names_eq hnames hname hbare
  have habsolute : path.directory.isAbsolute = path.isAbsolute :=
    Path.isAbsolute_directory (by simp [hnames]) (by simpa [hnames] using hname) hbare
  have hstart : store.startOf path.directory = store.startOf path := by
    rw [startOf, Path.start, habsolute]
    rfl
  rw [hstart, hfront, hdirectory, enter_append_here, enter_append_here]

/-- Where a temporary file can be made in the directory of a path, the system
takes that directory's path. -/
theorem check_directory (h : store.temporaryPlace path.directory = .ok dir) :
    path.directory.check = .ok () := by
  obtain ⟨hcheck, -⟩ := temporaryPlace_eq_ok_iff.1 h
  have hrelative : (⟨temporaryName 0⟩ : Path).isAbsolute = false := by decide
  exact Path.check_of_infix hcheck
    ((Path.infix_join_right _ _).trans (Path.infix_join_left hrelative)) path.directory_ne_nil

/-- **A temporary file is made in the directory of the entry whose place it
takes.** -/
theorem Reaches.enter_directory (h : store.Reaches path dir name place id) :
    store.enter (store.startOf path.directory) path.directory.names = .ok dir := by
  exact (Store.enter_directory h.names_eq h.proper.ne_here h.bare).2 h.enter_eq

end Store

end Graft
