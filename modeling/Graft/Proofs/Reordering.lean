import Graft.Proofs.Guarded
import Graft.Proofs.Splicing

/-!
# Replacements in any order

A list of replacements runs one after another, each on what the one before
left. Where no target overlaps another target or what is put in another's
place, the order does not matter: what is missing is missing from the text
one began with, and every order that goes through comes to one text
(`applyReplacements_perm`). A replacement may well hold its own target.
-/

namespace Graft

namespace Replacement

/-- The targets keep clear of each other and of what takes the other's
place. -/
structure Independent (a b : Replacement) : Prop where
  targets : ¬ Text.Overlaps a.target b.target
  left : ¬ Text.Overlaps a.replacement b.target
  right : ¬ Text.Overlaps b.replacement a.target

instance (a b : Replacement) : Decidable (Independent a b) :=
  decidable_of_iff (¬ Text.Overlaps a.target b.target ∧ ¬ Text.Overlaps a.replacement b.target ∧
      ¬ Text.Overlaps b.replacement a.target)
    ⟨fun ⟨h, hl, hr⟩ => ⟨h, hl, hr⟩, fun h => ⟨h.targets, h.left, h.right⟩⟩

theorem Independent.symm {a b : Replacement} (h : Independent a b) : Independent b a :=
  ⟨mt Text.overlaps_comm.1 h.targets, h.right, h.left⟩

/-- A replacement leaves the targets of its peers where they are. -/
theorem Independent.infix_replaceAll_iff {a b : Replacement} (h : Independent a b)
    {content : Text} :
    b.target <:+: Text.replaceAll a.target a.replacement content ↔ b.target <:+: content :=
  Text.infix_replaceAll_iff h.targets h.left

end Replacement

open Replacement

variable {content : Text} {rs : List Replacement}

/-! ## One replacement after another -/

@[simp] theorem applyReplacements_nil : applyReplacements content [] = .ok content := rfl

theorem applyReplacements_cons_of_present {r : Replacement} (h : r.target <:+: content) :
    applyReplacements content (r :: rs) =
      applyReplacements (Text.replaceAll r.target r.replacement content) rs :=
  foldlM_cons_of_ok (replaceEvery_of_present h)

theorem applyReplacements_cons_of_missing {r : Replacement} (h : ¬ r.target <:+: content) :
    applyReplacements content (r :: rs) = .error (.markerNotFound r.target none) :=
  foldlM_cons_of_error (replaceEvery_of_missing h)

/-- **A list goes through where its first target stands and the rest goes through
after it.** -/
theorem applyReplacements_cons_eq_ok_iff {r : Replacement} {out : Text} :
    applyReplacements content (r :: rs) = .ok out ↔ r.target <:+: content ∧
      applyReplacements (Text.replaceAll r.target r.replacement content) rs = .ok out := by
  by_cases h : r.target <:+: content
  · rw [applyReplacements_cons_of_present h]
    exact (and_iff_right h).symm
  · rw [applyReplacements_cons_of_missing h]
    simp [h]

/-! ## Independent replacements -/

/-- What a list of replacements does with each of them. -/
abbrev Replacement.make (content : Text) (r : Replacement) : Except Error Text :=
  replaceEvery content r.target r.replacement

theorem guarded_replacement : Guarded Replacement.make target where
  present h := ⟨_, replaceEvery_of_present h⟩
  missing h := replaceEvery_of_missing h

/-- Independent replacements are apart. -/
theorem Replacement.Independent.apart {a b : Replacement} (h : Independent a b) :
    Apart Replacement.make target a b where
  left hout := by
    obtain ⟨-, rfl⟩ := replaceEvery_eq_ok_iff.1 hout
    exact h.infix_replaceAll_iff
  right hout := by
    obtain ⟨-, rfl⟩ := replaceEvery_eq_ok_iff.1 hout
    exact h.symm.infix_replaceAll_iff
  swap {content} ha hb := by
    -- each of the two still finds its target when the other has been made
    have hb' := h.infix_replaceAll_iff.2 hb
    have ha' := h.symm.infix_replaceAll_iff.2 ha
    rw [make, make, replaceEvery_of_present ha, replaceEvery_of_present hb]
    calc make (Text.replaceAll a.target a.replacement content) b
        = .ok (Text.replaceAll b.target b.replacement
            (Text.replaceAll a.target a.replacement content)) := replaceEvery_of_present hb'
      _ = .ok (Text.replaceAll a.target a.replacement
            (Text.replaceAll b.target b.replacement content)) := by
          rw [Text.replaceAll_comm h.symm.targets h.right h.left]
      _ = make (Text.replaceAll b.target b.replacement content) a :=
          (replaceEvery_of_present ha').symm

/-- The first of independent replacements leaves the targets of the others
where they are. -/
theorem forall_infix_replaceAll_iff {r : Replacement} (hind : ∀ b ∈ rs, Independent r b) :
    (∀ b ∈ rs, b.target <:+: Text.replaceAll r.target r.replacement content) ↔
      ∀ b ∈ rs, b.target <:+: content :=
  forall₂_congr fun b hb => (hind b hb).infix_replaceAll_iff

/-- **Independent replacements go through where all targets stand in the
text one began with.** -/
theorem exists_applyReplacements_eq_ok_iff (hind : rs.Pairwise Independent) :
    (∃ out, applyReplacements content rs = .ok out) ↔ ∀ r ∈ rs, r.target <:+: content :=
  guarded_replacement.exists_foldlM_eq_ok_iff (hind.imp Independent.apart)

/-- **Where they fail, the first target missing from the text one began with
is blamed.** -/
theorem exists_missing_of_applyReplacements_eq_error (hind : rs.Pairwise Independent)
    {error : Error} (h : applyReplacements content rs = .error error) :
    ∃ before r after, rs = before ++ r :: after ∧ (∀ b ∈ before, b.target <:+: content) ∧
      ¬ r.target <:+: content ∧ error = .markerNotFound r.target none :=
  guarded_replacement.exists_missing_of_foldlM_eq_error (hind.imp Independent.apart) h

/-- Where all targets are there, every order comes to the same. -/
theorem applyReplacements_eq_of_perm {order : List Replacement} (hperm : order.Perm rs)
    (hind : rs.Pairwise Independent) (hall : ∀ r ∈ rs, r.target <:+: content) :
    applyReplacements content order = applyReplacements content rs :=
  guarded_replacement.foldlM_eq_of_perm hperm (hind.imp Independent.apart) hall

/-- **Independent replacements can be made in any order.** Whether they go
through is decided by the text one began with, every order that goes through
comes to one text, and an order that fails blames the first of its targets
that is missing from that text. -/
theorem applyReplacements_perm (hind : rs.Pairwise Independent) (content : Text) :
    ∃ out, ∀ order : List Replacement, order.Perm rs →
      ((∃ result, applyReplacements content order = .ok result) ↔
        ∀ r ∈ order, r.target <:+: content) ∧
      (∀ result, applyReplacements content order = .ok result → result = out) ∧
      ∀ error, applyReplacements content order = .error error →
        ∃ before r after, order = before ++ r :: after ∧ (∀ b ∈ before, b.target <:+: content) ∧
          ¬ r.target <:+: content ∧ error = .markerNotFound r.target none := by
  obtain ⟨out, hout⟩ : ∃ out, ∀ result, applyReplacements content rs = .ok result →
      result = out := by
    cases applyReplacements content rs with
    | error error => exact ⟨[], fun result h => nomatch h⟩
    | ok out => exact ⟨out, fun result h => (Except.ok.inj h).symm⟩
  refine ⟨out, fun order hperm => ?_⟩
  have hind' : order.Pairwise Independent := (hperm.pairwise_iff fun h => h.symm).2 hind
  refine ⟨exists_applyReplacements_eq_ok_iff hind', fun result h => hout result ?_,
    fun error h => exists_missing_of_applyReplacements_eq_error hind' h⟩
  have hall : ∀ r ∈ order, r.target <:+: content :=
    (exists_applyReplacements_eq_ok_iff hind').1 ⟨result, h⟩
  rw [← applyReplacements_eq_of_perm hperm hind fun r hr => hall r (hperm.mem_iff.2 hr), h]

/-- A target that overlaps itself, one that its own replacement holds, and a
third: six orders, one text. -/
theorem applyReplacements_perm_of_three :
    let rs : List Replacement :=
      [⟨"aa".toList, "aaa".toList⟩, ⟨"x".toList, "yx".toList⟩, ⟨"q".toList, "-".toList⟩]
    rs.Pairwise Independent ∧
      ∃ out, ∀ order : List Replacement, order.Perm rs →
        applyReplacements "xaaaqxq".toList order = .ok out := by
  intro rs
  have hind : rs.Pairwise Independent := by decide +kernel
  have hall : ∀ r ∈ rs, r.target <:+: "xaaaqxq".toList := by decide +kernel
  refine ⟨hind, ?_⟩
  obtain ⟨out, hout⟩ := applyReplacements_perm hind "xaaaqxq".toList
  refine ⟨out, fun order hperm => ?_⟩
  obtain ⟨hiff, hsame, -⟩ := hout order hperm
  obtain ⟨result, h⟩ := hiff.2 fun r hr => hall r (hperm.mem_iff.1 hr)
  rw [h, hsame result h]

end Graft
