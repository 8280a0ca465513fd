import Graft.Error
import Mathlib.Data.List.Infix
import Mathlib.Data.List.Perm.Basic

/-!
# Guarded steps

A *guarded step* makes another text of a text in which its marker stands, and blames
the marker where it does not. A list of such steps runs one after another, each on what
the one before left, so a step looks for its marker in a text that others have changed.

Two steps are `Apart` when neither makes nor unmakes an occurrence of the other's marker
and, where both markers stand, either may go first. Of steps that are all apart from each
other the text one began with decides everything: whether they go through
(`Guarded.exists_foldlM_eq_ok_iff`), which marker is blamed if they do not
(`Guarded.exists_missing_of_foldlM_eq_error`), and, as every order comes to one text
(`Guarded.foldlM_eq_of_perm`), what they come to.
-/

namespace Graft

variable {α : Type} {step : Text → α → Except Error Text} {marker : α → Text}
variable {content out : Text} {steps : List α} {a b : α}

/-- Each step goes through where its marker stands, and elsewhere blames its marker. -/
structure Guarded (step : Text → α → Except Error Text) (marker : α → Text) : Prop where
  present {content : Text} {a : α} (h : marker a <:+: content) : ∃ out, step content a = .ok out
  missing {content : Text} {a : α} (h : ¬ marker a <:+: content) :
    step content a = .error (.markerNotFound (marker a) none)

/-- Neither step makes or unmakes an occurrence of the other's marker, and where both
markers stand either may go first. -/
structure Apart (step : Text → α → Except Error Text) (marker : α → Text) (a b : α) : Prop where
  left {content out : Text} (h : step content a = .ok out) :
    marker b <:+: out ↔ marker b <:+: content
  right {content out : Text} (h : step content b = .ok out) :
    marker a <:+: out ↔ marker a <:+: content
  swap {content : Text} (ha : marker a <:+: content) (hb : marker b <:+: content) :
    (step content a >>= fun out => step out b) = step content b >>= fun out => step out a

theorem Apart.symm (h : Apart step marker a b) : Apart step marker b a :=
  ⟨h.right, h.left, fun hb ha => (h.swap ha hb).symm⟩

/-! ## One step after another -/

theorem foldlM_cons_of_ok (h : step content a = .ok out) :
    (a :: steps).foldlM step content = steps.foldlM step out := by
  rw [List.foldlM_cons, h]
  rfl

theorem foldlM_cons_of_error {error : Error} (h : step content a = .error error) :
    (a :: steps).foldlM step content = .error error := by
  rw [List.foldlM_cons, h]
  rfl

/-- Two steps that come to the same in either order may change places in a list. -/
theorem foldlM_swap
    (h : (step content a >>= fun out => step out b) = step content b >>= fun out => step out a) :
    (a :: b :: steps).foldlM step content = (b :: a :: steps).foldlM step content := by
  simp only [List.foldlM_cons, ← bind_assoc, h]

/-! ## Steps that are apart -/

namespace Guarded

/-- **Steps that are apart go through where all their markers stand in the text one
began with.** -/
theorem exists_foldlM_eq_ok_iff (hg : Guarded step marker)
    (happart : steps.Pairwise (Apart step marker)) :
    (∃ out, steps.foldlM step content = .ok out) ↔ ∀ a ∈ steps, marker a <:+: content := by
  induction steps generalizing content with
  | nil => exact ⟨fun _ => List.forall_mem_nil _, fun _ => ⟨content, rfl⟩⟩
  | cons a steps ih =>
    obtain ⟨ha, happart⟩ := List.pairwise_cons.1 happart
    by_cases hmem : marker a <:+: content
    · obtain ⟨out, hout⟩ := hg.present hmem
      rw [foldlM_cons_of_ok hout, ih happart, List.forall_mem_cons, and_iff_right hmem]
      exact forall₂_congr fun b hb => (ha b hb).left hout
    · rw [foldlM_cons_of_error (hg.missing hmem)]
      simp [hmem]

/-- **Where they fail, the first marker missing from the text one began with is
blamed.** -/
theorem exists_missing_of_foldlM_eq_error (hg : Guarded step marker)
    (happart : steps.Pairwise (Apart step marker)) {error : Error}
    (h : steps.foldlM step content = .error error) :
    ∃ before a after, steps = before ++ a :: after ∧ (∀ b ∈ before, marker b <:+: content) ∧
      ¬ marker a <:+: content ∧ error = .markerNotFound (marker a) none := by
  induction steps generalizing content with
  | nil => cases h
  | cons a steps ih =>
    obtain ⟨ha, happart⟩ := List.pairwise_cons.1 happart
    by_cases hmem : marker a <:+: content
    · obtain ⟨out, hout⟩ := hg.present hmem
      rw [foldlM_cons_of_ok hout] at h
      obtain ⟨before, c, after, rfl, hbefore, hmissing, herror⟩ := ih happart h
      refine ⟨a :: before, c, after, rfl, List.forall_mem_cons.2 ⟨hmem, fun b hb => ?_⟩, ?_, herror⟩
      · exact ((ha b (by simp [hb])).left hout).1 (hbefore b hb)
      · exact mt ((ha c (by simp)).left hout).2 hmissing
    · rw [foldlM_cons_of_error (hg.missing hmem)] at h
      cases h
      exact ⟨[], a, steps, rfl, List.forall_mem_nil _, hmem, rfl⟩

/-- **Where all markers stand, every order comes to the same.** -/
theorem foldlM_eq_of_perm (hg : Guarded step marker) {order : List α} (hperm : order.Perm steps)
    (happart : steps.Pairwise (Apart step marker)) (hall : ∀ a ∈ steps, marker a <:+: content) :
    order.foldlM step content = steps.foldlM step content := by
  induction hperm generalizing content with
  | nil => rfl
  | @cons a order steps _ ih =>
    obtain ⟨ha, happart⟩ := List.pairwise_cons.1 happart
    obtain ⟨hmem, hall⟩ := List.forall_mem_cons.1 hall
    obtain ⟨out, hout⟩ := hg.present hmem
    rw [foldlM_cons_of_ok hout, foldlM_cons_of_ok hout]
    exact ih happart fun b hb => ((ha b hb).left hout).2 (hall b hb)
  | swap a b steps =>
    obtain ⟨hab, -⟩ := List.pairwise_cons.1 happart
    exact foldlM_swap ((hab b (by simp)).symm.swap (hall b (by simp)) (hall a (by simp)))
  | @trans order middle steps _ hsecond ihfirst ihsecond =>
    -- what is apart in one order is so in every order
    have hmiddle : middle.Pairwise (Apart step marker) :=
      (hsecond.pairwise_iff fun h => h.symm).2 happart
    rw [ihfirst hmiddle fun a ha => hall a (hsecond.mem_iff.1 ha), ihsecond happart hall]

end Guarded

end Graft
