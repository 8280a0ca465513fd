import Graft.Proofs.Splicing
import Graft.Text.Utf8
import Mathlib.Tactic.Ring

/-!
# What lies between the occurrences

A marker that is not empty parts a text into stretches: what stands before its
first occurrence, what stands before the first occurrence in the rest, and so on
to a rest in which it does not stand. `Parted` says this without a word on how an
occurrence is found, and says it of one list of stretches only
(`Parted.unique`), also where occurrences overlap.

To exchange the marker is to put another text between the stretches. They are
those of the text one began with, whatever is put between them, so nothing of it
is searched again (`replaceEvery_by_stretches`).
-/

namespace Graft

namespace Text

variable {marker content first : Text} {stretches others : List Text}

/-! ## Stretches -/

/-- These are the stretches of a text between the occurrences of a marker, each
occurrence the first in what is left of the text. -/
inductive Parted (marker : Text) : Text → List Text → Prop
  /-- A text in which the marker does not stand is one stretch. -/
  | whole {content : Text} (habsent : ¬ marker <:+: content) : Parted marker content [content]
  /-- What stands before the first occurrence, and the stretches of what stands
  behind it. -/
  | found {content before after : Text} {others : List Text}
      (hfirst : IsFirstCut marker content before after) (hothers : Parted marker after others) :
      Parted marker content (before :: others)

/-- **A text has one parting only.** -/
theorem Parted.unique {stretches' : List Text} (h : Parted marker content stretches)
    (h' : Parted marker content stretches') : stretches = stretches' := by
  induction h generalizing stretches' with
  | whole habsent =>
    cases h' with
    | whole _ => rfl
    | found hfirst _ => exact absurd hfirst.isInfix habsent
  | found hfirst _ ih =>
    cases h' with
    | whole habsent => exact absurd hfirst.isInfix habsent
    | found hfirst' hothers' =>
      obtain ⟨rfl, rfl⟩ := hfirst.unique hfirst'
      rw [ih hothers']

/-- **The search finds the parting.** -/
theorem parted_segmentsOf (hm : marker ≠ []) (content : Text) :
    Parted marker content (segmentsOf marker hm content) := by
  induction content using segmentsOf.induct marker hm with
  | case1 content hcut =>
    rw [segmentsOf_of_cut?_eq_none hcut]
    exact .whole (cut?_eq_none_iff.1 hcut)
  | case2 content before after hcut _ ih =>
    rw [segmentsOf_of_cut?_eq_some hcut]
    exact .found (cut?_eq_some_iff.1 hcut) ih

theorem Parted.exists_eq_cons (h : Parted marker content stretches) :
    ∃ first others, stretches = first :: others := by
  cases h with
  | whole _ => exact ⟨_, _, rfl⟩
  | found _ _ => exact ⟨_, _, rfl⟩

/-- The marker between the stretches gives the text back. -/
theorem Parted.intercalate_eq (h : Parted marker content stretches) :
    marker.intercalate stretches = content := by
  induction h with
  | whole _ => exact List.intercalate_singleton
  | found hfirst hothers ih =>
    obtain ⟨next, more, rfl⟩ := hothers.exists_eq_cons
    rw [List.intercalate_cons_cons, ih, hfirst.parts]

/-- Where there is only one stretch the marker does not stand. -/
theorem Parted.infix_iff (h : Parted marker content (first :: others)) :
    marker <:+: content ↔ others ≠ [] := by
  cases h with
  | whole habsent => simp [habsent]
  | found hfirst hothers =>
    obtain ⟨next, more, rfl⟩ := hothers.exists_eq_cons
    simp [hfirst.isInfix]

/-! ## Another text between them -/

/-- To exchange a marker is to put the other text between the stretches. -/
theorem Parted.replaceAll_eq (h : Parted marker content stretches) (hm : marker ≠ [])
    (replacement : Text) :
    replaceAll marker replacement content = replacement.intercalate stretches := by
  rw [replaceAll, segments, dif_neg hm, (parted_segmentsOf hm content).unique h]

theorem byteLength_intercalate (separator first : Text) (others : List Text) :
    byteLength (separator.intercalate (first :: others)) =
      byteLength first + (others.map byteLength).sum + others.length * byteLength separator := by
  induction others generalizing first with
  | nil => simp
  | cons next others ih =>
    rw [List.intercalate_cons_cons, byteLength_append, byteLength_append, ih next, List.map_cons,
      List.sum_cons, List.length_cons, Nat.succ_mul]
    omega

/-- Every separator that is exchanged adds the difference of the two. -/
theorem byteLength_intercalate_eq (separator other first : Text) (others : List Text) :
    (byteLength (other.intercalate (first :: others)) : ℤ) =
      byteLength (separator.intercalate (first :: others)) +
        others.length * ((byteLength other : ℤ) - byteLength separator) := by
  rw [byteLength_intercalate, byteLength_intercalate]
  push_cast
  ring

/-- The empty marker stands before every code point and once at the end. -/
theorem replaceAll_empty (replacement content : Text) :
    replaceAll [] replacement content =
      content.flatMap (fun c => replacement ++ [c]) ++ replacement := by
  have hend (first : Text) : replacement.intercalate (first :: (content.map ([·]) ++ [[]])) =
      first ++ (content.flatMap (fun c => replacement ++ [c]) ++ replacement) := by
    induction content generalizing first with
    | nil => simp
    | cons c rest ih =>
      rw [List.map_cons, List.cons_append, List.intercalate_cons_cons, ih]
      simp only [List.flatMap_cons, List.append_assoc]
  exact hend []

/-! ## Of any marker -/

/-- What a marker is put between stands in the whole. -/
theorem infix_intercalate {stretch : Text} (separator : Text) (h : stretch ∈ stretches) :
    stretch <:+: separator.intercalate stretches := by
  induction stretches with
  | nil => cases h
  | cons first others ih =>
    by_cases hothers : others = []
    · rw [hothers] at h ⊢
      rw [List.mem_singleton.1 h, List.intercalate_singleton]
    · rw [List.intercalate_cons_of_ne_nil hothers, List.append_assoc]
      rcases List.mem_cons.1 h with rfl | h
      · exact (List.prefix_append _ _).isInfix
      · exact ((ih h).trans (List.suffix_append _ _).isInfix).trans (List.suffix_append _ _).isInfix

/-- The marker between the stretches gives the text back, also the empty one. -/
theorem intercalate_segments (marker content : Text) :
    marker.intercalate (segments marker content) = content := by
  by_cases hm : marker = []
  · have hempty : replaceAll [] [] content = content := by simp [replaceAll_empty]
    rwa [replaceAll, ← hm] at hempty
  · rw [segments, dif_neg hm]
    exact (parted_segmentsOf hm content).intercalate_eq

/-- A text has more than one stretch exactly where the marker stands in it. -/
theorem exists_segments_eq_cons (marker content : Text) : ∃ first others,
    segments marker content = first :: others ∧ (marker <:+: content ↔ others ≠ []) := by
  by_cases hm : marker = []
  · rw [hm]
    exact ⟨[], content.map ([·]) ++ [[]], rfl, by simp⟩
  · have hparted := parted_segmentsOf hm content
    obtain ⟨first, others, hsegments⟩ := hparted.exists_eq_cons
    rw [hsegments] at hparted
    exact ⟨first, others, by rw [segments, dif_neg hm, hsegments], hparted.infix_iff⟩

end Text

open Text

/-- **What stands between the occurrences stays, and only the occurrences are
exchanged.** A target that is not empty parts a text into stretches, in one way
only, before anything is said of the replacement. Where there is no more than one
stretch the target is missing and is blamed; otherwise the replacement stands
between the stretches instead of the target, in as many places, and whatever it
holds is not searched again. The empty target is always there: the replacement
comes before every code point and once at the end. -/
theorem replaceEvery_by_stretches (content : Text) :
    (∀ target : Text, target ≠ [] → ∃ first others,
      (∀ stretches, Parted target content stretches ↔ stretches = first :: others) ∧
      target.intercalate (first :: others) = content ∧
      ∀ replacement,
        (others = [] →
          replaceEvery content target replacement = .error (.markerNotFound target none)) ∧
        (others ≠ [] → ∃ out, replaceEvery content target replacement = .ok out ∧
          out = replacement.intercalate (first :: others) ∧
          (byteLength out : ℤ) = byteLength content +
            others.length * ((byteLength replacement : ℤ) - byteLength target))) ∧
    ∀ replacement, replaceEvery content [] replacement =
      .ok (content.flatMap (fun c => replacement ++ [c]) ++ replacement) := by
  constructor
  · intro target hne
    have hparted := parted_segmentsOf hne content
    obtain ⟨first, others, hsegments⟩ := hparted.exists_eq_cons
    rw [hsegments] at hparted
    refine ⟨first, others, fun stretches => ?_, hparted.intercalate_eq, fun replacement => ?_⟩
    · exact ⟨fun h => h.unique hparted, fun h => h ▸ hparted⟩
    · constructor
      · intro hnone
        exact replaceEvery_of_missing fun hstands => hparted.infix_iff.1 hstands hnone
      · intro hsome
        refine ⟨_, replaceEvery_of_present (hparted.infix_iff.2 hsome),
          hparted.replaceAll_eq hne replacement, ?_⟩
        rw [hparted.replaceAll_eq hne, byteLength_intercalate_eq target, hparted.intercalate_eq]
  · intro replacement
    rw [replaceEvery_of_present List.nil_infix, replaceAll_empty]

/-- A target that overlaps itself, and a replacement that holds it. -/
theorem replaceEvery_by_stretches_of_overlap :
    let content : Text := "aaaXaa".toList
    let target : Text := "aa".toList
    target ≠ [] ∧ Parted target content [[], "aX".toList, []] ∧
      ∃ out, replaceEvery content target "aaa".toList = .ok out ∧ out = "aaaaXaaa".toList ∧
        (byteLength out : ℤ) = 8 := by
  intro content target
  have hne : target ≠ [] := by decide
  have hparted : Parted target content [[], "aX".toList, []] := by
    have hfirst : cut? target content = some ([], "aXaa".toList) := by decide +kernel
    have hsecond : cut? target "aXaa".toList = some ("aX".toList, []) := by decide +kernel
    have hlast : cut? target [] = none := by decide
    exact .found (cut?_eq_some_iff.1 hfirst) (.found (cut?_eq_some_iff.1 hsecond)
      (.whole (cut?_eq_none_iff.1 hlast)))
  obtain ⟨first, others, hunique, -, hreplace⟩ :=
    (replaceEvery_by_stretches content).1 target hne
  obtain ⟨rfl, rfl⟩ := List.cons.inj ((hunique _).1 hparted)
  obtain ⟨out, hout, rfl, hlength⟩ := (hreplace "aaa".toList).2 (by decide)
  exact ⟨hne, hparted, _, hout, by decide +kernel, by rw [hlength]; decide +kernel⟩

end Graft
