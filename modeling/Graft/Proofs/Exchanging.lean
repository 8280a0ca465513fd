import Graft.Proofs.Counting
import Graft.Proofs.Stretches
import Mathlib.Order.Bounds.Basic

/-!
# What an exchange leaves behind

An exchange of every occurrence can be asked three things. Whether it can be taken
back, by exchanging what was put in: it can where the replacement has a character
that is new to the text, as the copies that were put in are then the only
occurrences in the result (`replaceEvery_back`). Whether it has taken the target
away: it has where the replacement keeps clear of the target
(`replaceEvery_clean`). And how often the replacement now stands in the text: as
often as the target did, or more often where it also arises at a seam
(`hits_of_replaceEvery`).

`hits` counts the occurrences one comes by in going through a text from left to
right, each behind the end of the one before. No choice of occurrences of which no
two overlap has more of them (`isGreatest_hits`), so the copies that were put in
cannot be more than are counted, wherever the count finds its own.
-/

namespace Graft

namespace Text

variable {marker target replacement content before after front back first : Text}
variable {stretches others : List Text} {c : Char}

/-! ## A character that is new -/

/-- What lacks a character of the marker may come before its first occurrence. -/
theorem precedes_of_fresh (hc : c ∈ marker) (hnew : c ∉ front) : Precedes front marker := by
  intro x hx hs hbegins
  have hxnew : c ∉ x := fun hmem => hnew (hs.subset hmem)
  -- the character would come first in the marker, and as far behind as `x` is long
  have hplace : marker.idxOf c = x.length + marker.idxOf c := by
    rw [← List.idxOf_append_of_notMem hxnew]
    exact hbegins.idxOf_eq_of_mem hc
  have hpos := List.length_pos_iff.2 hx
  omega

/-- **A marker with a character that the stretches lack parts what it joined.** -/
theorem parted_intercalate (hc : c ∈ marker) (hne : stretches ≠ [])
    (hnew : ∀ stretch ∈ stretches, c ∉ stretch) :
    Parted marker (marker.intercalate stretches) stretches := by
  induction stretches with
  | nil => exact absurd rfl hne
  | cons first others ih =>
    obtain ⟨hfirst, hnew⟩ := List.forall_mem_cons.1 hnew
    by_cases hothers : others = []
    · rw [hothers, List.intercalate_singleton]
      exact .whole fun hstands => hfirst (hstands.subset hc)
    · rw [List.intercalate_cons_of_ne_nil hothers]
      exact .found (precedes_of_fresh hc hfirst).isFirstCut (ih hothers hnew)

/-- So a search in the result of an exchange finds the copies that were put in, and
nothing else. -/
theorem parted_replaceAll (hc : c ∈ replacement) (hnew : c ∉ content) :
    Parted replacement (replaceAll target replacement content) (segments target content) := by
  obtain ⟨first, others, hsegments, -⟩ := exists_segments_eq_cons target content
  refine parted_intercalate hc (by simp [hsegments]) fun stretch hstretch hmem => hnew ?_
  rw [← intercalate_segments target content]
  exact (infix_intercalate target hstretch).subset hmem

/-! ## Occurrences one behind the other -/

/-- How many occurrences of `marker` one comes by from left to right, each behind the
end of the one before. The empty marker is met before every code point and once at
the end. -/
def hits (marker : Text) : Text → Nat
  | [] => if marker = [] then 1 else 0
  | c :: rest =>
    if marker.isPrefixOf (c :: rest) then hits marker (rest.drop (marker.length - 1)) + 1
    else hits marker rest
termination_by content => content.length
decreasing_by
  · simp only [List.length_drop, List.length_cons]
    omega
  · exact Nat.lt_succ_self _

theorem hits_cons_of_hit {rest : Text} (h : marker <+: c :: rest) :
    hits marker (c :: rest) = hits marker (rest.drop (marker.length - 1)) + 1 := by
  rw [hits, if_pos (List.isPrefixOf_iff_prefix.2 h)]

theorem hits_cons_of_miss {rest : Text} (h : ¬ marker <+: c :: rest) :
    hits marker (c :: rest) = hits marker rest := by
  rw [hits, if_neg (mt List.isPrefixOf_iff_prefix.1 h)]

theorem hits_empty (content : Text) : hits [] content = content.length + 1 := by
  induction content with
  | nil => rw [hits, if_pos rfl, List.length_nil]
  | cons c rest ih =>
    rw [hits_cons_of_hit List.nil_prefix, List.length_nil, List.drop_zero, ih, List.length_cons]

theorem hits_of_missing (h : ¬ marker <:+: content) : hits marker content = 0 := by
  induction content with
  | nil => rw [hits, if_neg (by simpa using h)]
  | cons c rest ih =>
    rw [List.infix_cons_iff, not_or] at h
    rw [hits_cons_of_miss h.1, ih h.2]

theorem Precedes.hits_append (h : Precedes front marker) (hm : marker ≠ []) :
    hits marker (front ++ (marker ++ back)) = hits marker back + 1 := by
  induction front with
  | nil =>
    obtain ⟨c, rest, rfl⟩ := List.exists_cons_of_ne_nil hm
    have hbegins : c :: rest <+: c :: (rest ++ back) := List.prefix_append (c :: rest) back
    rw [List.nil_append, List.cons_append, hits_cons_of_hit hbegins, List.length_cons,
      Nat.add_sub_cancel, List.drop_left]
  | cons c front ih =>
    have hno : ¬ marker <+: c :: (front ++ (marker ++ back)) :=
      h.not_prefix_append (by simp) (List.suffix_refl (c :: front))
    rw [List.cons_append, hits_cons_of_miss hno, ih (precedes_cons_iff.1 h).2]

/-- The first occurrence is hit, and then those behind it. -/
theorem IsFirstCut.hits_eq (h : IsFirstCut marker content before after) (hm : marker ≠ []) :
    hits marker content = hits marker after + 1 := by
  rw [h.parts, List.append_assoc, h.precedes.hits_append hm]

/-- Between `n` hits and around them lie `n + 1` stretches. -/
theorem Parted.length_eq (h : Parted marker content stretches) (hm : marker ≠ []) :
    stretches.length = hits marker content + 1 := by
  induction h with
  | whole habsent => rw [hits_of_missing habsent, List.length_singleton]
  | found hfirst _ ih => rw [List.length_cons, ih, hfirst.hits_eq hm]

theorem length_segments (marker content : Text) :
    (segments marker content).length = hits marker content + 1 := by
  by_cases hm : marker = []
  · rw [hm, hits_empty, segments, dif_pos rfl]
    simp
  · rw [segments, dif_neg hm]
    exact (parted_segmentsOf hm content).length_eq hm

/-- Occurrences of which no two overlap are no more than are hit, also where other
text comes before: behind the first hit lie all of them but the first. -/
theorem length_le_hits (hm : marker ≠ [])
    (h : marker.intercalate (first :: others) <:+ content) :
    others.length ≤ hits marker content := by
  induction others generalizing first content with
  | nil => exact Nat.zero_le _
  | cons next others ih =>
    obtain ⟨lead, rfl⟩ := h
    obtain ⟨before, after, hfirst, hbehind⟩ :=
      exists_isFirstCut_before marker (lead ++ first) (marker.intercalate (next :: others))
    have hcontent : lead ++ marker.intercalate (first :: next :: others) =
        lead ++ first ++ marker ++ marker.intercalate (next :: others) := by
      simp only [List.intercalate_cons_cons, List.append_assoc]
    rw [hcontent, hfirst.hits_eq hm, List.length_cons]
    exact Nat.succ_le_succ (ih hbehind)

/-- **From left to right one hits as many occurrences as can stand in a text side by
side.** -/
theorem isGreatest_hits (hm : marker ≠ []) (content : Text) :
    IsGreatest {n | ∃ first others, marker.intercalate (first :: others) = content ∧
      others.length = n} (hits marker content) := by
  constructor
  · have hparted := parted_segmentsOf hm content
    obtain ⟨first, others, hsegments⟩ := hparted.exists_eq_cons
    rw [hsegments] at hparted
    exact ⟨first, others, hparted.intercalate_eq, Nat.succ.inj (hparted.length_eq hm)⟩
  · rintro n ⟨first, others, rfl, rfl⟩
    exact length_le_hits hm (List.suffix_refl _)

end Text

open Text

variable {content target replacement out : Text}

/-! ## Taking an exchange back -/

/-- **An exchange for a text with a new character can be taken back**, by exchanging
the replacement for the target. The target may be empty, and the replacement may
overlap itself. -/
theorem replaceEvery_back {c : Char} (hc : c ∈ replacement) (hnew : c ∉ content)
    (h : replaceEvery content target replacement = .ok out) :
    replaceEvery out replacement target = .ok content := by
  obtain ⟨hstands, rfl⟩ := replaceEvery_eq_ok_iff.1 h
  have hparted : Parted replacement (replaceAll target replacement content)
      (segments target content) := parted_replaceAll hc hnew
  obtain ⟨first, others, hsegments, hothers⟩ := exists_segments_eq_cons target content
  rw [replaceEvery_eq_ok_iff]
  constructor
  · rw [hsegments] at hparted
    exact hparted.infix_iff.2 (hothers.1 hstands)
  · rw [hparted.replaceAll_eq (List.ne_nil_of_mem hc), intercalate_segments]

/-- The empty target, and a replacement that overlaps itself and the text. -/
theorem replaceEvery_back_of_empty :
    let content : Text := "aba".toList
    let replacement : Text := "a-a".toList
    let out : Text := "a-aaa-aba-aaa-a".toList
    '-' ∈ replacement ∧ '-' ∉ content ∧ replaceEvery content [] replacement = .ok out ∧
      replaceEvery out replacement [] = .ok content := by
  intro content replacement out
  have hc : '-' ∈ replacement := by decide
  have hnew : '-' ∉ content := by decide
  have h : replaceEvery content [] replacement = .ok out := by decide +kernel
  exact ⟨hc, hnew, h, replaceEvery_back hc hnew h⟩

/-! ## Taking the target away -/

/-- **An exchange for a text that keeps clear of the target leaves none of it**, not
even across a seam between what was put in and what was left. So the target cannot be
exchanged again, for this text or any other. -/
theorem replaceEvery_clean (hclear : ¬ Overlaps replacement target)
    (h : replaceEvery content target replacement = .ok out) :
    ¬ target <:+: out ∧
      ∀ other, replaceEvery out target other = .error (.markerNotFound target none) := by
  obtain ⟨-, rfl⟩ := replaceEvery_eq_ok_iff.1 h
  have hgone : ¬ target <:+: replaceAll target replacement content := by
    rw [← occurrences_eq_zero_iff]
    exact occurrences_replaceAll_self hclear
  exact ⟨hgone, fun other => replaceEvery_of_missing hgone⟩

/-- A target that overlaps itself in the text, and of which a part is left. -/
theorem replaceEvery_clean_of_overlap :
    let content : Text := "ababaaba".toList
    let target : Text := "aba".toList
    let replacement : Text := "cc".toList
    let out : Text := "ccbacc".toList
    ¬ Overlaps replacement target ∧ replaceEvery content target replacement = .ok out ∧
      ¬ target <:+: out ∧
      replaceEvery out target replacement = .error (.markerNotFound target none) := by
  intro content target replacement out
  have hclear : ¬ Overlaps replacement target := by decide +kernel
  have h : replaceEvery content target replacement = .ok out := by decide +kernel
  obtain ⟨hgone, hagain⟩ := replaceEvery_clean hclear h
  exact ⟨hclear, h, hgone, hagain replacement⟩

/-! ## Counting what was put in -/

/-- **The replacement is hit as often as the target was, or more often**, and not more
often where it has a character that is new to the text. -/
theorem hits_of_replaceEvery (hne : replacement ≠ [])
    (h : replaceEvery content target replacement = .ok out) :
    hits target content ≤ hits replacement out ∧
      ((∃ c ∈ replacement, c ∉ content) → hits replacement out = hits target content) := by
  obtain ⟨-, rfl⟩ := replaceEvery_eq_ok_iff.1 h
  have hlength := length_segments target content
  constructor
  · obtain ⟨first, others, hsegments, -⟩ := exists_segments_eq_cons target content
    rw [hsegments, List.length_cons, Nat.add_right_cancel_iff] at hlength
    refine (isGreatest_hits hne _).2 ⟨first, others, ?_, hlength⟩
    rw [← hsegments, replaceAll]
  · rintro ⟨c, hc, hnew⟩
    have hparted : Parted replacement (replaceAll target replacement content)
        (segments target content) := parted_replaceAll hc hnew
    have hput := hparted.length_eq hne
    omega

/-- A replacement that arises at a seam too, and the empty target. -/
theorem hits_of_replaceEvery_of_seam :
    let content : Text := "aXa".toList
    (∃ out, replaceEvery content "X".toList "aa".toList = .ok out ∧
      hits "X".toList content ≤ hits "aa".toList out ∧
      hits "X".toList content = 1 ∧ hits "aa".toList out = 2) ∧
    ∃ out, replaceEvery content [] "a-".toList = .ok out ∧
      hits "a-".toList out = hits [] content ∧ hits [] content = 4 := by
  intro content
  constructor
  · have h : replaceEvery content "X".toList "aa".toList = .ok "aaaa".toList := by decide +kernel
    exact ⟨_, h, (hits_of_replaceEvery (by decide) h).1, by decide +kernel, by decide +kernel⟩
  · have h : replaceEvery content [] "a-".toList = .ok "a-aa-Xa-aa-".toList := by decide +kernel
    exact ⟨_, h, (hits_of_replaceEvery (by decide) h).2 ⟨'-', by decide, by decide⟩,
      hits_empty content⟩

end Graft
