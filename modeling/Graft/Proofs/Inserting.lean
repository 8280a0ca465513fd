import Graft.Proofs.Guarded
import Graft.Proofs.Stretches

/-!
# Insertions

An insertion goes behind the first occurrence of its marker. To exchange the marker for
itself and the payload goes on from there, so the two agree as long as nothing is left to
exchange (`replaceEvery_extended`).

What an insertion puts in stands behind the first occurrence, which therefore stays the
first, whatever the payload holds. So insertions at one marker pile up behind it, the last
one foremost, and text that is added at the end is carried along (`splices_of_isFirstCut`).

Insertions at different markers can be made in any order where the markers keep clear of
each other and of the other's payload (`applyInsertions_perm`). They are guarded steps,
and it is left to show that they are apart: that the one neither makes nor unmakes the
other's marker (`infix_insertAfter_iff`) and that they commute (`insertAfter_swap`). For
the latter one of the two markers stands in front of the other, and the text falls into
the two and what stands around them (`insertAfter_swap_of_parts`).
-/

namespace Graft

open Text

variable {content marker payload target before after : Text}

/-! ## Insertion and exchange -/

/-- To put a payload behind every occurrence changes nothing exactly where the payload is
empty or there is no occurrence. -/
theorem replaceAll_extended_eq_self_iff (hne : target ≠ []) :
    replaceAll target (target ++ payload) content = content ↔
      payload = [] ∨ ¬ target <:+: content := by
  have hparted := parted_segmentsOf hne content
  obtain ⟨first, others, hsegments⟩ := hparted.exists_eq_cons
  rw [hsegments] at hparted
  rw [hparted.replaceAll_eq hne, hparted.infix_iff, not_not]
  constructor
  · intro hsame
    -- each occurrence has become longer by the payload
    have hlength := byteLength_intercalate_eq target (target ++ payload) first others
    rw [hsame, hparted.intercalate_eq, byteLength_append] at hlength
    have hnothing : others.length * byteLength payload = 0 := by
      push_cast at hlength
      rw [add_sub_cancel_left, left_eq_add] at hlength
      exact_mod_cast hlength
    rcases Nat.mul_eq_zero.1 hnothing with hnone | hempty
    · exact .inr (List.length_eq_zero_iff.1 hnone)
    · exact .inl (byteLength_eq_zero_iff.1 hempty)
  · rintro (rfl | rfl)
    · rw [List.append_nil, hparted.intercalate_eq]
    · rw [List.intercalate_singleton, ← hparted.intercalate_eq, List.intercalate_singleton]

/-- **To exchange a marker for itself and a payload is to insert the payload** where there
is none or the marker does not stand behind its first occurrence once more. Occurrences
that overlap the first do not count. -/
theorem replaceEvery_extended (hne : target ≠ []) (content payload : Text) :
    (¬ target <:+: content →
      replaceEvery content target (target ++ payload) = .error (.markerNotFound target none) ∧
        insertAfter content target payload = .error (.markerNotFound target none)) ∧
    ∀ before after, IsFirstCut target content before after →
      ∃ exchanged inserted,
        replaceEvery content target (target ++ payload) = .ok exchanged ∧
        insertAfter content target payload = .ok inserted ∧
        (exchanged = inserted ↔ payload = [] ∨ ¬ target <:+: after) := by
  refine ⟨fun h => ⟨replaceEvery_of_missing h, insertAfter_eq_error_iff.2 h⟩, ?_⟩
  intro before after hfirst
  refine ⟨_, _, replaceEvery_of_present hfirst.isInfix, insertAfter_of_isFirstCut hfirst, ?_⟩
  rw [replaceAll_of_cut?_eq_some hne (cut?_eq_some_iff.2 hfirst),
    ← replaceAll_extended_eq_self_iff hne]
  simp only [List.append_assoc, List.append_cancel_left_eq]

/-- An occurrence that overlaps the first one, and one behind it. -/
theorem replaceEvery_extended_of_overlap :
    let target : Text := "aa".toList
    let payload : Text := "-".toList
    target ≠ [] ∧
      (∃ out, replaceEvery "aaab".toList target (target ++ payload) = .ok out ∧
        insertAfter "aaab".toList target payload = .ok out) ∧
      ∃ exchanged inserted,
        replaceEvery "aabaa".toList target (target ++ payload) = .ok exchanged ∧
        insertAfter "aabaa".toList target payload = .ok inserted ∧ exchanged ≠ inserted := by
  intro target payload
  have hne : target ≠ [] := by decide
  have hoverlap : cut? target "aaab".toList = some ([], "ab".toList) := by decide +kernel
  have hbehind : cut? target "aabaa".toList = some ([], "baa".toList) := by decide +kernel
  refine ⟨hne, ?_, ?_⟩
  · obtain ⟨exchanged, inserted, hexchanged, hinserted, hsame⟩ :=
      (replaceEvery_extended hne _ payload).2 _ _ (cut?_eq_some_iff.1 hoverlap)
    obtain rfl : exchanged = inserted := hsame.2 (.inr (by decide +kernel))
    exact ⟨exchanged, hexchanged, hinserted⟩
  · obtain ⟨exchanged, inserted, hexchanged, hinserted, hsame⟩ :=
      (replaceEvery_extended hne _ payload).2 _ _ (cut?_eq_some_iff.1 hbehind)
    exact ⟨exchanged, inserted, hexchanged, hinserted, mt hsame.1 (by decide +kernel)⟩

/-! ## One insertion after another -/

/-- A marker and what is put behind it. -/
structure Insertion where
  marker : Text
  payload : Text
deriving DecidableEq, Repr

/-- What a list of insertions does with each of them. -/
abbrev Insertion.make (content : Text) (i : Insertion) : Except Error Text :=
  insertAfter content i.marker i.payload

/-- The text after a list of insertions, each into what the one before left. The first
missing marker is the error. -/
def applyInsertions (content : Text) (insertions : List Insertion) : Except Error Text :=
  insertions.foldlM Insertion.make content

theorem applyInsertions_of_isFirstCut (h : IsFirstCut marker content before after)
    (payloads : List Text) :
    applyInsertions content (payloads.map (⟨marker, ·⟩)) =
      .ok (before ++ marker ++ payloads.reverse.flatten ++ after) := by
  induction payloads generalizing content after with
  | nil =>
    have hsame : before ++ marker ++ ([] : List Text).reverse.flatten ++ after = content := by
      simp [h.parts]
    rw [hsame]
    rfl
  | cons payload payloads ih =>
    -- the payload goes to what stands behind the first occurrence
    have hnext : IsFirstCut marker (before ++ marker ++ (payload ++ after)) before
        (payload ++ after) := h.exchange (payload ++ after)
    have hinsert : insertAfter content marker payload =
        .ok (before ++ marker ++ (payload ++ after)) := by
      rw [insertAfter_of_isFirstCut h, List.append_assoc (before ++ marker)]
    calc applyInsertions content ((payload :: payloads).map (⟨marker, ·⟩))
        = applyInsertions (before ++ marker ++ (payload ++ after))
            (payloads.map (⟨marker, ·⟩)) := foldlM_cons_of_ok hinsert
      _ = .ok (before ++ marker ++ payloads.reverse.flatten ++ (payload ++ after)) := ih hnext
      _ = .ok (before ++ marker ++ (payload :: payloads).reverse.flatten ++ after) := by simp

/-- **Splices stay at the first occurrence**, whatever is put in behind it and whatever
text is added at the end. -/
theorem splices_of_isFirstCut (h : IsFirstCut marker content before after) :
    (∀ payloads : List Text, applyInsertions content (payloads.map (⟨marker, ·⟩)) =
      .ok (before ++ marker ++ payloads.reverse.flatten ++ after)) ∧
    ∀ tail,
      (∀ payload, ∃ out, insertAfter content marker payload = .ok out ∧
        insertAfter (content ++ tail) marker payload = .ok (out ++ tail)) ∧
      ∀ sign, ∃ out, uncomment content marker sign = some out ∧
        uncomment (content ++ tail) marker sign = some (out ++ tail) := by
  refine ⟨applyInsertions_of_isFirstCut h, fun tail => ?_⟩
  have hlonger := h.append tail
  constructor
  · intro payload
    refine ⟨_, insertAfter_of_isFirstCut h, ?_⟩
    rw [insertAfter_of_isFirstCut hlonger, List.append_assoc _ after]
  · intro sign
    refine ⟨_, uncomment_of_isFirstCut h, ?_⟩
    rw [uncomment_of_isFirstCut hlonger, List.append_assoc _ after]

/-- A marker that overlaps itself, payloads that hold it and complete it, a tail that
completes one more occurrence, and the empty marker. -/
theorem splices_of_isFirstCut_of_overlap :
    let content : Text := "baaba".toList
    let marker : Text := "aa".toList
    IsFirstCut marker content "b".toList "ba".toList ∧
      applyInsertions content [⟨marker, "aaa".toList⟩, ⟨marker, "a".toList⟩] =
        .ok "baaaaaaba".toList ∧
      (∃ out, uncomment content marker "a".toList = some out ∧
        uncomment (content ++ ['a']) marker "a".toList = some (out ++ ['a'])) ∧
      IsFirstCut [] content [] content ∧
      applyInsertions content [⟨[], "x".toList⟩, ⟨[], "y".toList⟩] = .ok "yxbaaba".toList := by
  intro content marker
  have hmarker : cut? marker content = some ("b".toList, "ba".toList) := by decide +kernel
  have hempty : cut? [] content = some ([], content) := by decide +kernel
  have hfirst := cut?_eq_some_iff.1 hmarker
  have hstart := cut?_eq_some_iff.1 hempty
  obtain ⟨hpiled, hlonger⟩ := splices_of_isFirstCut hfirst
  exact ⟨hfirst, hpiled ["aaa".toList, "a".toList], (hlonger ['a']).2 "a".toList, hstart,
    (splices_of_isFirstCut hstart).1 ["x".toList, "y".toList]⟩

/-! ## Insertions in any order -/

namespace Insertion

/-- The markers keep clear of each other and of the other's payload. -/
structure Independent (a b : Insertion) : Prop where
  markers : ¬ Overlaps a.marker b.marker
  left : ¬ Overlaps a.payload b.marker
  right : ¬ Overlaps b.payload a.marker

instance (a b : Insertion) : Decidable (Independent a b) :=
  decidable_of_iff (¬ Overlaps a.marker b.marker ∧ ¬ Overlaps a.payload b.marker ∧
      ¬ Overlaps b.payload a.marker)
    ⟨fun ⟨h, hl, hr⟩ => ⟨h, hl, hr⟩, fun h => ⟨h.markers, h.left, h.right⟩⟩

theorem Independent.symm {a b : Insertion} (h : Independent a b) : Independent b a :=
  ⟨mt overlaps_comm.1 h.markers, h.right, h.left⟩

end Insertion

open Insertion

variable {s t p q x y z out : Text}

/-- An insertion neither makes nor unmakes an occurrence of another marker that overlaps
neither its marker nor its payload. -/
theorem infix_insertAfter_iff (hst : ¬ Overlaps s t) (hpt : ¬ Overlaps p t)
    (h : insertAfter content s p = .ok out) : t <:+: out ↔ t <:+: content := by
  obtain ⟨before, after, hfirst, rfl⟩ := exists_isFirstCut_of_insertAfter h
  have hbehind : t <:+: p ++ after ↔ t <:+: after := by
    have hsides := infix_separator_iff (a := []) (b := after) hpt
    rwa [List.nil_append, List.infix_nil, or_iff_right (right_ne_nil_of_not_overlaps hst)] at hsides
  rw [hfirst.parts]
  simp only [List.append_assoc]
  rw [infix_separator_iff hst, infix_separator_iff hst, hbehind]

/-- Two insertions into a text in which the one marker stands in front of the other: both
markers are found where they were when the other insertion has been made. -/
theorem insertAfter_swap_of_parts (hst : ¬ Overlaps s t) (hpt : ¬ Overlaps p t)
    (hx : Precedes x s) (hxt : ¬ t <:+: x) (hz : Precedes z t)
    (hcontent : content = x ++ (s ++ (z ++ (t ++ y)))) :
    (insertAfter content s p >>= fun out => insertAfter out t q) =
      insertAfter content t q >>= fun out => insertAfter out s p := by
  have hpz : Precedes (p ++ z) t :=
    (precedes_separator_iff (a := []) hpt).2
      ⟨mt List.infix_nil.1 (right_ne_nil_of_not_overlaps hst), hz⟩
  have hinsert_s (back : Text) :
      insertAfter (x ++ (s ++ back)) s p = .ok (x ++ (s ++ (p ++ back))) :=
    insertAfter_of_precedes hx
  have hinsert_t (front : Text) (hfront : Precedes front t) :
      insertAfter (x ++ (s ++ (front ++ (t ++ y)))) t q =
        .ok (x ++ (s ++ (front ++ (t ++ (q ++ y))))) := by
    have hbefore : Precedes (x ++ (s ++ front)) t := (precedes_separator_iff hst).2 ⟨hxt, hfront⟩
    have hinsert : insertAfter ((x ++ (s ++ front)) ++ (t ++ y)) t q =
        .ok ((x ++ (s ++ front)) ++ (t ++ (q ++ y))) := insertAfter_of_precedes hbefore
    simpa only [List.append_assoc] using hinsert
  rw [hcontent, hinsert_s, hinsert_t z hz]
  calc insertAfter (x ++ (s ++ (p ++ (z ++ (t ++ y))))) t q
      = .ok (x ++ (s ++ (p ++ (z ++ (t ++ (q ++ y)))))) := by
        simpa only [List.append_assoc] using hinsert_t (p ++ z) hpz
    _ = insertAfter (x ++ (s ++ (z ++ (t ++ (q ++ y))))) s p := (hinsert_s _).symm

/-- **Insertions that keep clear of each other commute.** -/
theorem insertAfter_swap (hst : ¬ Overlaps s t) (hpt : ¬ Overlaps p t) (hqs : ¬ Overlaps q s)
    (hs : s <:+: content) (ht : t <:+: content) :
    (insertAfter content s p >>= fun out => insertAfter out t q) =
      insertAfter content t q >>= fun out => insertAfter out s p := by
  have hts : ¬ Overlaps t s := mt overlaps_comm.1 hst
  obtain ⟨front, back, hfirst⟩ := exists_isFirstCut hs
  have hcontent := hfirst.parts
  by_cases hfront : t <:+: front
  · -- the other marker comes first
    obtain ⟨x, z, htfirst⟩ := exists_isFirstCut hfront
    have hprecedes := hfirst.precedes
    rw [htfirst.parts, List.append_assoc, precedes_separator_iff hts] at hprecedes
    refine (insertAfter_swap_of_parts hts hqs htfirst.precedes hprecedes.1 hprecedes.2
      (y := back) ?_).symm
    rw [hcontent, htfirst.parts]
    simp only [List.append_assoc]
  · have hback : t <:+: back := by
      rw [hcontent, List.append_assoc, infix_separator_iff hst] at ht
      exact ht.resolve_left hfront
    obtain ⟨z, y, htfirst⟩ := exists_isFirstCut hback
    refine insertAfter_swap_of_parts hst hpt hfirst.precedes hfront htfirst.precedes (y := y) ?_
    rw [hcontent, htfirst.parts]
    simp only [List.append_assoc]

theorem guarded_insertion : Guarded Insertion.make Insertion.marker where
  present h := by
    obtain ⟨before, after, hfirst⟩ := exists_isFirstCut h
    exact ⟨_, insertAfter_of_isFirstCut hfirst⟩
  missing h := insertAfter_eq_error_iff.2 h

theorem Insertion.Independent.apart {a b : Insertion} (h : Independent a b) :
    Apart Insertion.make Insertion.marker a b where
  left := infix_insertAfter_iff h.markers h.left
  right := infix_insertAfter_iff h.symm.markers h.right
  swap := insertAfter_swap h.markers h.left h.right

/-- **Independent insertions can be made in any order.** Whether they go through is decided
by the text one began with, and every order that goes through comes to one text. -/
theorem applyInsertions_perm {insertions order : List Insertion}
    (hind : insertions.Pairwise Independent) (hperm : order.Perm insertions) (content : Text) :
    ((∃ out, applyInsertions content order = .ok out) ↔
      ∀ i ∈ insertions, i.marker <:+: content) ∧
    ∀ out, applyInsertions content order = .ok out →
      applyInsertions content insertions = .ok out := by
  have hapart : insertions.Pairwise (Apart Insertion.make Insertion.marker) :=
    hind.imp Independent.apart
  have hthrough : (∃ out, applyInsertions content order = .ok out) ↔
      ∀ i ∈ insertions, i.marker <:+: content := by
    have horder := (hperm.pairwise_iff fun h => h.symm).2 hapart
    rw [← forall_congr' fun i => imp_congr_left hperm.mem_iff]
    exact guarded_insertion.exists_foldlM_eq_ok_iff horder
  refine ⟨hthrough, fun out hout => ?_⟩
  rw [← hout]
  exact (guarded_insertion.foldlM_eq_of_perm hperm hapart (hthrough.1 ⟨out, hout⟩)).symm

/-- A marker that overlaps itself, a payload that holds its own marker, and a marker that
stands in front of the two others and between them: six orders, one text. -/
theorem applyInsertions_perm_of_three :
    let insertions : List Insertion :=
      [⟨"aa".toList, "aa".toList⟩, ⟨"x".toList, "yx".toList⟩, ⟨"q".toList, "-".toList⟩]
    insertions.Pairwise Independent ∧
      ∀ order : List Insertion, order.Perm insertions →
        applyInsertions "xaaaqxq".toList order = .ok "xyxaaaaaq-xq".toList := by
  intro insertions
  have hind : insertions.Pairwise Independent := by decide +kernel
  have hall : ∀ i ∈ insertions, i.marker <:+: "xaaaqxq".toList := by decide +kernel
  have hone : applyInsertions "xaaaqxq".toList insertions = .ok "xyxaaaaaq-xq".toList := by
    decide +kernel
  refine ⟨hind, fun order hperm => ?_⟩
  obtain ⟨hthrough, hsame⟩ := applyInsertions_perm hind hperm "xaaaqxq".toList
  obtain ⟨out, hout⟩ := hthrough.2 hall
  rw [hout, ← hone, hsame out hout]

end Graft
