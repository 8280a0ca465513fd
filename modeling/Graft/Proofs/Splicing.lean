import Graft.Splice
import Graft.Proofs.Occurrence

/-!
# What a splice comes to

A splice finds the first occurrence of its marker and takes the text apart
there, or finds none. For each kind of splice this module says what it comes to
in terms of `Text.IsFirstCut` and of `<:+:`, so that nothing later looks into
the search.
-/

namespace Graft

open Text

variable {content marker payload sign target replacement out before after : Text}

theorem insertAfter_of_isFirstCut (h : IsFirstCut marker content before after) :
    insertAfter content marker payload = .ok (before ++ marker ++ payload ++ after) := by
  unfold insertAfter
  rw [cut?_eq_some_iff.2 h]

theorem insertAfter_of_precedes (h : Precedes before marker) :
    insertAfter (before ++ (marker ++ after)) marker payload =
      .ok (before ++ (marker ++ (payload ++ after))) := by
  have hinsert : insertAfter (before ++ marker ++ after) marker payload =
      .ok (before ++ marker ++ payload ++ after) := insertAfter_of_isFirstCut h.isFirstCut
  simpa only [List.append_assoc] using hinsert

/-- An insertion fails exactly where the marker is missing, and says so. -/
theorem insertAfter_eq_error_iff :
    insertAfter content marker payload = .error (.markerNotFound marker none) ↔
      ¬ marker <:+: content := by
  rw [← cut?_eq_none_iff]
  unfold insertAfter
  cases cut? marker content <;> simp

theorem exists_isFirstCut_of_insertAfter (h : insertAfter content marker payload = .ok out) :
    ∃ before after, IsFirstCut marker content before after ∧
      out = before ++ marker ++ payload ++ after := by
  have hstands : marker <:+: content := by
    by_contra habsent
    rw [insertAfter_eq_error_iff.2 habsent] at h
    cases h
  obtain ⟨before, after, hfirst⟩ := exists_isFirstCut hstands
  rw [insertAfter_of_isFirstCut hfirst] at h
  exact ⟨before, after, hfirst, (Except.ok.inj h).symm⟩

theorem uncomment_of_isFirstCut (h : IsFirstCut marker content before after) :
    uncomment content marker sign = some (before ++ bare sign marker ++ after) := by
  unfold uncomment
  rw [cut?_eq_some_iff.2 h]
  rfl

theorem uncomment_eq_none_iff : uncomment content marker sign = none ↔ ¬ marker <:+: content := by
  rw [← cut?_eq_none_iff]
  exact Option.map_eq_none_iff

/-- Only the first occurrence is bared. -/
theorem exists_isFirstCut_of_uncomment (h : uncomment content marker sign = some out) :
    ∃ before after, IsFirstCut marker content before after ∧
      out = before ++ bare sign marker ++ after := by
  have hstands : marker <:+: content := by
    by_contra habsent
    rw [uncomment_eq_none_iff.2 habsent] at h
    cases h
  obtain ⟨before, after, hfirst⟩ := exists_isFirstCut hstands
  rw [uncomment_of_isFirstCut hfirst] at h
  exact ⟨before, after, hfirst, (Option.some.inj h).symm⟩

theorem replaceEvery_of_present (h : target <:+: content) :
    replaceEvery content target replacement = .ok (replaceAll target replacement content) :=
  if_pos (holds_iff.2 h)

theorem replaceEvery_of_missing (h : ¬ target <:+: content) :
    replaceEvery content target replacement = .error (.markerNotFound target none) :=
  if_neg fun hh => h (holds_iff.1 hh)

/-- **An exchange goes through exactly where its target stands.** -/
theorem replaceEvery_eq_ok_iff : replaceEvery content target replacement = .ok out ↔
    target <:+: content ∧ replaceAll target replacement content = out := by
  by_cases h : target <:+: content
  · rw [replaceEvery_of_present h, Except.ok.injEq]
    exact (and_iff_right h).symm
  · rw [replaceEvery_of_missing h]
    simp [h]

end Graft
