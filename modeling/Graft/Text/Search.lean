/-!
# Text and the search for a marker

Text is a list of code points. A *marker* is plain text, never a pattern,
and the place it names is its first occurrence: `cut?` splits a text
there into what stands before the marker and what stands after it. The
empty marker stands at the very beginning.

`segments` splits a text at every occurrence of a marker, each search
going on after the end of the last one found, so occurrences never
overlap and text already passed is not searched again. `replaceAll` joins
the segments with another text. The empty marker is met before every code
point and once more at the end.
-/

namespace Graft

/-- Text, as the code points it consists of. -/
abbrev Text := List Char

namespace Text

/-- What stands before the first occurrence of `marker` and what stands
after it, or `none` where there is no occurrence. -/
def cut? (marker : Text) : Text → Option (Text × Text)
  | [] => if marker.isEmpty then some ([], []) else none
  | c :: rest =>
    if marker.isPrefixOf (c :: rest) then some ([], (c :: rest).drop marker.length)
    else (cut? marker rest).map fun (before, after) => (c :: before, after)

/-- `marker` stands somewhere in `content`. -/
def holds (content marker : Text) : Bool :=
  (cut? marker content).isSome

/-- A cut takes nothing away but the marker. -/
theorem eq_append_of_cut?_eq_some {marker content before after : Text}
    (h : cut? marker content = some (before, after)) :
    content = before ++ marker ++ after := by
  induction content generalizing before with
  | nil =>
    unfold cut? at h
    split at h <;> simp_all
  | cons c rest ih =>
    unfold cut? at h
    split at h
    · rename_i hp
      obtain ⟨rfl, rfl⟩ := by simpa using h
      obtain ⟨t, ht⟩ := List.isPrefixOf_iff_prefix.1 hp
      simp [← ht]
    · obtain ⟨⟨b, a⟩, hb, hba⟩ := Option.map_eq_some_iff.1 h
      obtain ⟨rfl, rfl⟩ := by simpa using hba
      simp [ih hb]

/-- The text after a marker that is not empty is shorter than the whole. -/
theorem length_lt_of_cut?_eq_some {marker content before after : Text} (hm : marker ≠ [])
    (h : cut? marker content = some (before, after)) : after.length < content.length := by
  have hlen := congrArg List.length (eq_append_of_cut?_eq_some h)
  have hpos := List.length_pos_iff.2 hm
  simp only [List.length_append] at hlen
  omega

/-- The stretches of `content` between the occurrences of a marker that is
not empty, each occurrence sought after the end of the one before. -/
def segmentsOf (marker : Text) (hm : marker ≠ []) (content : Text) : List Text :=
  match h : cut? marker content with
  | none => [content]
  | some (before, after) =>
    have := length_lt_of_cut?_eq_some hm h
    before :: segmentsOf marker hm after
termination_by content.length

/-- The stretches of `content` between the occurrences of `marker`. The
empty marker parts the text into its code points, with an empty stretch
before the first and after the last. -/
def segments (marker content : Text) : List Text :=
  if hm : marker = [] then [] :: content.map ([·]) ++ [[]]
  else segmentsOf marker hm content

/-- Every occurrence of `marker` in `content` exchanged for `replacement`,
which is not searched again. -/
def replaceAll (marker replacement content : Text) : Text :=
  replacement.intercalate (segments marker content)

/-- A text that never shows the marker is one stretch. -/
theorem segmentsOf_of_cut?_eq_none {marker content : Text} {hm : marker ≠ []}
    (h : cut? marker content = none) : segmentsOf marker hm content = [content] := by
  rw [segmentsOf]
  split <;> simp_all

/-- A text that shows the marker is the stretch before it and the stretches
of what follows it. -/
theorem segmentsOf_of_cut?_eq_some {marker content before after : Text} {hm : marker ≠ []}
    (h : cut? marker content = some (before, after)) :
    segmentsOf marker hm content = before :: segmentsOf marker hm after := by
  rw [segmentsOf]
  split <;> simp_all

end Text

end Graft
