import Graft.Proofs.Splicing
import Graft.Text.Utf8
import Mathlib.Order.Bounds.Basic

/-!
# Searching the bytes of a text

A marker is looked for among characters. One may as well look for its bytes
among the bytes of the text, and cut the text at the offsets found. That is more
to promise, for a text cannot be cut at every offset, and bytes could match
across characters. They do not: a byte that begins a character never stands
inside one, so where the bytes of a marker stand there is a boundary
(`isBoundary_of_getElem?`), and from a boundary on the bytes tell the characters
(`prefix_of_encode_prefix`).

The exception is the empty marker. It has no byte that could begin a character,
and stands at every offset, inside characters too. Its first occurrence is at the
beginning, and that is the only one that is asked for.
-/

namespace Graft

namespace Text

variable {content marker front back pre post : Text} {offset : Nat}

/-! ## Boundaries -/

/-- The offset lies between two characters, or at an end of the text. -/
def IsBoundary (content : Text) (offset : Nat) : Prop :=
  ∃ front back, content = front ++ back ∧ byteLength front = offset

/-- Text behind a boundary has the bytes behind the offset. -/
theorem drop_encode (front back : Text) :
    (encode (front ++ back)).drop (byteLength front) = encode back := by
  rw [encode_append, byteLength, List.drop_left]

/-- **A byte that can begin a character stands at a boundary.** -/
theorem isBoundary_of_getElem? {b : UInt8} (hbyte : (encode content)[offset]? = some b)
    (hfirst : b.IsUTF8FirstByte) : IsBoundary content offset := by
  induction content generalizing offset with
  | nil => simp at hbyte
  | cons c rest ih =>
    rw [encode_cons] at hbyte
    by_cases hinside : offset < (String.utf8EncodeChar c).length
    · -- of the bytes of a character only the first begins one
      rw [List.getElem?_append_left hinside, List.getElem?_eq_getElem hinside] at hbyte
      obtain rfl := Option.some.inj hbyte
      obtain rfl : offset = 0 := UInt8.isUTF8FirstByte_getElem_utf8EncodeChar.1 hfirst
      exact ⟨[], c :: rest, rfl, rfl⟩
    · rw [List.getElem?_append_right (Nat.not_lt.1 hinside)] at hbyte
      obtain ⟨front, back, rfl, hlength⟩ := ih hbyte
      refine ⟨c :: front, back, rfl, ?_⟩
      rw [String.length_utf8EncodeChar] at hlength hinside
      rw [byteLength_cons, hlength]
      omega

/-! ## Characters in their bytes -/

/-- The bytes of a character tell it, whatever follows them. -/
theorem utf8EncodeChar_append_inj {c d : Char} {x y : Bytes}
    (h : String.utf8EncodeChar c ++ x = String.utf8EncodeChar d ++ y) : c = d ∧ x = y := by
  have hdecode (c : Char) (x : Bytes) :
      ByteArray.utf8DecodeChar? (String.utf8EncodeChar c ++ x).toByteArray 0 = some c := by
    rw [List.toByteArray_append]
    exact ByteArray.utf8DecodeChar?_utf8EncodeChar_append
  have hsame := hdecode c x
  rw [h, hdecode d y] at hsame
  obtain rfl := Option.some.inj hsame
  exact ⟨rfl, List.append_cancel_left h⟩

/-- **From a boundary on the bytes tell the characters.** -/
theorem prefix_of_encode_prefix (h : encode marker <+: encode content) : marker <+: content := by
  induction marker generalizing content with
  | nil => exact List.nil_prefix
  | cons c marker ih =>
    obtain ⟨more, hmore⟩ := h
    rw [encode_cons, List.append_assoc] at hmore
    cases content with
    | nil => simp at hmore
    | cons d content =>
      rw [encode_cons] at hmore
      obtain ⟨rfl, hrest⟩ := utf8EncodeChar_append_inj hmore
      exact List.cons_prefix_cons.2 ⟨rfl, ih ⟨more, hrest⟩⟩

/-! ## Occurrences among the bytes -/

/-- The bytes of the marker stand at the offset among those of the text. -/
def OccursAt (marker content : Text) (offset : Nat) : Prop :=
  encode marker <+: (encode content).drop offset

/-- Characters that stand somewhere have their bytes there. -/
theorem occursAt_append (front marker back : Text) :
    OccursAt marker (front ++ marker ++ back) (byteLength front) := by
  unfold OccursAt
  rw [List.append_assoc, drop_encode, encode_append]
  exact List.prefix_append _ _

/-- **Bytes of a marker that is not empty are the marker**, at a boundary. -/
theorem OccursAt.exists_append (h : OccursAt marker content offset) (hne : marker ≠ []) :
    ∃ front back, content = front ++ marker ++ back ∧ byteLength front = offset := by
  obtain ⟨c, rest, rfl⟩ := List.exists_cons_of_ne_nil hne
  -- the first byte of the marker begins a character
  have hpos : 0 < (String.utf8EncodeChar c).length := by
    rw [String.length_utf8EncodeChar]
    exact c.utf8Size_pos
  have hbyte : (encode content)[offset]? = some (String.utf8EncodeChar c)[0] := by
    obtain ⟨more, hmore⟩ := h
    rw [← Nat.add_zero offset, ← List.getElem?_drop, ← hmore, encode_cons, List.append_assoc,
      List.getElem?_append_left hpos, List.getElem?_eq_getElem hpos]
  obtain ⟨front, back, rfl, rfl⟩ :=
    isBoundary_of_getElem? hbyte UInt8.isUTF8FirstByte_getElem_zero_utf8EncodeChar
  unfold OccursAt at h
  rw [drop_encode] at h
  obtain ⟨back, rfl⟩ := prefix_of_encode_prefix h
  exact ⟨front, back, (List.append_assoc ..).symm, rfl⟩

/-- **The bytes stand where the characters do.** The empty marker, whose bytes stand
everywhere, stands as characters at boundaries only. -/
theorem exists_append_iff :
    (∃ front back, content = front ++ marker ++ back ∧ byteLength front = offset) ↔
      OccursAt marker content offset ∧ (marker = [] → IsBoundary content offset) := by
  constructor
  · rintro ⟨front, back, rfl, rfl⟩
    exact ⟨occursAt_append front marker back,
      fun _ => ⟨front, marker ++ back, List.append_assoc .., rfl⟩⟩
  · rintro ⟨hoccurs, hboundary⟩
    by_cases hne : marker = []
    · obtain ⟨front, back, rfl, hlength⟩ := hboundary hne
      exact ⟨front, back, by rw [hne, List.append_nil], hlength⟩
    · exact hoccurs.exists_append hne

/-- The bytes of a marker stand in a text where the marker does. -/
theorem exists_occursAt_iff : (∃ offset, OccursAt marker content offset) ↔ marker <:+: content := by
  constructor
  · rintro ⟨offset, h⟩
    by_cases hne : marker = []
    · rw [hne]
      exact List.nil_infix
    · obtain ⟨front, back, rfl, -⟩ := h.exists_append hne
      exact ⟨front, back, rfl⟩
  · rintro ⟨front, back, rfl⟩
    exact ⟨_, occursAt_append front marker back⟩

/-! ## The first occurrence -/

/-- **The first occurrence of the bytes is that of the characters.** -/
theorem isLeast_of_cut?_eq_some (h : cut? marker content = some (pre, post)) :
    IsLeast {n | OccursAt marker content n} (byteLength pre) := by
  obtain ⟨rfl, hprecedes⟩ := eq_append_and_precedes h
  constructor
  · have hoccurs := occursAt_append pre marker post
    rwa [List.append_assoc] at hoccurs
  · intro n hn
    by_cases hne : marker = []
    · -- the empty marker stands at the beginning
      have hparts : pre ++ (marker ++ post) = [] ++ (marker ++ (pre ++ post)) := by
        rw [hne]
        rfl
      obtain rfl := List.prefix_nil.1 (hprecedes.prefix_of_append hparts)
      exact Nat.zero_le n
    · obtain ⟨front, back, hparts, rfl⟩ := OccursAt.exists_append hn hne
      rw [List.append_assoc] at hparts
      obtain ⟨more, rfl⟩ := hprecedes.prefix_of_append hparts
      rw [byteLength_append]
      exact Nat.le_add_right _ _

/-- The first offset of all at which some bytes stand among others. -/
def byteFind? (needle hay : Bytes) : Option Nat :=
  (List.range (hay.length + 1)).find? fun n => needle.isPrefixOf (hay.drop n)

theorem byteFind?_eq_some_of_isLeast {needle hay : Bytes}
    (h : IsLeast {n | needle <+: hay.drop n} offset) : byteFind? needle hay = some offset := by
  -- beyond the end stands no more than at the end
  have hle : offset ≤ hay.length := by
    by_contra hlong
    refine hlong (h.2 ?_)
    have hhere : needle <+: hay.drop offset := h.1
    rwa [List.drop_eq_nil_of_le (Nat.le_of_not_le hlong), ← List.drop_length] at hhere
  refine List.find?_range_eq_some.2 ⟨?_, ?_, fun n hn => ?_⟩
  · exact List.isPrefixOf_iff_prefix.2 h.1
  · exact List.mem_range.2 (Nat.lt_succ_of_le hle)
  · have hno : ¬ needle.isPrefixOf (hay.drop n) = true := fun hprefix =>
      Nat.not_le.2 hn (h.2 (List.isPrefixOf_iff_prefix.1 hprefix))
    rw [Bool.eq_false_iff.2 hno]
    rfl

/-- **The bytes are found where the characters are.** -/
theorem byteFind?_encode (content marker : Text) :
    byteFind? (encode marker) (encode content) =
      (cut? marker content).map fun parts => byteLength parts.1 := by
  cases hcut : cut? marker content with
  | none =>
    refine List.find?_eq_none.2 fun n _ hprefix => ?_
    exact cut?_eq_none_iff.1 hcut (exists_occursAt_iff.1 ⟨n, List.isPrefixOf_iff_prefix.1 hprefix⟩)
  | some parts => exact byteFind?_eq_some_of_isLeast (isLeast_of_cut?_eq_some hcut)

/-! ## Cutting at an offset -/

/-- The text cut at an offset into its bytes, or `none` where that is no
boundary. -/
def cutAt? : Text → Nat → Option (Text × Text)
  | content, 0 => some ([], content)
  | [], _ + 1 => none
  | c :: rest, offset + 1 =>
    if c.utf8Size ≤ offset + 1 then
      (cutAt? rest (offset + 1 - c.utf8Size)).map fun (front, back) => (c :: front, back)
    else none

theorem cutAt?_zero (content : Text) : cutAt? content 0 = some ([], content) := by
  cases content <;> rfl

/-- **A text can be cut at its boundaries**, and nowhere else. -/
theorem cutAt?_eq_some_iff :
    cutAt? content offset = some (front, back) ↔
      content = front ++ back ∧ byteLength front = offset := by
  constructor
  · intro h
    induction content generalizing offset front with
    | nil =>
      cases offset with
      | zero =>
        obtain ⟨rfl, rfl⟩ := by simpa [cutAt?] using h
        exact ⟨rfl, rfl⟩
      | succ offset => cases h
    | cons c rest ih =>
      cases offset with
      | zero =>
        obtain ⟨rfl, rfl⟩ := by simpa [cutAt?] using h
        exact ⟨rfl, rfl⟩
      | succ offset =>
        rw [cutAt?] at h
        split at h
        · rename_i hfits
          obtain ⟨⟨front, back⟩, hcut, heq⟩ := Option.map_eq_some_iff.1 h
          obtain ⟨rfl, rfl⟩ := by simpa using heq
          obtain ⟨rfl, hlength⟩ := ih hcut
          refine ⟨rfl, ?_⟩
          rw [byteLength_cons, hlength]
          omega
        · cases h
  · rintro ⟨rfl, rfl⟩
    induction front with
    | nil => exact cutAt?_zero back
    | cons c front ih =>
      obtain ⟨n, hn⟩ : ∃ n, byteLength (c :: front) = n + 1 := by
        have hpos := c.utf8Size_pos
        exact ⟨c.utf8Size + byteLength front - 1, by rw [byteLength_cons]; omega⟩
      rw [byteLength_cons] at hn
      have hrest : n + 1 - c.utf8Size = byteLength front := by omega
      rw [byteLength_cons, hn, List.cons_append, cutAt?, if_pos (by omega), hrest, ih]
      rfl

example : [0, 1, 2, 4, 5].map (fun offset => (cutAt? "é☕".toList offset).isSome) =
    [true, false, true, false, true] := by
  decide +kernel

end Text

open Text

variable {content marker payload sign : Text} {offset : Nat}

/-! ## Splicing by offsets -/

/-- An insertion by offsets into the bytes, or `none` where the text would be cut
inside a character. -/
def insertAtByte (content marker payload : Text) : Option (Except Error Text) :=
  match byteFind? (encode marker) (encode content) with
  | none => some (.error (.markerNotFound marker none))
  | some offset =>
    (cutAt? content (offset + byteLength marker)).map fun (front, back) =>
      .ok (front ++ payload ++ back)

/-- Uncommenting by offsets into the bytes, or `none` where the text would be cut
inside a character. -/
def uncommentAtByte (content marker sign : Text) : Option (Option Text) :=
  match byteFind? (encode marker) (encode content) with
  | none => some none
  | some offset => do
    let (front, _) ← cutAt? content offset
    let (_, back) ← cutAt? content (offset + byteLength marker)
    return some (front ++ bare sign marker ++ back)

/-- What a search finds is where the text can be cut, before the marker and
behind it. -/
theorem cutAt?_of_cut? {pre post : Text} (h : cut? marker content = some (pre, post)) :
    cutAt? content (byteLength pre) = some (pre, marker ++ post) ∧
      cutAt? content (byteLength pre + byteLength marker) = some (pre ++ marker, post) := by
  have hcontent := eq_append_of_cut?_eq_some h
  constructor
  · exact cutAt?_eq_some_iff.2 ⟨by rw [hcontent, List.append_assoc], rfl⟩
  · exact cutAt?_eq_some_iff.2 ⟨hcontent, byteLength_append pre marker⟩

/-- **An insertion by offsets is the insertion**, and cuts no character. -/
theorem insertAtByte_eq (content marker payload : Text) :
    insertAtByte content marker payload = some (insertAfter content marker payload) := by
  unfold insertAtByte insertAfter
  rw [byteFind?_encode]
  cases hcut : cut? marker content with
  | none => rfl
  | some parts =>
    simp only [Option.map_some, (cutAt?_of_cut? hcut).2]

/-- **Uncommenting by offsets is uncommenting**, and cuts no character. -/
theorem uncommentAtByte_eq (content marker sign : Text) :
    uncommentAtByte content marker sign = some (uncomment content marker sign) := by
  unfold uncommentAtByte uncomment
  rw [byteFind?_encode]
  cases hcut : cut? marker content with
  | none => rfl
  | some parts =>
    obtain ⟨hfront, hback⟩ := cutAt?_of_cut? hcut
    simp only [Option.map_some, hfront, hback]
    rfl

/-- The least offset of a marker and the end of the marker there are boundaries. -/
theorem isBoundary_of_isLeast (h : IsLeast {n | OccursAt marker content n} offset) :
    IsBoundary content offset ∧ IsBoundary content (offset + byteLength marker) := by
  have hstands : marker <:+: content := exists_occursAt_iff.1 ⟨offset, h.1⟩
  cases hcut : cut? marker content with
  | none => exact absurd hstands (cut?_eq_none_iff.1 hcut)
  | some parts =>
    obtain rfl := h.unique (isLeast_of_cut?_eq_some hcut)
    obtain ⟨hfront, hback⟩ := cutAt?_of_cut? hcut
    exact ⟨⟨_, _, cutAt?_eq_some_iff.1 hfront⟩, ⟨_, _, cutAt?_eq_some_iff.1 hback⟩⟩

/-- An insertion goes behind the occurrence with the least before it. -/
theorem exists_insertAfter_eq_ok (hstands : marker <:+: content) (payload : Text) :
    ∃ pre post, content = pre ++ marker ++ post ∧
      (∀ front back, content = front ++ marker ++ back → pre.length ≤ front.length) ∧
      insertAfter content marker payload = .ok (pre ++ marker ++ payload ++ post) := by
  obtain ⟨pre, post, hfirst⟩ := exists_isFirstCut hstands
  exact ⟨pre, post, hfirst.parts, hfirst.least, insertAfter_of_isFirstCut hfirst⟩

/-- **Searching and cutting by bytes is searching and cutting by characters.** The
least offset at which the bytes of a marker stand in a text is a boundary, and so
is the end of the marker there; splicing by these offsets cuts no character, and
gives what splicing by characters gives. The bytes of a marker stand in a text where
the marker does and nowhere else, but that those of the empty marker stand inside
characters too. So an insertion fails, of the missing marker, exactly if the marker
does not stand in the text as characters, and otherwise puts the payload behind the
occurrence with the least before it. -/
theorem splice_by_bytes (content marker payload sign : Text) :
    (∀ offset, IsLeast {n | OccursAt marker content n} offset →
      IsBoundary content offset ∧ IsBoundary content (offset + byteLength marker)) ∧
    insertAtByte content marker payload = some (insertAfter content marker payload) ∧
    uncommentAtByte content marker sign = some (uncomment content marker sign) ∧
    ((∃ offset, OccursAt marker content offset) ↔ marker <:+: content) ∧
    (∀ offset, (∃ front back, content = front ++ marker ++ back ∧ byteLength front = offset) ↔
      OccursAt marker content offset ∧ (marker = [] → IsBoundary content offset)) ∧
    (insertAfter content marker payload = .error (.markerNotFound marker none) ↔
      ¬ marker <:+: content) ∧
    (marker <:+: content → ∃ pre post, content = pre ++ marker ++ post ∧
      (∀ front back, content = front ++ marker ++ back → pre.length ≤ front.length) ∧
      insertAfter content marker payload = .ok (pre ++ marker ++ payload ++ post)) := by
  refine ⟨fun offset hleast => ?_, insertAtByte_eq content marker payload,
    uncommentAtByte_eq content marker sign, exists_occursAt_iff, fun offset => ?_,
    insertAfter_eq_error_iff, fun hstands => ?_⟩
  · exact isBoundary_of_isLeast hleast
  · exact exists_append_iff
  · exact exists_insertAfter_eq_ok hstands payload

/-- Behind a character of two bytes, before one of one, and once more. -/
theorem splice_by_bytes_of_cups :
    let content : Text := "é☕b☕".toList
    let marker : Text := "☕".toList
    IsLeast {n | OccursAt marker content n} 2 ∧
      (IsBoundary content 2 ∧ IsBoundary content 5) ∧ marker <:+: content ∧
      ∃ pre post, content = pre ++ marker ++ post ∧
        (∀ front back, content = front ++ marker ++ back → pre.length ≤ front.length) ∧
        insertAfter content marker ['!'] = .ok (pre ++ marker ++ ['!'] ++ post) := by
  intro content marker
  have hcut : cut? marker content = some ("é".toList, "b☕".toList) := by decide +kernel
  have hleast : IsLeast {n | OccursAt marker content n} 2 := isLeast_of_cut?_eq_some hcut
  have hstands : marker <:+: content := ⟨"é".toList, "b☕".toList, by decide +kernel⟩
  obtain ⟨hboundary, -, -, -, -, -, hinsert⟩ := splice_by_bytes content marker ['!'] []
  exact ⟨hleast, hboundary 2 hleast, hstands, hinsert hstands⟩

end Graft
