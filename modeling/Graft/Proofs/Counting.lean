import Graft.Proofs.Reordering

/-!
# How often a marker stands in a text

`occurrences` counts the places of a text at which a marker begins, whether
or not these overlap. No occurrence reaches across a separator, so the counts
on its two sides add up (`occurrences_separator`), and an exchange leaves the
count of another marker alone (`occurrences_replaceAll`).

Of its own marker an exchange leaves none, where what comes keeps clear of
what goes (`occurrences_replaceAll_self`). Where the marker only gets
something put behind it, it stands as often as before, provided that it cannot
overlap itself (`occurrences_replaceAll_extend`).

A list of independent replacements does to each target what its own
replacement does to it (`not_infix_of_applyReplacements`).
-/

namespace Graft

namespace Text

variable {m s t r p a b x content : Text}

/-- How many places of `content` begin with `marker`. -/
def occurrences (marker content : Text) : Nat :=
  content.tails.countP fun rest => marker.isPrefixOf rest

/-- Only the first place is new in a text with one character more. -/
theorem occurrences_cons (c : Char) :
    occurrences t (c :: a) = occurrences t a + if t <+: c :: a then 1 else 0 := by
  simp [occurrences, List.countP_cons]

theorem occurrences_nil (ht : t ≠ []) : occurrences t [] = 0 := by
  simp [occurrences, ht]

/-- A text holds the markers that stand in it at all. -/
theorem occurrences_eq_zero_iff : occurrences t content = 0 ↔ ¬ t <:+: content := by
  simp only [occurrences, List.countP_eq_zero, List.mem_tails, List.isPrefixOf_iff_prefix,
    List.infix_iff_prefix_suffix, not_exists, not_and']

/-! ## Parts that hold no beginning -/

/-- A part in which nothing begins adds nothing. -/
theorem occurrences_append (hno : ∀ y, y ≠ [] → y <:+ x → ¬ t <+: y ++ b) :
    occurrences t (x ++ b) = occurrences t b := by
  induction x with
  | nil => rfl
  | cons c x ih =>
    have hfirst : ¬ t <+: c :: (x ++ b) := hno (c :: x) (by simp) (List.suffix_refl _)
    have hrest : ∀ y, y ≠ [] → y <:+ x → ¬ t <+: y ++ b := fun y hy hs =>
      hno y hy (hs.trans (List.suffix_cons c x))
    rw [List.cons_append, occurrences_cons, if_neg hfirst, ih hrest, Nat.add_zero]

/-- **The counts on the two sides of a separator add up.** -/
theorem occurrences_separator (h : ¬ Overlaps m s) :
    occurrences s (a ++ (m ++ b)) = occurrences s a + occurrences s b := by
  induction a with
  | nil =>
    have hzero : occurrences s [] = 0 := occurrences_nil (right_ne_nil_of_not_overlaps h)
    have hm : occurrences s (m ++ b) = occurrences s b :=
      occurrences_append fun y hy hs => not_prefix_of_suffix_separator h hy hs
    rw [List.nil_append, hm, hzero, Nat.zero_add]
  | cons c a ih =>
    have hsee : s <+: c :: (a ++ (m ++ b)) ↔ s <+: c :: a :=
      ⟨fun hs => prefix_of_prefix_separator (a := c :: a) h hs,
        fun hs => hs.trans (List.prefix_append (c :: a) (m ++ b))⟩
    rw [List.cons_append, occurrences_cons, occurrences_cons, ih]
    simp only [hsee]
    omega

/-- **An exchange leaves the count of another marker alone.** -/
theorem occurrences_replaceAll (ht : ¬ Overlaps t s) (hr : ¬ Overlaps r s) :
    occurrences s (replaceAll t r content) = occurrences s content := by
  have hne := left_ne_nil_of_not_overlaps ht
  induction content using segmentsOf.induct t hne with
  | case1 content h => rw [replaceAll_of_cut?_eq_none hne h]
  | case2 content a b h _ ih =>
    rw [replaceAll_of_cut?_eq_some hne h, occurrences_separator hr, ih,
      eq_append_of_cut?_eq_some h, List.append_assoc, occurrences_separator ht]

/-! ## The marker itself -/

/-- What comes before a first occurrence adds nothing to the count. -/
theorem Precedes.occurrences_append (h : Precedes a t) :
    occurrences t (a ++ (t ++ b)) = occurrences t (t ++ b) :=
  Text.occurrences_append fun _ hy hs => h.not_prefix_append hy hs

/-- What comes before a first occurrence holds none. -/
theorem Precedes.occurrences_eq_zero (h : Precedes a t) (ht : t ≠ []) : occurrences t a = 0 := by
  rw [← occurrences_nil ht, ← a.append_nil]
  refine Text.occurrences_append fun y hy hs hp => h y hy hs ?_
  rw [List.append_nil] at hp
  exact hp.trans (List.prefix_append y t)

/-- **An exchange leaves none of its marker**, where what comes keeps clear of
what goes. -/
theorem occurrences_replaceAll_self (h : ¬ Overlaps r t) :
    occurrences t (replaceAll t r content) = 0 := by
  have ht := right_ne_nil_of_not_overlaps h
  induction content using segmentsOf.induct t ht with
  | case1 content hcut =>
    rw [replaceAll_of_cut?_eq_none ht hcut, occurrences_eq_zero_iff]
    exact cut?_eq_none_iff.1 hcut
  | case2 content a b hcut _ ih =>
    have hbefore : Precedes a t := (eq_append_and_precedes hcut).2
    rw [replaceAll_of_cut?_eq_some ht hcut, occurrences_separator h, ih,
      hbefore.occurrences_eq_zero ht]

/-- No end of the marker begins it, but the whole of it. -/
def Unbordered (t : Text) : Prop :=
  ∀ u ∈ t.tails, u ≠ [] → u <+: t → u = t

instance (t : Text) : Decidable (Unbordered t) :=
  inferInstanceAs (Decidable (∀ u ∈ t.tails, _))

/-- A marker without borders counts once where it stands. -/
theorem Unbordered.occurrences_append (hself : Unbordered t) (ht : t ≠ []) :
    occurrences t (t ++ b) = occurrences t b + 1 := by
  obtain ⟨c, x, rfl⟩ := List.exists_cons_of_ne_nil ht
  have hfirst : c :: x <+: c :: (x ++ b) := List.prefix_append (c :: x) b
  have hrest : occurrences (c :: x) (x ++ b) = occurrences (c :: x) b := by
    refine Text.occurrences_append fun y hy hs hp => ?_
    have hlen : y.length ≤ x.length := hs.length_le
    have hbegins : y <+: c :: x :=
      List.prefix_of_prefix_length_le (List.prefix_append y b) hp (by simp; omega)
    have hwhole := hself y (by simpa using .inr hs) hy hbegins
    have := congrArg List.length hwhole
    simp only [List.length_cons] at this
    omega
  rw [List.cons_append, occurrences_cons, if_pos hfirst, hrest]

/-- **To put something behind a marker makes no further one.** -/
theorem occurrences_replaceAll_extend (hself : Unbordered t) (h : ¬ Overlaps p t) :
    occurrences t (replaceAll t (t ++ p) content) = occurrences t content := by
  have ht := right_ne_nil_of_not_overlaps h
  induction content using segmentsOf.induct t ht with
  | case1 content hcut => rw [replaceAll_of_cut?_eq_none ht hcut]
  | case2 content a b hcut _ ih =>
    obtain ⟨hcontent, hbefore⟩ := eq_append_and_precedes hcut
    have hafter : occurrences t (p ++ replaceAll t (t ++ p) b) = occurrences t b := by
      rw [← ih]
      exact Text.occurrences_append fun y hy hs => not_prefix_of_suffix_separator h hy hs
    calc occurrences t (replaceAll t (t ++ p) content)
        = occurrences t (a ++ (t ++ (p ++ replaceAll t (t ++ p) b))) := by
          rw [replaceAll_of_cut?_eq_some ht hcut, List.append_assoc]
      _ = occurrences t b + 1 := by
          rw [hbefore.occurrences_append, hself.occurrences_append ht, hafter]
      _ = occurrences t content := by
          rw [hcontent, hbefore.occurrences_append, hself.occurrences_append ht]

end Text

/-! ## Lists of replacements -/

open Replacement

variable {rs : List Replacement} {r : Replacement} {content out : Text}

/-- Replacements leave the count of a target alone of which they are
independent. -/
theorem occurrences_applyReplacements (hclear : ∀ b ∈ rs, Independent r b)
    (h : applyReplacements content rs = .ok out) :
    Text.occurrences r.target out = Text.occurrences r.target content := by
  induction rs generalizing content with
  | nil =>
    cases h
    rfl
  | cons b rs ih =>
    obtain ⟨hb, hclear⟩ := List.forall_mem_cons.1 hclear
    have hrest := (applyReplacements_cons_eq_ok_iff.1 h).2
    rw [ih hclear hrest, Text.occurrences_replaceAll hb.symm.targets hb.right]

/-- **Independent replacements leave none of a target** that does not come
back with its own replacement. -/
theorem not_infix_of_applyReplacements (hind : rs.Pairwise Independent) (hr : r ∈ rs)
    (hself : ¬ Text.Overlaps r.replacement r.target)
    (h : applyReplacements content rs = .ok out) : ¬ r.target <:+: out := by
  induction rs generalizing content with
  | nil => cases hr
  | cons b rs ih =>
    obtain ⟨hb, hind⟩ := List.pairwise_cons.1 hind
    have hrest := (applyReplacements_cons_eq_ok_iff.1 h).2
    rcases List.mem_cons.1 hr with rfl | hr
    · rw [← Text.occurrences_eq_zero_iff, occurrences_applyReplacements hb hrest,
        Text.occurrences_replaceAll_self hself]
    · exact ih hind hr hrest

end Graft
