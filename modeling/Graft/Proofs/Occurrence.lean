import Graft.Text.Search
import Mathlib.Data.List.Infix

/-!
# Occurrences of a marker

Where a marker stands in a text put together from parts. A marker that does
not overlap a separator stands in `a ++ sep ++ b` exactly where it stands in
`a` or in `b`: no occurrence reaches across the seam. So a search and an
exchange both go through the parts one by one (`cut?_separator`,
`replaceAll_separator`), and an exchange of one marker neither makes nor
unmakes an occurrence of another (`infix_replaceAll_iff`).

The first occurrence is found by what stands before its end alone:
`cut?_append_iff` says which texts may come before it, and asks nothing of
what follows.
-/

namespace Graft

namespace Text

variable {m s t a b : Text}

/-! ## Holding a marker -/

/-- The search fails on the texts that do not hold the marker. -/
theorem cut?_eq_none_iff {marker content : Text} :
    cut? marker content = none ↔ ¬ marker <:+: content := by
  induction content with
  | nil =>
    unfold cut?
    split <;> simp_all
  | cons c rest ih =>
    unfold cut?
    by_cases hp : marker.isPrefixOf (c :: rest) = true
    · rw [if_pos hp]
      have hin : marker <:+: c :: rest := (List.isPrefixOf_iff_prefix.1 hp).isInfix
      simp [hin]
    · have hno : ¬ marker <+: c :: rest := mt List.isPrefixOf_iff_prefix.2 hp
      rw [if_neg hp, Option.map_eq_none_iff, ih, List.infix_cons_iff]
      simp [hno]

theorem holds_iff {content marker : Text} :
    holds content marker = true ↔ marker <:+: content := by
  unfold holds
  rw [Option.isSome_iff_ne_none, ne_eq, cut?_eq_none_iff, not_not]

/-! ## The first occurrence -/

/-- `a` may come before a first occurrence of `t`: none begins in `a`. -/
def Precedes (a t : Text) : Prop :=
  ∀ x, x ≠ [] → x <:+ a → ¬ t <+: x ++ t

/-- One character more may come before if nothing begins with it. -/
theorem precedes_cons_iff {c : Char} :
    Precedes (c :: a) t ↔ ¬ t <+: c :: (a ++ t) ∧ Precedes a t := by
  constructor
  · intro h
    refine ⟨h (c :: a) (by simp) (List.suffix_refl _), fun x hx hs => ?_⟩
    exact h x hx (hs.trans (List.suffix_cons c a))
  · rintro ⟨hc, h⟩ x hx hs
    rcases List.suffix_cons_iff.1 hs with rfl | hs
    · exact hc
    · exact h x hx hs

/-- What follows the first occurrence does not matter to what comes before. -/
theorem Precedes.not_prefix_append (h : Precedes a t) {x : Text} (hx : x ≠ []) (hs : x <:+ a) :
    ¬ t <+: x ++ (t ++ b) := by
  intro hp
  refine h x hx hs ?_
  -- a prefix as long as `t` does not see `b`
  rw [← List.append_assoc] at hp
  exact List.prefix_of_prefix_length_le hp (List.prefix_append _ _) (by simp)

/-- **The first occurrence depends on nothing behind it.** -/
theorem cut?_append_iff : cut? t (a ++ (t ++ b)) = some (a, b) ↔ Precedes a t := by
  induction a with
  | nil =>
    refine ⟨fun _ x hx hs => absurd (List.suffix_nil.1 hs) hx, fun _ => ?_⟩
    rw [List.nil_append]
    cases htb : t ++ b with
    | nil =>
      obtain ⟨rfl, rfl⟩ := List.append_eq_nil_iff.1 htb
      rfl
    | cons c rest =>
      have hp : t.isPrefixOf (c :: rest) = true :=
        List.isPrefixOf_iff_prefix.2 ⟨b, htb⟩
      rw [cut?, if_pos hp, ← htb, List.drop_left]
  | cons c a ih =>
    -- a prefix as long as `t` does not see `b`
    have hsee : t <+: c :: (a ++ (t ++ b)) ↔ t <+: c :: (a ++ t) := by
      have hlong : c :: (a ++ (t ++ b)) = (c :: (a ++ t)) ++ b := by simp
      rw [hlong]
      refine ⟨fun h => ?_, fun h => h.trans (List.prefix_append _ _)⟩
      exact List.prefix_of_prefix_length_le h (List.prefix_append _ _) (by simp; omega)
    rw [List.cons_append, cut?, precedes_cons_iff, ← hsee, ← ih]
    by_cases hp : t <+: c :: (a ++ (t ++ b))
    · simp [hp]
    · rw [if_neg (by simpa using hp)]
      simp [hp, Option.map_eq_some_iff]

/-- What a search finds parts the text, and no occurrence comes before it. -/
theorem eq_append_and_precedes {content : Text} (h : cut? t content = some (a, b)) :
    content = a ++ (t ++ b) ∧ Precedes a t := by
  have hcontent := eq_append_of_cut?_eq_some h
  rw [List.append_assoc] at hcontent
  exact ⟨hcontent, cut?_append_iff.1 (hcontent ▸ h)⟩

/-- What a search finds, with any other text behind it. -/
theorem cut?_of_cut? {content : Text} (h : cut? t content = some (a, b)) (w : Text) :
    cut? t (a ++ (t ++ w)) = some (a, w) :=
  cut?_append_iff.2 (eq_append_and_precedes h).2

/-- A text may be lengthened behind what the search found. -/
theorem cut?_append_of_eq_some {content w : Text} (h : cut? t content = some (a, b)) :
    cut? t (content ++ w) = some (a, b ++ w) := by
  have hc := cut?_of_cut? h (b ++ w)
  rw [eq_append_of_cut?_eq_some h]
  simpa using hc

/-- Before the first occurrence stands no more than before any other. -/
theorem Precedes.prefix_of_append {x y : Text} (h : Precedes a t)
    (hparts : a ++ (t ++ b) = x ++ (t ++ y)) : a <+: x := by
  rcases List.append_eq_append_iff.1 hparts with ⟨more, rfl, -⟩ | ⟨more, rfl, hmore⟩
  · exact List.prefix_append _ _
  · by_cases hnil : more = []
    · rw [hnil, List.append_nil]
    · -- the other occurrence would begin in what stands before the first
      refine absurd ?_ (h.not_prefix_append (b := b) hnil (List.suffix_append _ _))
      rw [← hmore]
      exact List.prefix_append _ _

/-- `before` stands before the first occurrence of `marker` in `content`, and
`after` behind it: no occurrence has less before it. -/
structure IsFirstCut (marker content before after : Text) : Prop where
  parts : content = before ++ marker ++ after
  least : ∀ front back, content = front ++ marker ++ back → before.length ≤ front.length

/-- **A search finds the first occurrence.** -/
theorem cut?_eq_some_iff {content : Text} :
    cut? t content = some (a, b) ↔ IsFirstCut t content a b := by
  constructor
  · intro h
    obtain ⟨hcontent, hprecedes⟩ := eq_append_and_precedes h
    refine ⟨eq_append_of_cut?_eq_some h, fun front back hparts => ?_⟩
    rw [hcontent, List.append_assoc] at hparts
    exact (hprecedes.prefix_of_append hparts).length_le
  · intro h
    cases hcut : cut? t content with
    | none => exact absurd ⟨a, b, h.parts.symm⟩ (cut?_eq_none_iff.1 hcut)
    | some parts =>
      obtain ⟨x, y⟩ := parts
      obtain ⟨hcontent, hprecedes⟩ := eq_append_and_precedes hcut
      have hparts : x ++ (t ++ y) = a ++ (t ++ b) := by
        rw [← hcontent, h.parts, List.append_assoc]
      -- neither has less before it than the other
      have hlength : x.length = a.length :=
        Nat.le_antisymm (hprecedes.prefix_of_append hparts).length_le
          (h.least x y (eq_append_of_cut?_eq_some hcut))
      obtain ⟨rfl, htail⟩ := List.append_inj hparts hlength
      rw [List.append_cancel_left htail]

/-- There is no more than one first occurrence. -/
theorem IsFirstCut.unique {content x y : Text} (h : IsFirstCut t content a b)
    (h' : IsFirstCut t content x y) : a = x ∧ b = y := by
  have hsame := (cut?_eq_some_iff.2 h).symm.trans (cut?_eq_some_iff.2 h')
  simpa using hsame

/-- Where nothing begins before an occurrence it is the first. -/
theorem Precedes.isFirstCut (h : Precedes a t) : IsFirstCut t (a ++ t ++ b) a b := by
  rw [List.append_assoc]
  exact cut?_eq_some_iff.1 (cut?_append_iff.2 h)

/-- The marker stands where it has a first occurrence. -/
theorem IsFirstCut.isInfix {content : Text} (h : IsFirstCut t content a b) : t <:+: content :=
  ⟨a, b, h.parts.symm⟩

/-- Nothing begins before the first occurrence. -/
theorem IsFirstCut.precedes {content : Text} (h : IsFirstCut t content a b) : Precedes a t :=
  (eq_append_and_precedes (cut?_eq_some_iff.2 h)).2

/-- What stands behind the first occurrence may be exchanged for anything. -/
theorem IsFirstCut.exchange {content : Text} (h : IsFirstCut t content a b) (w : Text) :
    IsFirstCut t (a ++ t ++ w) a w :=
  h.precedes.isFirstCut

/-- The first occurrence stays the first when text is added at the end. -/
theorem IsFirstCut.append {content : Text} (h : IsFirstCut t content a b) (w : Text) :
    IsFirstCut t (content ++ w) a (b ++ w) :=
  cut?_eq_some_iff.1 (cut?_append_of_eq_some (cut?_eq_some_iff.2 h))

/-- A marker that stands somewhere has a first occurrence. -/
theorem exists_isFirstCut {content : Text} (h : t <:+: content) :
    ∃ before after, IsFirstCut t content before after := by
  cases hcut : cut? t content with
  | none => exact absurd h (cut?_eq_none_iff.1 hcut)
  | some parts => exact ⟨parts.1, parts.2, cut?_eq_some_iff.1 hcut⟩

/-- Behind the first occurrence stands no less than behind any other. -/
theorem exists_isFirstCut_before (t front back : Text) :
    ∃ before after, IsFirstCut t (front ++ t ++ back) before after ∧ back <:+ after := by
  obtain ⟨before, after, hfirst⟩ := exists_isFirstCut (t := t) ⟨front, back, rfl⟩
  have hleast := hfirst.least front back rfl
  have hlength := congrArg List.length hfirst.parts
  simp only [List.length_append] at hlength
  have hback : back <:+ front ++ t ++ back := List.suffix_append _ _
  have hafter : after <:+ front ++ t ++ back := by
    rw [hfirst.parts]
    exact List.suffix_append _ _
  exact ⟨before, after, hfirst, List.suffix_of_suffix_length_le hback hafter (by omega)⟩

/-! ## Overlapping -/

/-- An end of `s` that is not empty begins `t`. -/
def Meets (s t : Text) : Prop :=
  ∃ u, u ≠ [] ∧ u <:+ s ∧ u <+: t

instance (s t : Text) : Decidable (Meets s t) :=
  decidable_of_iff (∃ u ∈ s.tails, u ≠ [] ∧ u <+: t) <| by
    simp only [List.mem_tails, Meets]
    exact exists_congr fun u => and_left_comm

/-- One of the texts holds the other, or an end of one begins the other. The
empty text overlaps every text. -/
def Overlaps (s t : Text) : Prop :=
  s <:+: t ∨ t <:+: s ∨ Meets s t ∨ Meets t s

instance (s t : Text) : Decidable (Overlaps s t) :=
  inferInstanceAs (Decidable (_ ∨ _))

theorem overlaps_comm : Overlaps s t ↔ Overlaps t s := by
  unfold Overlaps
  tauto

theorem left_ne_nil_of_not_overlaps (h : ¬ Overlaps s t) : s ≠ [] := by
  rintro rfl
  exact h (.inl (List.nil_infix))

theorem right_ne_nil_of_not_overlaps (h : ¬ Overlaps s t) : t ≠ [] :=
  left_ne_nil_of_not_overlaps (mt overlaps_comm.1 h)

/-- Texts that are not empty and have no character in common do not overlap. -/
theorem not_overlaps_of_disjoint (hs : s ≠ []) (ht : t ≠ []) (h : ∀ c ∈ s, c ∉ t) :
    ¬ Overlaps s t := by
  -- what the two have in common would be empty
  have hcommon (u : Text) (hu : u ≠ []) (hus : u ⊆ s) : ¬ u ⊆ t := fun hut =>
    h _ (hus (List.head_mem hu)) (hut (List.head_mem hu))
  rintro (hst | hts | ⟨u, hu, hus, hut⟩ | ⟨u, hu, hut, hus⟩)
  · exact hcommon s hs (List.Subset.refl s) hst.subset
  · exact hcommon t ht hts.subset (List.Subset.refl t)
  · exact hcommon u hu hus.subset hut.subset
  · exact hcommon u hu hus.subset hut.subset

/-! ## Searching across a separator -/

/-- **No occurrence reaches across a separator.** What begins before the
separator also ends before it. -/
theorem prefix_of_prefix_separator (h : ¬ Overlaps m s) (hs : s <+: a ++ (m ++ b)) : s <+: a := by
  rcases List.prefix_or_prefix_of_prefix hs (List.prefix_append a (m ++ b)) with hsa | ⟨u, rfl⟩
  · exact hsa
  have hu : u <+: m ++ b := (List.prefix_append_right_inj a).1 hs
  by_cases hnil : u = []
  · simp [hnil]
  refine absurd ?_ h
  rcases List.prefix_or_prefix_of_prefix hu (List.prefix_append m b) with hum | hmu
  · exact .inr (.inr (.inr ⟨u, hnil, List.suffix_append a u, hum⟩))
  · exact .inl (hmu.isInfix.trans (List.suffix_append a u).isInfix)

/-- Nothing begins inside a separator, so it may come before what follows. -/
theorem not_prefix_of_suffix_separator (h : ¬ Overlaps m s) {x : Text} (hx : x ≠ [])
    (hxm : x <:+ m) : ¬ s <+: x ++ b := by
  intro hs
  refine h ?_
  rcases List.prefix_or_prefix_of_prefix hs (List.prefix_append x b) with hsx | hxs
  · exact .inr (.inl (hsx.isInfix.trans hxm.isInfix))
  · exact .inr (.inr (.inl ⟨x, hx, hxm, hxs⟩))

/-- A search that finds nothing before a separator goes on behind it. -/
theorem cut?_separator (h : ¬ Overlaps m s) (ha : cut? s a = none) :
    cut? s (a ++ (m ++ b)) = (cut? s b).map fun (p, q) => (a ++ (m ++ p), q) := by
  induction a with
  | nil =>
    -- walk through the separator, of which `x` is still to come
    have key : ∀ x, x <:+ m → cut? s (x ++ b) = (cut? s b).map fun (p, q) => (x ++ p, q) := by
      intro x
      induction x with
      | nil => simp
      | cons c x ih =>
        intro hx
        have hno : ¬ s <+: c :: x ++ b := not_prefix_of_suffix_separator h (by simp) hx
        rw [List.cons_append] at hno ⊢
        rw [cut?, if_neg (by simpa using hno), ih ((List.suffix_cons c x).trans hx),
          Option.map_map]
        rfl
    exact key m (List.suffix_refl m)
  | cons c a ih =>
    rw [cut?_eq_none_iff, List.infix_cons_iff, not_or] at ha
    have hno : ¬ s <+: c :: (a ++ (m ++ b)) := fun hs =>
      ha.1 (prefix_of_prefix_separator (a := c :: a) h hs)
    rw [List.cons_append, cut?, if_neg (by simpa using hno), ih (cut?_eq_none_iff.2 ha.2),
      Option.map_map]
    rfl

/-- A marker stands on one side of a separator or on the other. -/
theorem infix_separator_iff (h : ¬ Overlaps m s) :
    s <:+: a ++ (m ++ b) ↔ s <:+: a ∨ s <:+: b := by
  cases ha : cut? s a with
  | none =>
    rw [← not_iff_not, ← cut?_eq_none_iff, cut?_separator h ha, Option.map_eq_none_iff,
      cut?_eq_none_iff, not_or]
    simp [cut?_eq_none_iff.1 ha]
  | some parts =>
    have hin : s <:+: a := by
      by_contra hno
      simp [cut?_eq_none_iff.2 hno] at ha
    exact ⟨fun _ => .inl hin, fun _ => hin.trans (List.prefix_append a _).isInfix⟩

/-- What comes before a first occurrence may hold a separator: no occurrence stands in
front of it, and none begins behind it. -/
theorem precedes_separator_iff {z : Text} (h : ¬ Overlaps m t) :
    Precedes (a ++ (m ++ z)) t ↔ ¬ t <:+: a ∧ Precedes z t := by
  have ht := right_ne_nil_of_not_overlaps h
  constructor
  · intro hall
    refine ⟨?_, fun x hx hs => hall x hx ?_⟩
    · rintro ⟨front, back, rfl⟩
      refine hall (t ++ (back ++ (m ++ z))) (by simp [ht]) ⟨front, by simp⟩ ?_
      rw [List.append_assoc]
      exact List.prefix_append _ _
    · exact (hs.trans (List.suffix_append m z)).trans (List.suffix_append a (m ++ z))
  · rintro ⟨ha, hz⟩ x hx hs
    rcases List.suffix_or_suffix_of_suffix hs (List.suffix_append a (m ++ z)) with hin | ⟨y, rfl⟩
    · rcases List.suffix_or_suffix_of_suffix hin (List.suffix_append m z) with hin | ⟨y, rfl⟩
      · exact hz x hx hin
      · -- what begins in the separator would overlap it
        by_cases hy : y = []
        · exact hz (y ++ z) hx (by simp [hy])
        · rw [List.append_assoc]
          exact not_prefix_of_suffix_separator h hy (List.suffix_append_self_iff.1 hin)
    · -- what begins before the separator would end before it
      intro hbegins
      rw [List.append_assoc, List.append_assoc] at hbegins
      have hy : t <+: y := prefix_of_prefix_separator h hbegins
      exact ha (hy.isInfix.trans (List.suffix_append_self_iff.1 hs).isInfix)

/-! ## Exchanging a marker -/

/-- Where the marker does not stand nothing is exchanged. -/
theorem replaceAll_of_cut?_eq_none {r content : Text} (hs : s ≠ []) (h : cut? s content = none) :
    replaceAll s r content = content := by
  simp [replaceAll, segments, hs, segmentsOf_of_cut?_eq_none h]

/-- The first occurrence is exchanged, and then those behind it. -/
theorem replaceAll_of_cut?_eq_some {r content : Text} (hs : s ≠ [])
    (h : cut? s content = some (a, b)) :
    replaceAll s r content = a ++ (r ++ replaceAll s r b) := by
  have hne : segmentsOf s hs b ≠ [] := by
    rw [segmentsOf]
    split <;> simp
  obtain ⟨first, others, hseg⟩ := List.exists_cons_of_ne_nil hne
  simp only [replaceAll, segments, dif_neg hs, segmentsOf_of_cut?_eq_some h, hseg,
    List.intercalate_cons_cons, List.append_assoc]

/-- **An exchange goes through the parts around a separator one by one.** -/
theorem replaceAll_separator {r : Text} (h : ¬ Overlaps m s) :
    replaceAll s r (a ++ (m ++ b)) = replaceAll s r a ++ (m ++ replaceAll s r b) := by
  have hs := right_ne_nil_of_not_overlaps h
  induction a using segmentsOf.induct s hs with
  | case1 a ha =>
    rw [replaceAll_of_cut?_eq_none hs ha]
    cases hb : cut? s b with
    | none =>
      have hab : cut? s (a ++ (m ++ b)) = none := by simp [cut?_separator h ha, hb]
      rw [replaceAll_of_cut?_eq_none hs hb, replaceAll_of_cut?_eq_none hs hab]
    | some parts =>
      obtain ⟨p, q⟩ := parts
      have hab : cut? s (a ++ (m ++ b)) = some (a ++ (m ++ p), q) := by
        simp [cut?_separator h ha, hb]
      rw [replaceAll_of_cut?_eq_some hs hb, replaceAll_of_cut?_eq_some hs hab]
      simp
  | case2 a p q ha _ ih =>
    rw [replaceAll_of_cut?_eq_some hs ha,
      replaceAll_of_cut?_eq_some hs (cut?_append_of_eq_some ha), ih]
    simp

/-- **An exchange neither makes nor unmakes an occurrence of another
marker** that overlaps neither what goes nor what comes. -/
theorem infix_replaceAll_iff {r content : Text} (ht : ¬ Overlaps t s) (hr : ¬ Overlaps r s) :
    s <:+: replaceAll t r content ↔ s <:+: content := by
  have hne := left_ne_nil_of_not_overlaps ht
  induction content using segmentsOf.induct t hne with
  | case1 content h => rw [replaceAll_of_cut?_eq_none hne h]
  | case2 content p q h _ ih =>
    rw [replaceAll_of_cut?_eq_some hne h, infix_separator_iff hr, or_congr_right ih,
      ← infix_separator_iff ht, eq_append_of_cut?_eq_some h, List.append_assoc]

/-- What may come before a first occurrence may do so after an exchange of
another marker. -/
theorem Precedes.replaceAll {q : Text} (hst : ¬ Overlaps s t) (hqt : ¬ Overlaps q t)
    (h : Precedes a t) : Precedes (Text.replaceAll s q a) t := by
  have hs := left_ne_nil_of_not_overlaps hst
  induction a using segmentsOf.induct s hs with
  | case1 a ha => rwa [replaceAll_of_cut?_eq_none hs ha]
  | case2 a p rest ha _ ih =>
    rw [eq_append_of_cut?_eq_some ha, List.append_assoc, precedes_separator_iff hst] at h
    rw [replaceAll_of_cut?_eq_some hs ha, precedes_separator_iff hqt]
    exact ⟨h.1, ih h.2⟩

/-- **Exchanges of two markers that keep clear of each other commute.** -/
theorem replaceAll_comm {q r content : Text} (hst : ¬ Overlaps s t) (hqt : ¬ Overlaps q t)
    (hrs : ¬ Overlaps r s) :
    replaceAll s q (replaceAll t r content) = replaceAll t r (replaceAll s q content) := by
  have ht := right_ne_nil_of_not_overlaps hst
  have hts : ¬ Overlaps t s := mt overlaps_comm.1 hst
  induction content using segmentsOf.induct t ht with
  | case1 content h =>
    have hno : ¬ t <:+: replaceAll s q content := by
      rw [infix_replaceAll_iff hst hqt]
      exact cut?_eq_none_iff.1 h
    rw [replaceAll_of_cut?_eq_none ht h, replaceAll_of_cut?_eq_none ht (cut?_eq_none_iff.2 hno)]
  | case2 content a b h _ ih =>
    obtain ⟨hcontent, hfirst⟩ := eq_append_and_precedes h
    have hbefore : Precedes (replaceAll s q a) t := hfirst.replaceAll hst hqt
    calc replaceAll s q (replaceAll t r content)
        = replaceAll s q a ++ (r ++ replaceAll t r (replaceAll s q b)) := by
          rw [replaceAll_of_cut?_eq_some ht h, replaceAll_separator hrs, ih]
      _ = replaceAll t r (replaceAll s q a ++ (t ++ replaceAll s q b)) := by
          rw [replaceAll_of_cut?_eq_some ht (cut?_append_iff.2 hbefore)]
      _ = replaceAll t r (replaceAll s q content) := by
          rw [hcontent, replaceAll_separator hts]

end Text

end Graft
