import Graft.Proofs.Reordering
import Mathlib.Data.List.Find

/-!
# Replacements in one pass

`replaceAtOnce` goes through a text once, from left to right, and puts the
replacement wherever the target of one begins; what it has put there it does
not look at again. A list of replacements runs over the text as often as it is
long, each on what the one before left. Where no target overlaps another or
what is put in another's place, the two come to the same
(`applyReplacements_eq_replaceAtOnce`).

The pass over `a ++ tail` is that over `a` and then that over `tail`, if no
target reaches from the one into the other (`replaceAtOnce_append`). All that
follows is a choice of `tail`: a separator, the first occurrence of a target,
or nothing.
-/

namespace Graft

open Replacement

variable {rs rs' : List Replacement} {r : Replacement} {a b m tail rest content : Text}

/-! ## The pass -/

/-- The first of the replacements whose target begins the text. -/
def firstAt (rs : List Replacement) (content : Text) : Option Replacement :=
  rs.find? fun r => r.target.isPrefixOf content

/-- The text with all targets exchanged in one pass. After a target that
begins here the pass goes on behind its last character. -/
def replaceAtOnce (rs : List Replacement) : Text → Text
  | [] => []
  | c :: rest =>
    match firstAt rs (c :: rest) with
    | some r => r.replacement ++ replaceAtOnce rs (rest.drop (r.target.length - 1))
    | none => c :: replaceAtOnce rs rest
termination_by content => content.length
decreasing_by
  · simp only [List.length_drop, List.length_cons]
    omega
  · exact Nat.lt_succ_self _

@[simp] theorem replaceAtOnce_nil (rs : List Replacement) : replaceAtOnce rs [] = [] := by
  rw [replaceAtOnce]

/-- Where nothing begins the pass takes one character along. -/
theorem replaceAtOnce_of_firstAt_eq_none {c : Char} (h : firstAt rs (c :: rest) = none) :
    replaceAtOnce rs (c :: rest) = c :: replaceAtOnce rs rest := by
  rw [replaceAtOnce, h]

/-- Where a target begins the pass puts its replacement and goes on behind it. -/
theorem replaceAtOnce_of_firstAt_eq_some {c : Char} (h : firstAt rs (c :: rest) = some r) :
    replaceAtOnce rs (c :: rest) =
      r.replacement ++ replaceAtOnce rs (rest.drop (r.target.length - 1)) := by
  rw [replaceAtOnce, h]

theorem prefix_of_firstAt_eq_some (h : firstAt rs content = some r) : r.target <+: content := by
  unfold firstAt at h
  simpa using List.find?_some h

/-- What begins a text depends on the targets that do. -/
theorem firstAt_congr (h : ∀ r ∈ rs, (r.target <+: a ↔ r.target <+: b)) :
    firstAt rs a = firstAt rs b := by
  refine List.find?_congr fun r hr => ?_
  rw [Bool.eq_iff_iff, List.isPrefixOf_iff_prefix, List.isPrefixOf_iff_prefix]
  exact h r hr

theorem firstAt_eq_none_iff : firstAt rs content = none ↔ ∀ r ∈ rs, ¬ r.target <+: content := by
  simp [firstAt]

/-- A replacement whose target does not begin the text does not count. -/
theorem firstAt_cons_of_mismatch (h : ¬ r.target <+: content) :
    firstAt (r :: rs) content = firstAt rs content :=
  List.find?_cons_of_neg (mt List.isPrefixOf_iff_prefix.1 h)

/-- The first replacement of the list comes first. -/
theorem firstAt_cons_of_prefix (h : r.target <+: content) :
    firstAt (r :: rs) content = some r :=
  List.find?_cons_of_pos (List.isPrefixOf_iff_prefix.2 h)

/-! ## The pass in parts -/

/-- **A pass can be cut where no target reaches across.** The replacements
before the cut may be fewer than those behind it, as long as the same ones
begin at every place there. -/
theorem replaceAtOnce_append
    (h : ∀ x, x ≠ [] → x <:+ a → firstAt rs' (x ++ tail) = firstAt rs x) :
    replaceAtOnce rs' (a ++ tail) = replaceAtOnce rs a ++ replaceAtOnce rs' tail := by
  induction a using replaceAtOnce.induct rs with
  | case1 => simp
  | case2 c rest r hfirst ih =>
    have hlong : r.target.length - 1 ≤ rest.length := by
      have hlen := (prefix_of_firstAt_eq_some hfirst).length_le
      rw [List.length_cons] at hlen
      omega
    have hsame := h (c :: rest) (by simp) (List.suffix_refl _)
    rw [hfirst, List.cons_append] at hsame
    have hih := ih fun x hx hs =>
      h x hx ((hs.trans (List.drop_suffix _ rest)).trans (List.suffix_cons c rest))
    rw [List.cons_append, replaceAtOnce_of_firstAt_eq_some hsame,
      List.drop_append_of_le_length hlong, hih, replaceAtOnce_of_firstAt_eq_some hfirst,
      List.append_assoc]
  | case3 c rest hfirst ih =>
    have hsame := h (c :: rest) (by simp) (List.suffix_refl _)
    rw [hfirst, List.cons_append] at hsame
    have hih := ih fun x hx hs => h x hx (hs.trans (List.suffix_cons c rest))
    rw [List.cons_append, replaceAtOnce_of_firstAt_eq_none hsame, hih,
      replaceAtOnce_of_firstAt_eq_none hfirst, List.cons_append]

/-- Without replacements a pass takes everything along. -/
@[simp] theorem replaceAtOnce_of_nil (content : Text) : replaceAtOnce [] content = content := by
  induction content with
  | nil => rw [replaceAtOnce_nil]
  | cons c rest ih => rw [replaceAtOnce_of_firstAt_eq_none rfl, ih]

/-- **A pass goes through the parts around a separator one by one.** -/
theorem replaceAtOnce_separator (h : ∀ r ∈ rs, ¬ Text.Overlaps m r.target) :
    replaceAtOnce rs (a ++ (m ++ b)) = replaceAtOnce rs a ++ (m ++ replaceAtOnce rs b) := by
  have hfront : replaceAtOnce rs (a ++ (m ++ b)) =
      replaceAtOnce rs a ++ replaceAtOnce rs (m ++ b) := by
    refine replaceAtOnce_append fun x _ _ => firstAt_congr fun r hr => ?_
    exact ⟨Text.prefix_of_prefix_separator (h r hr), fun hp => hp.trans (List.prefix_append _ _)⟩
  -- nothing begins in the separator, which is how a pass without replacements goes
  have hback : replaceAtOnce rs (m ++ b) = replaceAtOnce [] m ++ replaceAtOnce rs b := by
    refine replaceAtOnce_append fun x hx hs => firstAt_eq_none_iff.2 fun r hr => ?_
    exact Text.not_prefix_of_suffix_separator (h r hr) hx hs
  rw [hfront, hback, replaceAtOnce_of_nil]

/-- Replacements whose target is not in the text can be left out. -/
theorem replaceAtOnce_cons_of_missing (h : ¬ r.target <:+: content) :
    replaceAtOnce (r :: rs) content = replaceAtOnce rs content := by
  have hall : replaceAtOnce (r :: rs) (content ++ []) =
      replaceAtOnce rs content ++ replaceAtOnce (r :: rs) [] := by
    refine replaceAtOnce_append fun x _ hs => ?_
    rw [List.append_nil]
    exact firstAt_cons_of_mismatch fun hp => h (hp.isInfix.trans hs.isInfix)
  simpa using hall

/-- Up to the first occurrence of a target the pass goes as without it. -/
theorem replaceAtOnce_cons_of_precedes (hclear : ∀ s ∈ rs, Independent r s)
    (hne : r.target ≠ []) (hbefore : Text.Precedes a r.target) :
    replaceAtOnce (r :: rs) (a ++ (r.target ++ b)) =
      replaceAtOnce rs a ++ (r.replacement ++ replaceAtOnce (r :: rs) b) := by
  have hfront : replaceAtOnce (r :: rs) (a ++ (r.target ++ b)) =
      replaceAtOnce rs a ++ replaceAtOnce (r :: rs) (r.target ++ b) := by
    refine replaceAtOnce_append fun x hx hs => ?_
    rw [firstAt_cons_of_mismatch (hbefore.not_prefix_append hx hs)]
    exact firstAt_congr fun s hs => ⟨Text.prefix_of_prefix_separator (hclear s hs).targets,
      fun hp => hp.trans (List.prefix_append _ _)⟩
  obtain ⟨c, t, ht⟩ := List.exists_cons_of_ne_nil hne
  have hfirst : firstAt (r :: rs) (c :: (t ++ b)) = some r := by
    refine firstAt_cons_of_prefix ?_
    rw [ht]
    exact List.prefix_append (c :: t) b
  have hdrop : (t ++ b).drop (r.target.length - 1) = b := by simp [ht]
  rw [hfront, ht, List.cons_append, replaceAtOnce_of_firstAt_eq_some hfirst, hdrop]

/-! ## One pass and many -/

/-- **A pass for one target more is an exchange of that target first.** -/
theorem replaceAtOnce_cons (hclear : ∀ s ∈ rs, Independent r s) (hne : r.target ≠ []) :
    replaceAtOnce (r :: rs) content =
      replaceAtOnce rs (Text.replaceAll r.target r.replacement content) := by
  induction content using Text.segmentsOf.induct r.target hne with
  | case1 content h =>
    rw [Text.replaceAll_of_cut?_eq_none hne h]
    exact replaceAtOnce_cons_of_missing (Text.cut?_eq_none_iff.1 h)
  | case2 content a b h _ ih =>
    obtain ⟨hcontent, hbefore⟩ := Text.eq_append_and_precedes h
    rw [Text.replaceAll_of_cut?_eq_some hne h,
      replaceAtOnce_separator fun s hs => (hclear s hs).left, ← ih, hcontent]
    exact replaceAtOnce_cons_of_precedes hclear hne hbefore

/-- **Independent replacements one after another are those in one pass**,
where all targets stand in the text one began with. -/
theorem applyReplacements_eq_replaceAtOnce (hind : rs.Pairwise Independent)
    (hne : ∀ r ∈ rs, r.target ≠ []) (hall : ∀ r ∈ rs, r.target <:+: content) :
    applyReplacements content rs = .ok (replaceAtOnce rs content) := by
  induction rs generalizing content with
  | nil => rw [applyReplacements_nil, replaceAtOnce_of_nil]
  | cons r rs ih =>
    obtain ⟨hr, hind⟩ := List.pairwise_cons.1 hind
    obtain ⟨hmem, hall⟩ := List.forall_mem_cons.1 hall
    obtain ⟨hner, hne⟩ := List.forall_mem_cons.1 hne
    rw [applyReplacements_cons_of_present hmem, replaceAtOnce_cons hr hner]
    exact ih hind hne ((forall_infix_replaceAll_iff hr).2 hall)

/-- In one pass what has been put in is not looked at again; one after another
it is. -/
example :
    let rs : List Replacement := [⟨"a".toList, "b".toList⟩, ⟨"b".toList, "c".toList⟩]
    replaceAtOnce rs "ab".toList = "bc".toList ∧
      (applyReplacements "ab".toList rs).toOption = some "cc".toList := by
  decide +kernel

/-- **What becomes of independent replacements is decided by the text one
began with**: the first target missing from it, or one pass over it. -/
theorem applyReplacements_eq_match (hind : rs.Pairwise Independent)
    (hne : ∀ r ∈ rs, r.target ≠ []) :
    applyReplacements content rs =
      match rs.find? fun r => ¬ r.target <:+: content with
      | none => .ok (replaceAtOnce rs content)
      | some r => .error (.markerNotFound r.target none) := by
  cases hresult : applyReplacements content rs with
  | ok out =>
    have hall := (exists_applyReplacements_eq_ok_iff hind).1 ⟨out, hresult⟩
    have hnone : (rs.find? fun r => ¬ r.target <:+: content) = none := by simpa using hall
    rw [hnone, ← hresult]
    exact applyReplacements_eq_replaceAtOnce hind hne hall
  | error error =>
    obtain ⟨before, r, after, rfl, hbefore, hmissing, rfl⟩ :=
      exists_missing_of_applyReplacements_eq_error hind hresult
    have hnone : (before.find? fun r => ¬ r.target <:+: content) = none := by simpa using hbefore
    have hfirst : ((before ++ r :: after).find? fun r => ¬ r.target <:+: content) = some r := by
      rw [List.find?_append, hnone, List.find?_cons_of_pos (by simpa using hmissing)]
      rfl
    rw [hfirst]

end Graft
