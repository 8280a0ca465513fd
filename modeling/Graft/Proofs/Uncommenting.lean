import Graft.Proofs.Splicing
import Mathlib.Algebra.Order.Ring.Nat

/-!
# What uncommenting keeps and what it takes

A block is bared line by line: a line that begins with the sign loses the sign,
and every line is ended by a line feed. So a bared block has one line feed more
than the block, and as many other characters less as its signed lines make up
(`count_newline_bare`, `solid_bare`); nothing else of the text is touched
(`uncomment_conserves`).

It is the characters that are no line feeds that make uncommenting end. The
length of the text does not, as a line feed comes for each sign that goes, and
the marker may stand in the text anew. Where the block has no signed line nothing
goes, and uncommenting does not end: each round puts one more line feed behind
the first occurrence, which stays where it is (`uncommentRounds_ends`).
-/

namespace Graft

open Text

variable {content marker block sign out last before after line : Text} {rounds : Nat}

/-! ## Lines -/

/-- How many characters of a text are no line feeds. -/
def Text.solid (content : Text) : Nat :=
  content.countP (· != '\n')

@[simp] theorem Text.solid_append (a b : Text) : solid (a ++ b) = solid a + solid b :=
  List.countP_append

/-- Without its line feeds a block is as long as its lines. -/
theorem Text.solid_flatMap {block : List Text} (h : ∀ line ∈ block, '\n' ∉ line) :
    solid (block.flatMap fun line => line ++ ['\n']) = (block.map List.length).sum := by
  induction block with
  | nil => rfl
  | cons line block ih =>
    obtain ⟨hline, hblock⟩ := List.forall_mem_cons.1 h
    have hsolid : solid line = line.length := by
      refine List.countP_eq_length.2 fun c hc => bne_iff_ne.2 ?_
      rintro rfl
      exact hline hc
    rw [List.flatMap_cons, solid_append, solid_append, hsolid, ih hblock]
    rfl

@[simp] theorem stripSign_append (sign line : Text) : stripSign sign (sign ++ line) = line := by
  unfold stripSign
  rw [if_pos (List.isPrefixOf_iff_prefix.2 (List.prefix_append sign line)), List.drop_left]

theorem stripSign_of_plain (h : ¬ sign <+: line) : stripSign sign line = line :=
  if_neg (mt List.isPrefixOf_iff_prefix.1 h)

/-- A line loses nothing but the sign at its beginning. -/
theorem stripSign_suffix (sign line : Text) : stripSign sign line <:+ line := by
  unfold stripSign
  split
  · exact List.drop_suffix _ _
  · exact List.suffix_refl _

/-- A line that begins with the sign is shorter by the sign without it. -/
theorem length_stripSign (sign line : Text) :
    (stripSign sign line).length + (if sign.isPrefixOf line then sign.length else 0) =
      line.length := by
  unfold stripSign
  split
  · rename_i hsigned
    have hle := (List.isPrefixOf_iff_prefix.1 hsigned).length_le
    rw [List.length_drop]
    omega
  · rfl

theorem sum_length_map_stripSign (sign : Text) (block : List Text) :
    ((block.map (stripSign sign)).map List.length).sum +
        block.countP (sign.isPrefixOf ·) * sign.length =
      (block.map List.length).sum := by
  induction block with
  | nil => simp
  | cons line block ih =>
    have hline := length_stripSign sign line
    simp only [List.map_cons, List.sum_cons, List.countP_cons, Nat.add_mul, ite_mul, Nat.one_mul,
      Nat.zero_mul]
    omega

/-! ## Blocks -/

/-- How many lines of a block begin with the sign. -/
def signedLines (sign block : Text) : Nat :=
  (lines block).countP (sign.isPrefixOf ·)

/-- A sign with a line feed in it begins no line. -/
theorem signedLines_of_newline_mem (h : '\n' ∈ sign) (block : Text) :
    signedLines sign block = 0 := by
  refine List.countP_eq_zero.2 fun line hline hsigned => ?_
  exact newline_not_mem_of_mem_lines hline ((List.isPrefixOf_iff_prefix.1 hsigned).subset h)

theorem bare_eq_flatMap (sign block : Text) :
    bare sign block = ((lines block).map (stripSign sign)).flatMap fun line => line ++ ['\n'] := by
  rw [bare, List.flatMap_map]

/-- The bared lines are lines. -/
theorem newline_not_mem_of_mem_map_stripSign (h : line ∈ (lines block).map (stripSign sign)) :
    '\n' ∉ line := by
  obtain ⟨whole, hwhole, rfl⟩ := List.mem_map.1 h
  exact fun hmem => newline_not_mem_of_mem_lines hwhole ((stripSign_suffix sign whole).subset hmem)

/-- **A bared block has one line feed more.** -/
theorem count_newline_bare (sign block : Text) :
    (bare sign block).count '\n' = block.count '\n' + 1 := by
  have hbare : (bare sign block).count '\n' = ((lines block).map (stripSign sign)).length := by
    rw [bare_eq_flatMap]
    exact count_newline_flatMap fun _ => newline_not_mem_of_mem_map_stripSign
  have hblock : (block ++ ['\n']).count '\n' = (lines block).length := by
    rw [← flatMap_lines]
    exact count_newline_flatMap fun _ => newline_not_mem_of_mem_lines
  rw [hbare, List.length_map, ← hblock, List.count_append]
  rfl

/-- **Of the other characters a bared block lacks the signs.** -/
theorem solid_bare (sign block : Text) :
    solid (bare sign block) + signedLines sign block * sign.length = solid block := by
  have hbare : solid (bare sign block) =
      (((lines block).map (stripSign sign)).map List.length).sum := by
    rw [bare_eq_flatMap]
    exact solid_flatMap fun _ => newline_not_mem_of_mem_map_stripSign
  have hblock : solid (block ++ ['\n']) = ((lines block).map List.length).sum := by
    rw [← flatMap_lines]
    exact solid_flatMap fun _ => newline_not_mem_of_mem_lines
  have hend : solid (block ++ ['\n']) = solid block := by
    rw [solid_append]
    rfl
  rw [hbare, signedLines, sum_length_map_stripSign, ← hblock, hend]

/-- **A block stays as it is, but for the line feed, where nothing is taken.** -/
theorem bare_eq_iff :
    bare sign block = block ++ ['\n'] ↔ signedLines sign block = 0 ∨ sign = [] := by
  constructor
  · intro h
    have hsolid := solid_bare sign block
    rw [h, solid_append] at hsolid
    have hnone : signedLines sign block * sign.length = 0 := by omega
    exact (Nat.mul_eq_zero.1 hnone).imp_right List.eq_nil_of_length_eq_zero
  · intro h
    have hline : ∀ line ∈ lines block, stripSign sign line = line := by
      intro line hline
      rcases h with hnone | rfl
      · exact if_neg (List.countP_eq_zero.1 hnone line hline)
      · exact (stripSign_suffix [] line).eq_of_length (by simpa using length_stripSign [] line)
    rw [bare_eq_flatMap, List.map_congr_left hline, List.map_id', flatMap_lines]

/-! ## One round -/

/-- Uncommenting adds one line feed. -/
theorem count_newline_of_uncomment (h : uncomment content marker sign = some out) :
    out.count '\n' = content.count '\n' + 1 := by
  obtain ⟨before, after, hfirst, rfl⟩ := exists_isFirstCut_of_uncomment h
  simp only [hfirst.parts, List.count_append, count_newline_bare]
  omega

/-- **Uncommenting takes the signs of the block from the text.** -/
theorem solid_of_uncomment (h : uncomment content marker sign = some out) :
    solid out + signedLines sign marker * sign.length = solid content := by
  obtain ⟨before, after, hfirst, rfl⟩ := exists_isFirstCut_of_uncomment h
  have hbare := solid_bare sign marker
  simp only [hfirst.parts, solid_append]
  omega

/-- To uncomment is to insert a line feed where nothing is taken. -/
theorem insertAfter_newline_eq_ok_iff (h : uncomment content marker sign = some out) :
    insertAfter content marker ['\n'] = .ok out ↔ signedLines sign marker = 0 ∨ sign = [] := by
  obtain ⟨before, after, hfirst, rfl⟩ := exists_isFirstCut_of_uncomment h
  rw [← bare_eq_iff, insertAfter_of_isFirstCut hfirst, Except.ok.injEq, List.append_assoc before,
    List.append_left_inj, List.append_right_inj, eq_comm]

/-- **What uncommenting adds and takes.** It adds one line feed, takes the signs
of the signed lines, and leaves what stands before the first occurrence of the
marker and behind it. It comes to the insertion of a line feed if and only if no
line of the marker begins with the sign or the sign is empty, so it takes nothing
where a line feed stands in the sign. -/
theorem uncomment_conserves (h : uncomment content marker sign = some out) :
    out.count '\n' = content.count '\n' + 1 ∧
    solid out + signedLines sign marker * sign.length = solid content ∧
    (∃ before middle after, IsFirstCut marker content before after ∧
      out = before ++ middle ++ after) ∧
    (insertAfter content marker ['\n'] = .ok out ↔ signedLines sign marker = 0 ∨ sign = []) ∧
    ('\n' ∈ sign → signedLines sign marker = 0 ∧ insertAfter content marker ['\n'] = .ok out) := by
  have hinsert := insertAfter_newline_eq_ok_iff h
  refine ⟨count_newline_of_uncomment h, solid_of_uncomment h, ?_, hinsert, fun hsign => ?_⟩
  · obtain ⟨before, after, hfirst, hout⟩ := exists_isFirstCut_of_uncomment h
    exact ⟨before, _, after, hfirst, hout⟩
  · have hnone := signedLines_of_newline_mem hsign marker
    exact ⟨hnone, hinsert.2 (.inl hnone)⟩

/-- Two signed lines with an empty one between them, and a line feed at the end. -/
theorem uncomment_conserves_of_two_signs :
    let content : Text := "x##a\n\n##b\ny".toList
    let marker : Text := "##a\n\n##b\n".toList
    let out : Text := "xa\n\nb\n\ny".toList
    uncomment content marker "##".toList = some out ∧ signedLines "##".toList marker = 2 ∧
      out.count '\n' = 4 ∧ solid out + 2 * 2 = 8 ∧
      insertAfter content marker ['\n'] ≠ .ok out := by
  intro content marker out
  have h : uncomment content marker "##".toList = some out := by decide +kernel
  have hsigned : signedLines "##".toList marker = 2 := by decide +kernel
  obtain ⟨hfeeds, hsolid, -, hinsert, -⟩ := uncomment_conserves h
  rw [hsigned] at hsolid hinsert
  exact ⟨h, hsigned, hfeeds, hsolid, fun heq => absurd (hinsert.1 heq) (by decide)⟩

/-! ## Round after round -/

/-- The text after so many rounds of uncommenting, or `none` where a round did
not find the marker. -/
def uncommentRounds (marker sign : Text) : Nat → Text → Option Text
  | 0, content => some content
  | rounds + 1, content => (uncomment content marker sign).bind (uncommentRounds marker sign rounds)

/-- **Every round takes as much as the first.** -/
theorem solid_of_uncommentRounds (h : uncommentRounds marker sign rounds content = some last) :
    solid last + rounds * (signedLines sign marker * sign.length) = solid content := by
  induction rounds generalizing content with
  | zero =>
    obtain rfl : content = last := Option.some.inj h
    rw [Nat.zero_mul, Nat.add_zero]
  | succ rounds ih =>
    obtain ⟨out, hout, hrest⟩ := Option.bind_eq_some_iff.1 h
    have hround := solid_of_uncomment hout
    have hrounds := ih hrest
    rw [Nat.succ_mul]
    omega

/-- Where a round takes something there is a last one. -/
theorem exists_last_round (htakes : 0 < signedLines sign marker * sign.length) (content : Text) :
    ∃ rounds last, uncommentRounds marker sign rounds content = some last ∧
      uncomment last marker sign = none := by
  induction hsize : solid content using Nat.strong_induction_on generalizing content with
  | _ size ih =>
    cases hround : uncomment content marker sign with
    | none => exact ⟨0, content, rfl, hround⟩
    | some out =>
      have hless : solid out < size := by
        have hsolid := solid_of_uncomment hround
        omega
      obtain ⟨rounds, last, hlast, hnone⟩ := ih (solid out) hless out rfl
      exact ⟨rounds + 1, last, Option.bind_eq_some_iff.2 ⟨out, hround, hlast⟩, hnone⟩

/-- **Where nothing is taken the first occurrence stays**, and every round puts a
line feed behind it. -/
theorem uncommentRounds_of_nothing_taken (htakes : signedLines sign marker = 0 ∨ sign = [])
    (hfirst : IsFirstCut marker content before after) (rounds : Nat) :
    uncommentRounds marker sign rounds (before ++ marker ++ after) =
      some (before ++ marker ++ List.replicate rounds '\n' ++ after) := by
  induction rounds generalizing after content with
  | zero => rw [List.replicate_zero, List.append_nil, uncommentRounds]
  | succ rounds ih =>
    have hround : uncomment (before ++ marker ++ after) marker sign =
        some (before ++ marker ++ '\n' :: after) := by
      rw [uncomment_of_isFirstCut (hfirst.exchange after), bare_eq_iff.2 htakes]
      simp only [List.append_assoc, List.singleton_append]
    rw [uncommentRounds, hround, Option.bind_some, ih (hfirst.exchange ('\n' :: after)),
      List.replicate_succ']
    simp only [List.append_assoc, List.singleton_append]

/-- **Uncommenting again and again ends exactly where it takes something.** If
the sign is not empty and begins a line of the marker, a round no longer finds the
marker after no more rounds than the signs of one round go into the characters
that are no line feeds. Otherwise no round misses a marker that stands in the text
at all, and after so many rounds so many line feeds stand behind its first
occurrence. -/
theorem uncommentRounds_ends (content marker sign : Text) :
    (sign ≠ [] → 0 < signedLines sign marker → ∃ rounds last,
      rounds ≤ solid content / (signedLines sign marker * sign.length) ∧
      uncommentRounds marker sign rounds content = some last ∧
      uncomment last marker sign = none) ∧
    (signedLines sign marker = 0 ∨ sign = [] → marker <:+: content → ∃ before after,
      IsFirstCut marker content before after ∧
      ∀ rounds, uncommentRounds marker sign rounds content =
        some (before ++ marker ++ List.replicate rounds '\n' ++ after)) := by
  constructor
  · intro hsign hsigned
    have htakes : 0 < signedLines sign marker * sign.length :=
      Nat.mul_pos hsigned (List.length_pos_iff.2 hsign)
    obtain ⟨rounds, last, hlast, hnone⟩ := exists_last_round htakes content
    refine ⟨rounds, last, (Nat.le_div_iff_mul_le htakes).2 ?_, hlast, hnone⟩
    exact Nat.le.intro ((Nat.add_comm _ _).trans (solid_of_uncommentRounds hlast))
  · intro htakes hstands
    obtain ⟨before, after, hfirst⟩ := exists_isFirstCut hstands
    refine ⟨before, after, hfirst, fun rounds => ?_⟩
    conv_lhs => rw [hfirst.parts]
    exact uncommentRounds_of_nothing_taken htakes hfirst rounds

/-- A marker that stands in the text anew when its sign has gone, and one without
a sign. -/
theorem uncommentRounds_ends_of_nested :
    (∃ rounds last, rounds ≤ 4 ∧
      uncommentRounds "#b".toList "#".toList rounds "a##b".toList = some last ∧
      uncomment last "#b".toList "#".toList = none) ∧
    uncommentRounds "b".toList "#".toList 3 "abab".toList = some "ab\n\n\nab".toList := by
  have hsigned : signedLines "#".toList "#b".toList = 1 := by decide +kernel
  have hnone : signedLines "#".toList "b".toList = 0 := by decide +kernel
  have hstands : "b".toList <:+: "abab".toList := by decide +kernel
  constructor
  · have hends := (uncommentRounds_ends "a##b".toList "#b".toList "#".toList).1 (by decide)
      (by rw [hsigned]; decide)
    rw [hsigned] at hends
    exact hends
  · obtain ⟨before, after, hfirst, hrounds⟩ :=
      (uncommentRounds_ends "abab".toList "b".toList "#".toList).2 (.inl hnone) hstands
    have hcut : cut? "b".toList "abab".toList = some ("a".toList, "ab".toList) := by
      decide +kernel
    obtain ⟨rfl, rfl⟩ := hfirst.unique (cut?_eq_some_iff.1 hcut)
    exact hrounds 3

end Graft
