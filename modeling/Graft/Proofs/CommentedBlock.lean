import Graft.Proofs.AllOrNothing
import Graft.Proofs.RoundTrip
import Graft.Proofs.Uncommenting
import Mathlib.Data.List.Forall2

/-!
# Blocks of commented lines

A block is written line by line, each line behind the sign or, where it does not
begin with the sign, as it is. Uncommenting takes one sign from each line that has
one, and so it gives the lines back (`uncomment_written`).

Lines that carry one sign each are uncommented once. The marker is the block of
these lines, and what has to be ruled out is that it stands in the text again when
the signs have gone, in whatever shift of its lines against those of the text.

Every line of the block begins with the sign. So where an occurrence goes across a
line feed, the sign stands behind that line feed (`sign_prefix_of_newline`). Behind
the line feeds of the bared block it does not, nor behind the one before it, so no
occurrence goes across any of them (`infix_of_infix_newline`). What is left is an
occurrence inside one bared line, which is too short for it, or on one side of the
block, where it stood before (`not_infix_uncommented`).
-/

namespace Graft

open Text

variable {sign pre post a b line : Text} {block written : List Text}

/-! ## Signed and plain lines -/

/-- How a line may be written in a block: behind the sign or, where it does not begin
with the sign, as it is. -/
inductive WrittenWith (sign : Text) : Text → Text → Prop
  | signed (line : Text) : WrittenWith sign line (sign ++ line)
  | plain {line : Text} (hplain : ¬ sign <+: line) : WrittenWith sign line line

/-- **What is written stands for one line only**, the one that is left without the
sign. -/
theorem writtenWith_iff {entry : Text} :
    WrittenWith sign line entry ↔ stripSign sign entry = line := by
  constructor
  · intro h
    cases h with
    | signed => exact stripSign_append sign line
    | plain hplain => exact stripSign_of_plain hplain
  · rintro rfl
    by_cases hsigned : sign <+: entry
    · obtain ⟨line, rfl⟩ := hsigned
      rw [stripSign_append]
      exact .signed line
    · rw [stripSign_of_plain hsigned]
      exact .plain hsigned

/-- The signs go, the lines stay. -/
theorem map_stripSign_of_written (h : List.Forall₂ (WrittenWith sign) block written) :
    written.map (stripSign sign) = block := by
  induction h with
  | nil => rfl
  | cons hline _ ih => rw [List.map_cons, writtenWith_iff.1 hline, ih]

/-- All lines may be written behind the sign. -/
theorem forall₂_writtenWith_signed (sign : Text) (block : List Text) :
    List.Forall₂ (WrittenWith sign) block (block.map (sign ++ ·)) :=
  List.forall₂_map_right_iff.2 (List.forall₂_same.2 fun line _ => .signed line)

/-- What is written for lines are lines, if the sign has no line feed. -/
theorem newline_not_mem_of_written (hsign : '\n' ∉ sign) (hblock : ∀ line ∈ block, '\n' ∉ line)
    (h : List.Forall₂ (WrittenWith sign) block written) : ∀ entry ∈ written, '\n' ∉ entry := by
  induction h with
  | nil => exact hblock
  | cons hline _ ih =>
    rw [List.forall_mem_cons] at hblock ⊢
    refine ⟨?_, ih hblock.2⟩
    cases hline with
    | signed => simp [hsign, hblock.1]
    | plain => exact hblock.1

theorem lines_of_written (hsign : '\n' ∉ sign) (hne : block ≠ [])
    (hblock : ∀ line ∈ block, '\n' ∉ line)
    (h : List.Forall₂ (WrittenWith sign) block written) :
    lines (['\n'].intercalate written) = written := by
  refine lines_intercalate ?_ (newline_not_mem_of_written hsign hblock h)
  rintro rfl
  exact hne (List.forall₂_nil_right_iff.1 h)

/-- **A written block is bared to its lines.** -/
theorem bare_of_written (hsign : '\n' ∉ sign) (hne : block ≠ [])
    (hblock : ∀ line ∈ block, '\n' ∉ line)
    (h : List.Forall₂ (WrittenWith sign) block written) :
    bare sign (['\n'].intercalate written) = block.flatMap fun line => line ++ ['\n'] := by
  rw [bare_eq_flatMap, lines_of_written hsign hne hblock h, map_stripSign_of_written h]

/-- **Uncommenting undoes commenting out.** Whichever lines of a block are written
behind the sign, and also where such a line begins with the sign already: where the
written block is first found, the lines take its place, in order, each without the one
sign it was given and each ended by one line feed. -/
theorem uncomment_written (hsign : '\n' ∉ sign) (hne : block ≠ [])
    (hblock : ∀ line ∈ block, '\n' ∉ line)
    (h : List.Forall₂ (WrittenWith sign) block written)
    (hfirst : IsFirstCut (['\n'].intercalate written)
      (pre ++ ['\n'].intercalate written ++ post) pre post) :
    uncomment (pre ++ ['\n'].intercalate written ++ post) (['\n'].intercalate written) sign =
      some (pre ++ (block.flatMap fun line => line ++ ['\n']) ++ post) := by
  rw [uncomment_of_isFirstCut hfirst, bare_of_written hsign hne hblock h]

/-- An empty line, a line that begins with the sign and a plain one, behind lines
that begin the block. -/
theorem uncomment_written_of_mixed :
    let sign : Text := "//".toList
    let block : List Text := ["a".toList, [], "//b".toList, "c".toList]
    let written : List Text := ["//a".toList, "//".toList, "////b".toList, "c".toList]
    let marker : Text := ['\n'].intercalate written
    let pre : Text := "//a\n//\n".toList
    let post : Text := "\nd".toList
    '\n' ∉ sign ∧ block ≠ [] ∧ (∀ line ∈ block, '\n' ∉ line) ∧
      List.Forall₂ (WrittenWith sign) block written ∧
      IsFirstCut marker (pre ++ marker ++ post) pre post ∧
      uncomment (pre ++ marker ++ post) marker sign =
        some "//a\n//\na\n\n//b\nc\n\nd".toList := by
  intro sign block written marker pre post
  have hsign : '\n' ∉ sign := by decide
  have hblock : ∀ line ∈ block, '\n' ∉ line := by decide
  have hplain : WrittenWith sign "c".toList "c".toList := .plain (by decide)
  have hwritten : List.Forall₂ (WrittenWith sign) block written :=
    .cons (.signed _) (.cons (.signed _) (.cons (.signed _) (.cons hplain .nil)))
  have hfirst : IsFirstCut marker (pre ++ marker ++ post) pre post :=
    cut?_eq_some_iff.1 (by decide +kernel)
  exact ⟨hsign, by decide, hblock, hwritten, hfirst,
    uncomment_written hsign (by decide) hblock hwritten hfirst⟩

/-! ## The block -/

/-- The lines with the sign before each, as a block of whole lines. -/
def commented (sign : Text) (block : List Text) : Text :=
  ['\n'].intercalate (block.map (sign ++ ·))

/-- These are lines, and do not begin with the sign: with the sign before each they
carry it once. -/
structure SinglySigned (sign : Text) (block : List Text) : Prop where
  sign_ne_nil : sign ≠ []
  newline_not_mem_sign : '\n' ∉ sign
  block_ne_nil : block ≠ []
  newline_not_mem : ∀ line ∈ block, '\n' ∉ line
  plain : ∀ line ∈ block, ¬ sign <+: line

instance (sign : Text) (block : List Text) : Decidable (SinglySigned sign block) :=
  decidable_of_iff (sign ≠ [] ∧ '\n' ∉ sign ∧ block ≠ [] ∧ (∀ line ∈ block, '\n' ∉ line) ∧
      ∀ line ∈ block, ¬ sign <+: line)
    ⟨fun ⟨h, hsign, hne, hlines, hplain⟩ => ⟨h, hsign, hne, hlines, hplain⟩, fun h =>
      ⟨h.sign_ne_nil, h.newline_not_mem_sign, h.block_ne_nil, h.newline_not_mem, h.plain⟩⟩

namespace SinglySigned

theorem lines_commented (h : SinglySigned sign block) :
    lines (commented sign block) = block.map (sign ++ ·) :=
  lines_of_written h.newline_not_mem_sign h.block_ne_nil h.newline_not_mem
    (forall₂_writtenWith_signed sign block)

/-- Without the signs the lines are left. -/
theorem bare_commented (h : SinglySigned sign block) :
    bare sign (commented sign block) = block.flatMap fun line => line ++ ['\n'] :=
  bare_of_written h.newline_not_mem_sign h.block_ne_nil h.newline_not_mem
    (forall₂_writtenWith_signed sign block)

/-- No line of the block is as long as the block with the signs. -/
theorem length_lt (h : SinglySigned sign block) (hline : line ∈ block) :
    line.length < (commented sign block).length := by
  have hne : block.map (sign ++ ·) ≠ [] := by simpa using h.block_ne_nil
  have hsigned : (sign ++ line) ++ ['\n'] <:+: commented sign block ++ ['\n'] := by
    rw [commented, intercalate_append_newline hne]
    exact List.infix_of_mem_flatten
      (List.mem_map_of_mem (List.mem_map_of_mem (f := (sign ++ ·)) hline))
  have hlength := hsigned.length_le
  have hpos := List.length_pos_iff.2 h.sign_ne_nil
  simp only [List.length_append] at hlength
  omega

theorem commented_ne_nil (h : SinglySigned sign block) : commented sign block ≠ [] := by
  obtain ⟨line, others, rfl⟩ := List.exists_cons_of_ne_nil h.block_ne_nil
  exact List.ne_nil_of_length_pos (Nat.zero_lt_of_lt (h.length_lt List.mem_cons_self))

/-- **Behind every line feed of the block stands the sign.** -/
theorem sign_prefix_of_newline (h : SinglySigned sign block)
    (hparts : commented sign block = a ++ '\n' :: b) : sign <+: b := by
  obtain ⟨first, others, hb⟩ := List.exists_cons_of_ne_nil (lines_ne_nil b)
  -- the first line behind the line feed is one of the block
  have hfirst : first ∈ block.map (sign ++ ·) := by
    rw [← h.lines_commented, hparts, lines_append_newline_cons, hb]
    simp
  obtain ⟨line, -, rfl⟩ := List.mem_map.1 hfirst
  rw [← intercalate_lines b, hb]
  cases others with
  | nil =>
    rw [List.intercalate_singleton]
    exact List.prefix_append sign line
  | cons next more =>
    rw [List.intercalate_cons_cons, List.append_assoc, List.append_assoc]
    exact List.prefix_append sign _

/-! ## Where the block can stand -/

/-- The sign does not begin a line that it does not begin without what follows. -/
theorem not_prefix_line (h : SinglySigned sign block) (hline : ¬ sign <+: line) :
    ¬ sign <+: line ++ '\n' :: b := by
  have hclear : ¬ Overlaps ['\n'] sign :=
    not_overlaps_of_disjoint (by simp) h.sign_ne_nil (by simpa using h.newline_not_mem_sign)
  exact fun hsigned => hline (prefix_of_prefix_separator hclear hsigned)

/-- The sign does not begin the bared lines and what follows the block. -/
theorem not_prefix_bared (h : SinglySigned sign block) (hpost : post = [] ∨ ∃ b, post = '\n' :: b)
    {part : List Text} (hpart : part ⊆ block) :
    ¬ sign <+: (part.flatMap fun line => line ++ ['\n']) ++ post := by
  have hnil : ¬ sign <+: [] := fun hsigned => h.sign_ne_nil (List.prefix_nil.1 hsigned)
  cases part with
  | nil =>
    rcases hpost with rfl | ⟨b, rfl⟩
    · exact hnil
    · exact h.not_prefix_line hnil
  | cons line others =>
    have hline := h.plain line (hpart List.mem_cons_self)
    rw [List.flatMap_cons, List.append_assoc, List.append_assoc, List.singleton_append]
    exact h.not_prefix_line hline

/-- **No occurrence of the block goes across a line feed** behind which the sign does
not stand. -/
theorem infix_of_infix_newline (h : SinglySigned sign block) (hb : ¬ sign <+: b)
    (hin : commented sign block <:+: a ++ '\n' :: b) :
    commented sign block <:+: a ∨ commented sign block <:+: b := by
  rcases List.infix_append_iff.1 hin with ha | hb' | ⟨front, back, hparts, hfront, hback⟩
  · exact .inl ha
  · rcases List.infix_cons_iff.1 hb' with hhead | hb'
    · rcases List.prefix_cons_iff.1 hhead with hnil | ⟨back, hparts, hback⟩
      · exact absurd hnil h.commented_ne_nil
      · exact absurd ((h.sign_prefix_of_newline (a := []) hparts).trans hback) hb
    · exact .inr hb'
  · rcases List.prefix_cons_iff.1 hback with rfl | ⟨more, rfl, hmore⟩
    · rw [List.append_nil] at hparts
      exact .inl (hparts ▸ hfront.isInfix)
    · exact absurd ((h.sign_prefix_of_newline hparts).trans hmore) hb

/-- An occurrence of the block in its bared lines and what follows is one in what
follows. -/
theorem infix_of_infix_bared (h : SinglySigned sign block)
    (hpost : post = [] ∨ ∃ b, post = '\n' :: b) {part : List Text} (hpart : part ⊆ block)
    (hin : commented sign block <:+: (part.flatMap fun line => line ++ ['\n']) ++ post) :
    commented sign block <:+: post := by
  induction part with
  | nil => exact hin
  | cons line others ih =>
    obtain ⟨hline, hothers⟩ := List.cons_subset.1 hpart
    rw [List.flatMap_cons, List.append_assoc, List.append_assoc, List.singleton_append] at hin
    rcases h.infix_of_infix_newline (h.not_prefix_bared hpost hothers) hin with hshort | hin
    · exact absurd hshort.length_le (Nat.not_le.2 (h.length_lt hline))
    · exact ih hothers hin

/-- **The bared block makes no occurrence of the block**, on lines of its own, with
what stands before it and behind it. -/
theorem not_infix_uncommented (h : SinglySigned sign block)
    (hpre : pre = [] ∨ ∃ a, pre = a ++ ['\n']) (hpost : post = [] ∨ ∃ b, post = '\n' :: b)
    (honly : ∀ front back,
      pre ++ commented sign block ++ post = front ++ commented sign block ++ back → front = pre) :
    ¬ commented sign block <:+:
      pre ++ (block.flatMap fun line => line ++ ['\n']) ++ post := by
  have hne := h.commented_ne_nil
  have hbefore : ¬ commented sign block <:+: pre := by
    rintro ⟨front, back, rfl⟩
    have hsame := honly front (back ++ commented sign block ++ post) (by simp)
    simp [hne] at hsame
  have hafter : ¬ commented sign block <:+: post := by
    rintro ⟨front, back, rfl⟩
    have hsame := honly (pre ++ commented sign block ++ front) back (by simp)
    simp [hne] at hsame
  intro hin
  rw [List.append_assoc] at hin
  have hself := List.Subset.refl block
  rcases hpre with rfl | ⟨a, rfl⟩
  · exact hafter (h.infix_of_infix_bared hpost hself hin)
  · rw [List.append_assoc, List.singleton_append] at hin
    rcases h.infix_of_infix_newline (h.not_prefix_bared hpost hself) hin with hin | hin
    · exact hbefore (hin.trans (List.prefix_append a ['\n']).isInfix)
    · exact hafter (h.infix_of_infix_bared hpost hself hin)

end SinglySigned

/-! ## In a file -/

variable {store : Store} {path : Path} {content marker out : Text}

/-- To uncomment what is not there reads the file and does not write it. -/
theorem events_uncomment_absent (settings : Settings) (hread : store.readText path = .ok content)
    (habsent : uncomment content marker sign = none) :
    ((Step.splice settings path (.uncomment marker sign)).perform store).events =
      [.reading path, .uncommentAbsent path] := by
  have hkeep : (Edit.uncomment marker sign).decide content = .keep := by
    rw [Edit.decide_uncomment, habsent, Decision.ofOption]
  exact events_splice_of_keep settings hread hkeep

/-- A file that has been uncommented reads as the uncommented text. -/
theorem readText_of_uncommented {settings : Settings}
    (hread : store.readText path = .ok content) (hout : uncomment content marker sign = some out)
    (hdone : ((Step.splice settings path (.uncomment marker sign)).perform store).answer =
      .ok .done)
    (hpermits : ((Step.splice settings path
      (.uncomment marker sign)).perform store).store.permitsReading path = true) :
    ((Step.splice settings path (.uncomment marker sign)).perform store).store.readText path =
      .ok out := by
  have hwrite : (Edit.uncomment marker sign).decide content = .write out := by
    rw [Edit.decide_uncomment, hout, Decision.ofOption]
  obtain ⟨hanswer, hstore⟩ := perform_splice_of_write settings hread hwrite
  rw [hstore] at hpermits ⊢
  refine readText_writeFile hread ?_ hpermits
  rw [hdone] at hanswer
  cases hok : (writeFile settings path out store).answer with
  | ok _ => rfl
  | error error =>
    rw [hok] at hanswer
    cases hanswer

/-- **Lines that carry one sign each are uncommented once.** They stand on lines of
their own, and as a block nowhere else in the text. Then uncommenting the block finds
it, and leaves a text in which it does not stand, so that a second time there is
nothing to uncomment. And a file that has been uncommented so, if its owner may still
read it, is read a second time and not written, and that goes well. -/
theorem uncomment_commented_once (h : SinglySigned sign block)
    (hpre : pre = [] ∨ ∃ a, pre = a ++ ['\n']) (hpost : post = [] ∨ ∃ b, post = '\n' :: b)
    (honly : ∀ front back,
      pre ++ commented sign block ++ post = front ++ commented sign block ++ back → front = pre) :
    let marker := commented sign block
    ∃ out, uncomment (pre ++ marker ++ post) marker sign = some out ∧ ¬ marker <:+: out ∧
      uncomment out marker sign = none ∧
      ∀ (store : Store) (path : Path) (settings settings' : Settings),
        store.readText path = .ok (pre ++ marker ++ post) →
        let first := (Step.splice settings path (.uncomment marker sign)).perform store
        first.answer = .ok .done → first.store.permitsReading path = true →
        let second := (Step.splice settings' path (.uncomment marker sign)).perform first.store
        second.answer = .ok .done ∧ second.store = first.store ∧
          second.events = [.reading path, .uncommentAbsent path] := by
  intro marker
  have hfirst : IsFirstCut marker (pre ++ marker ++ post) pre post :=
    ⟨rfl, fun front back hparts => (congrArg List.length (honly front back hparts)).ge⟩
  have hout : uncomment (pre ++ marker ++ post) marker sign =
      some (pre ++ bare sign marker ++ post) := uncomment_of_isFirstCut hfirst
  have hgone : ¬ marker <:+: pre ++ bare sign marker ++ post := by
    rw [h.bare_commented]
    exact h.not_infix_uncommented hpre hpost honly
  have hnone : uncomment (pre ++ bare sign marker ++ post) marker sign = none :=
    uncomment_eq_none_iff.2 hgone
  refine ⟨_, hout, hgone, hnone, ?_⟩
  intro store path settings settings' hread first hdone hpermits second
  have hagain := readText_of_uncommented hread hout hdone hpermits
  have hidle : second.answer = .ok .done ∧ second.store = first.store :=
    perform_uncomment_absent hagain hnone
  exact ⟨hidle.1, hidle.2, events_uncomment_absent settings' hagain hnone⟩

/-- Lines before and behind the block that begin it and end it, in a file that
cannot be written when it has been uncommented. -/
theorem uncomment_commented_once_of_near_misses :
    let sign : Text := "#".toList
    let block : List Text := ["a".toList, "b".toList]
    let marker := commented sign block
    let content : Text := "#a\n".toList ++ marker ++ "\n#b".toList
    let store : Store := ⟨[], [([[0x66]], .file 0)], [(0, ⟨0o644, Text.encode content⟩)]⟩
    let path : Path := .ofText "f".toList
    let settings : Settings := { atomicWrites := true, fileMode := 0o400 }
    let first := (Step.splice settings path (.uncomment marker sign)).perform store
    let second := (Step.splice {} path (.uncomment marker sign)).perform first.store
    SinglySigned sign block ∧ content = "#a\n#a\n#b\n#b".toList ∧
      (∃ out, uncomment content marker sign = some out ∧ uncomment out marker sign = none) ∧
      first.answer = .ok .done ∧ second.answer = .ok .done ∧ second.store = first.store ∧
      second.events = [.reading path, .uncommentAbsent path] := by
  intro sign block marker content store path settings first second
  have hblock : SinglySigned sign block := by decide
  have hfronts : ∀ front ∈ content.inits, marker <+: content.drop front.length →
      front = "#a\n".toList := by decide +kernel
  have honly : ∀ front back, content = front ++ marker ++ back → front = "#a\n".toList := by
    intro front back hparts
    rw [List.append_assoc] at hparts
    refine hfronts front ((List.mem_inits _ _).2 ⟨_, hparts.symm⟩) ?_
    rw [hparts, List.drop_left]
    exact List.prefix_append marker back
  obtain ⟨out, hout, -, hnone, hfile⟩ := uncomment_commented_once hblock
    (.inr ⟨"#a".toList, by decide⟩) (.inr ⟨"#b".toList, by decide⟩) honly
  have hread : store.readText path = .ok content := by decide +kernel
  have hdone : first.answer = .ok .done := by decide +kernel
  have hpermits : first.store.permitsReading path = true := by decide +kernel
  exact ⟨hblock, by decide +kernel, ⟨out, hout, hnone⟩, hdone,
    hfile store path settings {} hread hdone hpermits⟩

end Graft
