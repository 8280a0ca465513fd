import Graft.Settings.Override
import Mathlib.Data.List.TakeWhile

/-!
# How overrides are spelt

What the readers of overrides accept, said without them. A mode is written in
octal digits (`WritesOctal`), which a plus sign, the mark `0o` and blanks may
surround, each in its place (`WritesMode`); a truth value is one of nine words
between blanks, in any mix of capitals (`WritesSwitch`). The readers accept
exactly these and give the number and the truth value that is written
(`parseMode_eq_ok_iff`, `parseSwitch_eq_ok_iff`).

The reader of digits goes by the number so far and stops where it gets too
large. As the number never falls it is enough to ask of the last one whether it
is small enough (`octalFrom_eq_ok_iff`).
-/

namespace Graft

namespace Text

variable {content before core after : Text} {first last : Char}

/-! ## Trimming -/

theorem isAllBlank_iff : isAllBlank content = true ↔ ∀ c ∈ content, isBlank c = true :=
  List.all_eq_true

/-- Trimming takes away blanks, and nothing else. -/
theorem exists_eq_append_trim (content : Text) :
    ∃ before after, content = before ++ trim content ++ after ∧ isAllBlank before = true ∧
      isAllBlank after = true := by
  let middle := content.dropWhile isBlank
  refine ⟨content.takeWhile isBlank, (middle.reverse.takeWhile isBlank).reverse, ?_, ?_, ?_⟩
  · have hmiddle : trim content ++ (middle.reverse.takeWhile isBlank).reverse = middle := by
      have h := congrArg List.reverse (List.takeWhile_append_dropWhile (p := isBlank)
        (l := middle.reverse))
      rwa [List.reverse_append, List.reverse_reverse] at h
    rw [List.append_assoc, hmiddle, List.takeWhile_append_dropWhile]
  · exact isAllBlank_iff.2 fun c hc => List.mem_takeWhile_imp hc
  · exact isAllBlank_iff.2 fun c hc => List.mem_takeWhile_imp (List.mem_reverse.1 hc)

/-- What stands between blanks and begins and ends with none is what trimming
leaves. -/
theorem trim_append (hbefore : isAllBlank before = true) (hafter : isAllBlank after = true)
    (hfirst : core.head? = some first) (hfirst' : isBlank first = false)
    (hlast : core.getLast? = some last) (hlast' : isBlank last = false) :
    trim (before ++ core ++ after) = core := by
  have hafter' : ∀ c ∈ after.reverse, isBlank c = true := fun c hc =>
    isAllBlank_iff.1 hafter c (List.mem_reverse.1 hc)
  have hfront : (core ++ after).dropWhile isBlank = core ++ after := by
    obtain ⟨rest, rfl⟩ := List.head?_eq_some_iff.1 hfirst
    rw [List.cons_append, List.dropWhile_cons_of_neg (by simp [hfirst'])]
  have hback : core.reverse.dropWhile isBlank = core.reverse := by
    obtain ⟨rest, rfl⟩ := List.getLast?_eq_some_iff.1 hlast
    rw [List.reverse_append, List.reverse_singleton, List.singleton_append,
      List.dropWhile_cons_of_neg (by simp [hlast'])]
  rw [trim, List.append_assoc, List.dropWhile_append_of_pos (isAllBlank_iff.1 hbefore), hfront,
    List.reverse_append, List.dropWhile_append_of_pos hafter', hback, List.reverse_reverse]

/-- Trimming leaves nothing of a text that has nothing but blanks. -/
theorem trim_eq_nil_iff : trim content = [] ↔ isAllBlank content = true := by
  constructor
  · intro h
    obtain ⟨before, after, hcontent, hbefore, hafter⟩ := exists_eq_append_trim content
    rw [hcontent, h, List.append_nil, isAllBlank, List.all_append]
    exact Bool.and_eq_true_iff.2 ⟨hbefore, hafter⟩
  · intro h
    have hnil : content.dropWhile isBlank = [] := List.dropWhile_eq_nil_iff.2 (isAllBlank_iff.1 h)
    rw [trim, hnil]
    rfl

end Text

namespace Settings

variable {value spelling digits : Text} {n mode : Nat} {c : Char} {switch : Bool}

/-! ## Octal digits -/

/-- The character is an octal digit. -/
abbrev IsOctal (c : Char) : Prop := '0' ≤ c ∧ c ≤ '7'

theorem IsOctal.not_blank (h : IsOctal c) : Text.isBlank c = false := by
  have hlow : 0x30 ≤ c.toNat := h.1
  have hhigh : c.toNat ≤ 0x37 := h.2
  simp [Text.isBlank, Text.blankRanges]
  omega

/-- The number that digits write going on from another is no less than that. -/
theorem le_ofDigitChars (value : Nat) (digits : Text) :
    value ≤ Nat.ofDigitChars 8 digits value := by
  induction digits generalizing value with
  | nil => exact Nat.le_refl value
  | cons c rest ih =>
    rw [Nat.ofDigitChars_cons]
    have := ih (8 * value + (c.toNat - '0'.toNat))
    omega

/-- **The reader of digits accepts octal digits whose number has 32 bits.** -/
theorem octalFrom_eq_ok_iff {value : Nat} (hvalue : value < wordBound) :
    octalFrom value digits = .ok n ↔
      (∀ c ∈ digits, IsOctal c) ∧ Nat.ofDigitChars 8 digits value = n ∧ n < wordBound := by
  induction digits generalizing value with
  | nil =>
    simp only [octalFrom, Except.ok.injEq, List.not_mem_nil, false_imp_iff, implies_true, true_and]
    constructor
    · rintro rfl
      exact ⟨rfl, hvalue⟩
    · exact And.left
  | cons c rest ih =>
    rw [octalFrom, List.forall_mem_cons, Nat.ofDigitChars_cons]
    by_cases hc : IsOctal c
    · rw [if_pos hc]
      by_cases hlarge : wordBound ≤ 8 * value + (c.toNat - 0x30)
      · -- the number only grows, so it is too large in the end
        rw [if_pos hlarge]
        simp only [reduceCtorEq, false_iff]
        rintro ⟨-, rfl, hsmall⟩
        have hle := le_ofDigitChars (8 * value + (c.toNat - 0x30)) rest
        exact absurd (Nat.lt_of_le_of_lt hle hsmall) (Nat.not_lt.2 hlarge)
      · rw [if_neg hlarge, ih (Nat.not_le.1 hlarge)]
        exact ⟨fun ⟨hrest, hn⟩ => ⟨⟨hc, hrest⟩, hn⟩, fun ⟨⟨_, hrest⟩, hn⟩ => ⟨hrest, hn⟩⟩
    · rw [if_neg hc]
      simp only [reduceCtorEq, false_iff]
      exact fun h => hc h.1.1

/-- The text is octal digits, at least one, after a plus sign or none, and
their number, which has 32 bits, is `n`. -/
def WritesOctal (spelling : Text) (n : Nat) : Prop :=
  ∃ sign digits, spelling = sign ++ digits ∧ (sign = [] ∨ sign = ['+']) ∧ digits ≠ [] ∧
    (∀ c ∈ digits, IsOctal c) ∧ Nat.ofDigitChars 8 digits 0 = n ∧ n < wordBound

theorem octal_eq_ok_iff : octal spelling = .ok n ↔ WritesOctal spelling n := by
  have hzero : 0 < wordBound := by decide
  have hplus : ¬ IsOctal '+' := by decide
  unfold octal
  split
  · simp only [reduceCtorEq, false_iff]
    rintro ⟨sign, digits, hnil, -, hne, -⟩
    exact hne (List.append_eq_nil_iff.1 hnil.symm).2
  · -- a lone sign is neither followed by digits nor one of them
    simp only [reduceCtorEq, false_iff]
    rintro ⟨sign, digits, heq, rfl | rfl, hne, hoctal, -⟩
    · rw [List.nil_append] at heq
      exact hplus (hoctal '+' (by simp [← heq]))
    · exact hne (by simpa using heq.symm)
  · rename_i rest hlone
    rw [octalFrom_eq_ok_iff hzero]
    constructor
    · rintro ⟨hoctal, hnumber⟩
      exact ⟨['+'], rest, rfl, .inr rfl, by simpa using hlone, hoctal, hnumber⟩
    · rintro ⟨sign, digits, heq, rfl | rfl, hne, hoctal, hnumber⟩
      · rw [List.nil_append] at heq
        exact absurd (hoctal '+' (by simp [← heq])) hplus
      · obtain rfl : rest = digits := by simpa using heq
        exact ⟨hoctal, hnumber⟩
  · rename_i hnil hlone hsigned
    rw [octalFrom_eq_ok_iff hzero]
    constructor
    · rintro ⟨hoctal, hnumber⟩
      exact ⟨[], spelling, rfl, .inl rfl, hnil, hoctal, hnumber⟩
    · rintro ⟨sign, digits, heq, rfl | rfl, hne, hoctal, hnumber⟩
      · obtain rfl : spelling = digits := heq
        exact ⟨hoctal, hnumber⟩
      · exact absurd heq (hsigned digits)

/-- The first and the last character of an octal spelling are no blanks. -/
theorem WritesOctal.ends (h : WritesOctal spelling n) :
    ∃ first last, spelling.head? = some first ∧ Text.isBlank first = false ∧
      spelling.getLast? = some last ∧ Text.isBlank last = false := by
  obtain ⟨sign, digits, rfl, hsign, hne, hoctal, -⟩ := h
  obtain ⟨c, rest, rfl⟩ := List.exists_cons_of_ne_nil hne
  have hlast := hoctal _ (List.getLast_mem hne)
  refine ⟨(sign ++ c :: rest).head (by simp), (c :: rest).getLast hne,
    List.head?_eq_some_head _, ?_, ?_, hlast.not_blank⟩
  · rcases hsign with rfl | rfl
    · exact (hoctal c List.mem_cons_self).not_blank
    · rfl
  · rw [List.getLast?_append, List.getLast?_eq_some_getLast hne]
    rfl

/-! ## Modes -/

/-- The text writes a mode: in octal, after `0o` or without it, between blanks. -/
def WritesMode (value : Text) (mode : Nat) : Prop :=
  ∃ before mark spelling after, value = before ++ (mark ++ spelling) ++ after ∧
    Text.isAllBlank before = true ∧ Text.isAllBlank after = true ∧
    (mark = [] ∨ mark = ['0', 'o']) ∧ WritesOctal spelling mode

/-- An octal spelling does not begin with the mark. -/
theorem WritesOctal.not_marked (h : WritesOctal spelling n) (rest : Text) :
    spelling ≠ '0' :: 'o' :: rest := by
  rintro rfl
  obtain ⟨sign, digits, heq, rfl | rfl, -, hoctal, -⟩ := h
  · rw [List.nil_append] at heq
    have ho : IsOctal 'o' := hoctal 'o' (by simp [← heq])
    exact absurd ho (by decide)
  · simp at heq

/-- Of what writes a mode trimming leaves the mark and the octal spelling. -/
theorem writesMode_iff :
    WritesMode value mode ↔ ∃ mark spelling, Text.trim value = mark ++ spelling ∧
      (mark = [] ∨ mark = ['0', 'o']) ∧ WritesOctal spelling mode := by
  constructor
  · rintro ⟨before, mark, spelling, after, rfl, hbefore, hafter, hmark, hspelling⟩
    obtain ⟨first, last, hfirst, hfirst', hlast, hlast'⟩ := hspelling.ends
    have hlast : (mark ++ spelling).getLast? = some last := by
      rw [List.getLast?_append, hlast]
      rfl
    refine ⟨mark, spelling, ?_, hmark, hspelling⟩
    rcases hmark with rfl | rfl
    · exact Text.trim_append hbefore hafter hfirst hfirst' hlast hlast'
    · exact Text.trim_append hbefore hafter rfl (by decide) hlast hlast'
  · rintro ⟨mark, spelling, htrim, hmark, hspelling⟩
    obtain ⟨before, after, hvalue, hbefore, hafter⟩ := Text.exists_eq_append_trim value
    rw [htrim] at hvalue
    exact ⟨before, mark, spelling, after, hvalue, hbefore, hafter, hmark, hspelling⟩

/-- **The reader of modes accepts what writes a mode**, and gives that mode. -/
theorem parseMode_eq_ok_iff : parseMode value = .ok mode ↔ WritesMode value mode := by
  have hmap (r : Except DigitFault Nat) :
      r.mapError (Problem.badMode value) = .ok mode ↔ r = .ok mode := by
    cases r <;> simp [Except.mapError]
  unfold parseMode
  rw [hmap, octal_eq_ok_iff, writesMode_iff]
  split
  · rename_i rest htrim
    rw [htrim]
    constructor
    · intro h
      exact ⟨['0', 'o'], rest, rfl, .inr rfl, h⟩
    · rintro ⟨mark, spelling, heq, rfl | rfl, h⟩
      · exact absurd heq.symm (h.not_marked rest)
      · obtain rfl : rest = spelling := by simpa using heq
        exact h
  · rename_i hmark
    constructor
    · intro h
      exact ⟨[], Text.trim value, rfl, .inl rfl, h⟩
    · rintro ⟨mark, spelling, heq, rfl | rfl, h⟩
      · rwa [heq]
      · exact absurd heq (hmark spelling)

/-! ## Truth values -/

/-- The text writes a truth value: one of its words, between blanks and in any
mix of capitals. -/
def WritesSwitch (value : Text) (switch : Bool) : Prop :=
  Text.toLowerAscii (Text.trim value) ∈ if switch then yesWords else noWords

/-- **The reader of truth values accepts what writes one**, and gives it. -/
theorem parseSwitch_eq_ok_iff : parseSwitch value = .ok switch ↔ WritesSwitch value switch := by
  have hdisjoint : ∀ word ∈ noWords, word ∉ yesWords := by decide
  unfold parseSwitch WritesSwitch
  generalize Text.toLowerAscii (Text.trim value) = word
  by_cases hyes : word ∈ yesWords
  · cases switch with
    | true => simp [hyes]
    | false => simpa [hyes] using fun hno => hdisjoint word hno hyes
  · by_cases hno : word ∈ noWords <;> cases switch <;> simp [hyes, hno]

end Settings

end Graft
