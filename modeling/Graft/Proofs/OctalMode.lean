import Graft.Splice
import Graft.Proofs.Spelling

/-!
# Modes that are refused, and modes that are shown

A value that writes no mode is refused for one of three reasons. What decides is
what trimming leaves without the mark `0o` (`unmarked`). Where that is nothing,
there is nothing to read. Behind a plus sign or none the digits are then read one
by one: octal digits may outgrow 32 bits before any other character is met
(`Outgrows`), whatever comes after them; in all other cases some character, or the
lack of any behind a sign, is at fault (`octal_eq_error_iff`).

The other way round, a number with 32 bits is shown in octal digits that write it
(`parseMode_toDigits`), so a mode that is refused for its size can be read back
from the message that refuses it.
-/

namespace Graft

namespace Settings

variable {value spelling digits : Text} {n : Nat} {c : Char} {fault : DigitFault}

/-! ## What outgrows a word -/

/-- Octal digits at the beginning of the text write a number with more than 32
bits. -/
def Outgrows (digits : Text) : Prop :=
  ∃ read, read <+: digits ∧ (∀ c ∈ read, IsOctal c) ∧ wordBound ≤ Nat.ofDigitChars 8 read 0

theorem not_outgrows_nil : ¬ Outgrows [] := by
  rintro ⟨read, hread, -, hlarge⟩
  obtain rfl : read = [] := List.prefix_nil.1 hread
  exact absurd hlarge (by decide)

/-- The reader of digits calls a number too large where octal digits, read so far,
have made it so. -/
theorem octalFrom_eq_tooLarge_iff {value : Nat} (hvalue : value < wordBound) :
    octalFrom value digits = .error .tooLarge ↔
      ∃ read, read <+: digits ∧ (∀ c ∈ read, IsOctal c) ∧
        wordBound ≤ Nat.ofDigitChars 8 read value := by
  induction digits generalizing value with
  | nil =>
    simp only [octalFrom, reduceCtorEq, false_iff]
    rintro ⟨read, hread, -, hlarge⟩
    rw [List.prefix_nil.1 hread] at hlarge
    exact absurd hvalue (Nat.not_lt.2 hlarge)
  | cons c rest ih =>
    rw [octalFrom]
    by_cases hc : IsOctal c
    · rw [if_pos hc]
      by_cases hlarge : wordBound ≤ 8 * value + (c.toNat - 0x30)
      · rw [if_pos hlarge]
        simp only [true_iff]
        exact ⟨[c], List.prefix_append [c] rest, List.forall_mem_singleton.2 hc, hlarge⟩
      · have hnext := Nat.not_le.1 hlarge
        rw [if_neg hlarge, ih hnext]
        constructor
        · rintro ⟨read, hread, hoctal, hnumber⟩
          exact ⟨c :: read, List.cons_prefix_cons.2 ⟨rfl, hread⟩,
            List.forall_mem_cons.2 ⟨hc, hoctal⟩, hnumber⟩
        · rintro ⟨_ | ⟨d, read⟩, hread, hoctal, hnumber⟩
          · exact absurd hvalue (Nat.not_lt.2 hnumber)
          · obtain ⟨rfl, hrest⟩ := List.cons_prefix_cons.1 hread
            exact ⟨read, hrest, (List.forall_mem_cons.1 hoctal).2, hnumber⟩
    · rw [if_neg hc]
      simp only [Except.error.injEq, reduceCtorEq, false_iff]
      rintro ⟨_ | ⟨d, read⟩, hread, hoctal, hnumber⟩
      · exact absurd hvalue (Nat.not_lt.2 hnumber)
      · obtain ⟨rfl, -⟩ := List.cons_prefix_cons.1 hread
        exact hc (List.forall_mem_cons.1 hoctal).1

/-- Digits that are read go wrong in their characters or their number. -/
theorem octalFrom_ne_empty (value : Nat) (digits : Text) :
    octalFrom value digits ≠ .error .empty := by
  induction digits generalizing value with
  | nil => simp [octalFrom]
  | cons c rest ih =>
    rw [octalFrom]
    split
    · simp only
      split
      · simp
      · exact ih _
    · simp

/-! ## The three reasons -/

/-- One sign is taken off and the rest is read as digits, if there is any. -/
theorem octal_eq (spelling : Text) :
    octal spelling =
      if spelling = [] then .error .empty
      else if stripSign ['+'] spelling = [] then .error .notADigit
      else octalFrom 0 (stripSign ['+'] spelling) := by
  unfold octal
  split
  · rfl
  · rfl
  · rename_i rest hlone
    have hrest : rest ≠ [] := by simpa using hlone
    simp [stripSign, hrest]
  · rename_i hnil _ hsigned
    have hplain : stripSign ['+'] spelling = spelling := by
      cases spelling with
      | nil => exact absurd rfl hnil
      | cons c rest =>
        have hc : ¬ '+' = c := fun hc => hsigned rest (hc ▸ rfl)
        simp [stripSign, hc]
    rw [hplain, if_neg hnil, if_neg hnil]

/-- **Why a spelling is no octal number**: it is empty, or else its digits outgrow
32 bits, or else a character is at fault. -/
theorem octal_eq_error_iff (h : octal spelling = .error fault) :
    (fault = .empty ↔ spelling = []) ∧
      (fault = .tooLarge ↔ Outgrows (stripSign ['+'] spelling)) := by
  have hzero : 0 < wordBound := by decide
  rw [octal_eq] at h
  split at h
  · rename_i hnil
    subst hnil
    cases h
    exact ⟨by simp, by simpa [stripSign] using not_outgrows_nil⟩
  · rename_i hne
    split at h
    · rename_i hlone
      cases h
      rw [hlone]
      exact ⟨by simpa using hne, by simpa using not_outgrows_nil⟩
    · have hempty : fault ≠ .empty := by
        rintro rfl
        exact octalFrom_ne_empty _ _ h
      refine ⟨by simp [hempty, hne], ?_⟩
      rw [Outgrows, ← octalFrom_eq_tooLarge_iff hzero, h, Except.error.injEq]

/-! ## Modes -/

/-- What is to write the number: the value without the blanks around it and
without the mark `0o`. -/
def unmarked (value : Text) : Text :=
  stripSign ['0', 'o'] (Text.trim value)

theorem parseMode_eq (value : Text) :
    parseMode value = (octal (unmarked value)).mapError (.badMode value) := by
  unfold parseMode unmarked
  split
  · rename_i rest htrim
    simp [htrim, stripSign]
  · rename_i hmark
    have hplain : stripSign ['0', 'o'] (Text.trim value) = Text.trim value := by
      unfold stripSign
      rw [if_neg]
      rw [List.isPrefixOf_iff_prefix]
      rintro ⟨rest, hrest⟩
      exact hmark rest hrest.symm
    rw [hplain]

/-- What is said of a value that writes no mode: that nothing is left to read, that
its digits outgrow 32 bits, or else that a character is at fault. -/
structure ToldReason (value reason : Text) : Prop where
  empty : reason = "cannot parse integer from empty string".toList ↔ unmarked value = []
  tooLarge : reason = "number too large to fit in target type".toList ↔
    Outgrows (stripSign ['+'] (unmarked value))
  notADigit : reason = "invalid digit found in string".toList ↔
    unmarked value ≠ [] ∧ ¬ Outgrows (stripSign ['+'] (unmarked value))

/-- Different faults are told in different words. -/
theorem DigitFault.text_inj {a b : DigitFault} : a.text = b.text ↔ a = b := by
  constructor
  · cases a <;> cases b <;> decide +kernel
  · rintro rfl
    rfl

/-- **A value that is refused is told the reason.** -/
theorem toldReason_of_parseMode {problem : Problem} (h : parseMode value = .error problem) :
    ∃ reason, problem.text = modeVariable ++ ['='] ++ Text.quote value ++ ": ".toList ++ reason ∧
      ToldReason value reason := by
  rw [parseMode_eq] at h
  cases hread : octal (unmarked value) with
  | ok n => simp [hread, Except.mapError] at h
  | error fault =>
    obtain rfl : Problem.badMode value fault = problem := by
      simpa [hread, Except.mapError] using h
    obtain ⟨hempty, hlarge⟩ := octal_eq_error_iff hread
    have hother : fault = .notADigit ↔ fault ≠ .empty ∧ fault ≠ .tooLarge := by
      cases fault <;> decide
    rw [Ne, hempty, Ne, hlarge] at hother
    exact ⟨fault.text, rfl, DigitFault.text_inj.trans hempty, DigitFault.text_inj.trans hlarge,
      DigitFault.text_inj.trans hother⟩

/-! ## Numbers that are shown -/

theorem isOctal_of_mem_toDigits (h : c ∈ Nat.toDigits 8 n) : IsOctal c := by
  have hdigit : ∀ d < 8, IsOctal (Nat.digitChar d) := by decide
  obtain ⟨d, hd, rfl⟩ := Text.exists_digitChar_of_mem_toDigits (by decide) h
  exact hdigit d hd

/-- The octal digits of a number write it. -/
theorem writesOctal_toDigits (hn : n < wordBound) : WritesOctal (Nat.toDigits 8 n) n :=
  ⟨[], Nat.toDigits 8 n, rfl, .inl rfl, Nat.toDigits_ne_nil, fun _ => isOctal_of_mem_toDigits,
    Nat.ofDigitChars_toDigits (by decide) (by decide), hn⟩

/-- **A number shown in octal is read back**, behind the mark or without it. -/
theorem parseMode_toDigits (hn : n < wordBound) {mark : Text}
    (hmark : mark = [] ∨ mark = ['0', 'o']) : parseMode (mark ++ Nat.toDigits 8 n) = .ok n := by
  rw [parseMode_eq_ok_iff]
  exact ⟨[], mark, Nat.toDigits 8 n, [], by simp, rfl, rfl, hmark, writesOctal_toDigits hn⟩

/-- **Which values write a mode, and what is said of the others.** A value gives a
mode exactly if it writes it: octal digits, whose number has 32 bits, after a plus
sign or none, after `0o` or none, between blanks. The others are told which of
three reasons it is. A number with 32 bits is read back from its octal digits, so
the message that refuses a mode for its size shows what can be read back. -/
theorem parseMode_by_spelling (value : Text) :
    (∀ mode, parseMode value = .ok mode ↔ WritesMode value mode) ∧
      (∀ problem, parseMode value = .error problem → ∃ reason,
        problem.text = modeVariable ++ ['='] ++ Text.quote value ++ ": ".toList ++ reason ∧
          ToldReason value reason) ∧
      (∀ mode < wordBound, parseMode (Nat.toDigits 8 mode) = .ok mode ∧
        parseMode ("0o".toList ++ Nat.toDigits 8 mode) = .ok mode) ∧
      ∀ settings : Settings, maxMode < settings.fileMode → settings.fileMode < wordBound →
        ∃ problem shown, settings.check = .error problem ∧
          problem.text = "file_mode ".toList ++ shown ++ " exceeds 0o777".toList ∧
          parseMode shown = .ok settings.fileMode := by
  refine ⟨fun _ => parseMode_eq_ok_iff, fun _ => toldReason_of_parseMode, fun mode hmode => ?_,
    fun settings hlarge hword => ?_⟩
  · exact ⟨parseMode_toDigits hmode (.inl rfl), parseMode_toDigits hmode (.inr rfl)⟩
  · have hcheck : settings.check = .error (.modeTooLarge settings.fileMode) := if_pos hlarge
    exact ⟨_, _, hcheck, rfl, parseMode_toDigits hword (.inl rfl)⟩

/-- Digits that outgrow 32 bits before a character that is none, a greatest mode, and
one that is refused for its size. -/
theorem parseMode_by_spelling_of_outgrown :
    let value := "\u3000 0o+40000000000z\t".toList
    let problem := Problem.badMode value .tooLarge
    let settings : Settings := { fileMode := 0o1000 }
    parseMode value = .error problem ∧
      (∃ reason,
        problem.text = modeVariable ++ ['='] ++ Text.quote value ++ ": ".toList ++ reason ∧
          ToldReason value reason) ∧
      0o37777777777 < wordBound ∧
      parseMode ("0o".toList ++ Nat.toDigits 8 0o37777777777) = .ok 0o37777777777 ∧
      maxMode < settings.fileMode ∧ settings.fileMode < wordBound ∧
      ∃ problem shown, settings.check = .error problem ∧
        problem.text = "file_mode ".toList ++ shown ++ " exceeds 0o777".toList ∧
        parseMode shown = .ok settings.fileMode := by
  intro value problem settings
  have hrefused : parseMode value = .error problem := by decide +kernel
  have hmode : 0o37777777777 < wordBound := by decide
  have hlarge : maxMode < settings.fileMode := by decide
  have hword : settings.fileMode < wordBound := by decide
  obtain ⟨-, htold, hshown, hcheck⟩ := parseMode_by_spelling value
  exact ⟨hrefused, htold problem hrefused, hmode, (hshown _ hmode).2, hlarge, hword,
    hcheck settings hlarge hword⟩

end Settings

end Graft
