import Graft.Toml.Fault
import Graft.Toml.Value

/-!
# Values as they are written

Three kinds of value and how they are written on a line of a document: an
integer in decimal, a truth value by its word, and a text between double quotes.
Of a text only the quote, the backslash and the control characters have to be
escaped; every other character stands for itself, and so none of them ends the
line.

Each of them is read back as it was (`value?_integerText`, `value?_switchText`,
`value?_quoted`), as long as the line ends after it. An integer is the one that
could be something else: its digits might begin a date, a time of day or a float.
None of these goes on with nothing but digits to the end of the line
(`DigitsLeft`).
-/

namespace Graft

namespace Toml

variable {content rest digits : Text} {c : Char} {value : Int} {depth : Nat}

/-! ## Line ends -/

/-- Nothing is left of the line. -/
def AtLineEnd (rest : Text) : Prop :=
  ∀ c ∈ rest.head?, c = '\n'

theorem AtLineEnd.cases (h : AtLineEnd rest) : rest = [] ∨ ∃ more, rest = '\n' :: more := by
  cases rest with
  | nil => exact .inl rfl
  | cons c more =>
    obtain rfl : c = '\n' := h c rfl
    exact .inr ⟨more, rfl⟩

/-- What follows the line is what follows its line feed, if it has one. -/
theorem finishLine?_of_atLineEnd (h : AtLineEnd rest) : finishLine? rest = some rest.tail := by
  obtain rfl | ⟨more, rfl⟩ := h.cases
  · rfl
  · rfl

/-! ## Digits -/

/-- Nothing but decimal digits is left of the line. -/
inductive DigitsLeft : Text → Prop
  | done {rest : Text} (h : AtLineEnd rest) : DigitsLeft rest
  | digit {c : Char} {rest : Text} (h : c.isDigit = true) (more : DigitsLeft rest) :
      DigitsLeft (c :: rest)

namespace DigitsLeft

theorem append (h : ∀ c ∈ digits, c.isDigit = true) (hrest : AtLineEnd rest) :
    DigitsLeft (digits ++ rest) := by
  induction digits with
  | nil => exact .done hrest
  | cons c digits ih =>
    exact .digit (h c List.mem_cons_self) (ih fun c hc => h c (List.mem_cons_of_mem _ hc))

theorem tail (h : DigitsLeft (c :: rest)) (hc : c.isDigit = true) : DigitsLeft rest := by
  cases h with
  | done h =>
    obtain rfl : c = '\n' := h c rfl
    cases hc
  | digit _ more => exact more

/-- A mark that is no digit does not stand next. -/
theorem skip?_eq_none (h : DigitsLeft content) (mark : Char) (hdigit : mark.isDigit = false)
    (hend : mark ≠ '\n') : skip? mark content = none := by
  cases h with
  | done h =>
    obtain rfl | ⟨more, rfl⟩ := h.cases
    · rfl
    · simp [skip?, hend]
  | @digit c rest h more =>
    have hne : mark ≠ c := by
      rintro rfl
      rw [hdigit] at h
      cases h
    simp [skip?, hne]

theorem of_fourDigits? (h : DigitsLeft content) {n : Nat}
    (hread : fourDigits? content = some (n, rest)) : DigitsLeft rest := by
  unfold fourDigits? at hread
  split at hread
  · split at hread
    · rename_i hdigits
      simp only [List.all_cons, List.all_nil, Bool.and_true, Bool.and_eq_true] at hdigits
      obtain ⟨ha, hb, hc, hd⟩ := hdigits
      cases hread
      exact (((h.tail ha).tail hb).tail hc).tail hd
    · cases hread
  · cases hread

theorem of_twoDigits? (h : DigitsLeft content) {least greatest n : Nat}
    (hread : twoDigits? least greatest content = some (n, rest)) : DigitsLeft rest := by
  unfold twoDigits? at hread
  split at hread
  · simp only at hread
    split at hread
    · rename_i hdigits
      simp only [Bool.and_eq_true] at hdigits
      obtain ⟨⟨⟨ha, hb⟩, -⟩, -⟩ := hdigits
      cases hread
      exact (h.tail ha).tail hb
    · cases hread
  · cases hread

/-- After the year of a date there is a hyphen. -/
theorem date?_eq_none (h : DigitsLeft content) : date? content = none := by
  unfold date?
  cases hyear : fourDigits? content with
  | none => rfl
  | some read =>
    obtain ⟨year, rest⟩ := read
    have hskip := (h.of_fourDigits? hyear).skip?_eq_none '-' (by decide) (by decide)
    simp [hskip]

/-- After the hours of a time there is a colon. -/
theorem time?_eq_none (h : DigitsLeft content) : time? content = none := by
  unfold time?
  cases hhour : twoDigits? 0 23 content with
  | none => rfl
  | some read =>
    obtain ⟨hour, rest⟩ := read
    have hskip := (h.of_twoDigits? hhour).skip?_eq_none ':' (by decide) (by decide)
    simp [hskip]

end DigitsLeft

/-- Where neither a date nor a time can be read, there is no moment. -/
theorem moment?_eq_none (hdate : date? content = none) (htime : time? content = none) :
    moment? content = none := by
  simp [moment?, dateTime?, hdate, htime]

theorem moreDigits_append (h : ∀ c ∈ digits, c.isDigit = true) (hrest : AtLineEnd rest) :
    moreDigits Char.isDigit (digits ++ rest) = (digits, rest) := by
  induction digits with
  | nil =>
    obtain rfl | ⟨more, rfl⟩ := hrest.cases
    · rfl
    · simp [moreDigits]
  | cons c digits ih =>
    have hc := h c List.mem_cons_self
    have hmore := ih fun c hc => h c (List.mem_cons_of_mem _ hc)
    have hne : c ≠ '_' := by
      rintro rfl
      cases hc
    rw [List.cons_append, moreDigits]
    · simp [hc, hmore]
    · rintro d more rfl
      exact absurd rfl hne

/-- Decimal digits begin with a zero only if it is the only one. -/
theorem exists_toDigits_eq_cons (n : Nat) :
    ∃ c digits, Nat.toDigits 10 n = c :: digits ∧ c.isDigit = true ∧
      (∀ d ∈ digits, d.isDigit = true) ∧ (c = '0' → digits = []) := by
  induction n using Nat.strongRecOn with
  | ind n ih =>
    rw [Nat.toDigits_eq_if (by decide)]
    split
    · rename_i hlt
      exact ⟨_, [], rfl, by rw [Nat.isDigit_digitChar]; exact decide_eq_true hlt, by simp,
        fun _ => rfl⟩
    · rename_i hle
      obtain ⟨c, digits, htext, hc, hdigits, hzero⟩ := ih (n / 10) (by omega)
      have hlast : (n % 10).digitChar.isDigit = true := by
        rw [Nat.isDigit_digitChar]
        exact decide_eq_true (Nat.mod_lt n (by decide))
      refine ⟨c, digits ++ [(n % 10).digitChar], by rw [htext]; rfl, hc, ?_, ?_⟩
      · exact List.forall_mem_append.2 ⟨hdigits, List.forall_mem_singleton.2 hlast⟩
      · -- a leading zero alone would write zero, and `n` has a tenth
        rintro rfl
        rw [hzero rfl] at htext
        have hvalue := congrArg (Nat.ofDigitChars 10 · 0) htext
        simp only [Nat.ofDigitChars_ten_toDigits] at hvalue
        have hnone : n / 10 = 0 := hvalue
        omega

theorem isDigit_of_mem_toDigits {n : Nat} (h : c ∈ Nat.toDigits 10 n) : c.isDigit = true :=
  Nat.isDigit_of_mem_toDigits (by decide) (by decide) h

theorem wholeDigits?_toDigits (n : Nat) (hrest : AtLineEnd rest) :
    wholeDigits? (Nat.toDigits 10 n ++ rest) = some (Nat.toDigits 10 n, rest) := by
  obtain ⟨c, digits, htext, hc, hdigits, hzero⟩ := exists_toDigits_eq_cons n
  rw [htext, List.cons_append]
  by_cases h0 : c = '0'
  · subst h0
    rw [hzero rfl]
    rfl
  · rw [wholeDigits?]
    · simp [digits?, hc, moreDigits_append hdigits hrest]
    · rintro more h
      exact h0 (List.cons.inj h).1

/-- A float has a point or an exponent after its first digits. -/
theorem decimal?_toDigits (negative : Bool) (n : Nat) (hrest : AtLineEnd rest) :
    decimal? negative (Nat.toDigits 10 n ++ rest) = none := by
  unfold decimal?
  rw [wholeDigits?_toDigits n hrest]
  obtain rfl | ⟨more, rfl⟩ := hrest.cases
  · rfl
  · rfl

theorem takeSign_of_isDigit (hc : c.isDigit = true) :
    takeSign (c :: rest) = (false, c :: rest) := by
  unfold takeSign
  split
  · rename_i h
    obtain rfl := (List.cons.inj h).1
    cases hc
  · rename_i h
    obtain rfl := (List.cons.inj h).1
    cases hc
  · rfl

/-! ## Integers -/

/-- The sign and the digits of an integer that was written. -/
theorem takeSign_integerText (value : Int) (rest : Text) :
    takeSign (integerText value ++ rest) =
      (decide (value < 0), Nat.toDigits 10 value.natAbs ++ rest) := by
  unfold integerText
  by_cases hneg : value < 0
  · simp [hneg, takeSign]
  · obtain ⟨c, digits, htext, hc, -, -⟩ := exists_toDigits_eq_cons value.natAbs
    simp [hneg, htext, takeSign_of_isDigit hc]

theorem float?_integerText (value : Int) (hrest : AtLineEnd rest) :
    float? (integerText value ++ rest) = none := by
  unfold float?
  rw [takeSign_integerText]
  obtain ⟨c, digits, htext, hc, -, -⟩ := exists_toDigits_eq_cons value.natAbs
  simp only [htext, List.cons_append]
  split
  · rename_i h
    obtain rfl := (List.cons.inj h).1
    cases hc
  · rename_i h
    obtain rfl := (List.cons.inj h).1
    cases hc
  · rw [← List.cons_append, ← htext]
    exact decimal?_toDigits _ _ hrest

/-- After a leading zero the line ends, and so no letter of a radix follows. -/
theorem eq_newline_of_integerText {d : Char} {more : Text} (hrest : AtLineEnd rest)
    (h : integerText value ++ rest = '0' :: d :: more) : d = '\n' := by
  obtain ⟨c, digits, htext, -, -, hzero⟩ := exists_toDigits_eq_cons value.natAbs
  unfold integerText at h
  by_cases hneg : value < 0
  · simp [hneg] at h
  · simp only [hneg, if_false, List.nil_append, htext, List.cons_append] at h
    obtain ⟨hc, htail⟩ := List.cons.inj h
    rw [hzero hc, List.nil_append] at htail
    exact hrest d (by rw [htail]; rfl)

theorem integer?_integerText (hleast : -integerBound ≤ value) (hgreatest : value < integerBound)
    (hrest : AtLineEnd rest) :
    integer? (integerText value ++ rest) = some (.integer value, rest) := by
  unfold integer?
  split
  · rename_i h
    cases eq_newline_of_integerText hrest h
  · rename_i h
    cases eq_newline_of_integerText hrest h
  · rename_i h
    cases eq_newline_of_integerText hrest h
  · have hvalue : (if value < 0 then -(value.natAbs : Int) else value.natAbs) = value := by
      split <;> omega
    have hnode : integerNode? value = some (.integer value) := if_pos ⟨hleast, hgreatest⟩
    simp only [takeSign_integerText, wholeDigits?_toDigits _ hrest, decimalNumber,
      Nat.ofDigitChars_ten_toDigits, decide_eq_true_eq, hvalue, hnode, Option.bind_eq_bind,
      Option.bind_some]

/-- Neither a date nor a time begins with an integer that ends its line. -/
theorem moment?_integerText (value : Int) (hrest : AtLineEnd rest) :
    moment? (integerText value ++ rest) = none := by
  unfold integerText
  by_cases hneg : value < 0
  · simp only [hneg, if_true, List.cons_append, List.nil_append]
    refine moment?_eq_none ?_ ?_
    · unfold date? fourDigits?
      split
      · rename_i h
        obtain rfl := (List.cons.inj h).1
        rfl
      · rfl
    · unfold time? twoDigits?
      split
      · rename_i h
        obtain rfl := (List.cons.inj h).1
        rfl
      · rfl
  · simp only [hneg, if_false, List.nil_append]
    have hleft : DigitsLeft (Nat.toDigits 10 value.natAbs ++ rest) :=
      .append (fun c => isDigit_of_mem_toDigits) hrest
    exact moment?_eq_none hleft.date?_eq_none hleft.time?_eq_none

/-- The first character of an integer is a sign or a digit. -/
theorem exists_integerText_eq_cons (value : Int) :
    ∃ c digits, integerText value = c :: digits ∧ (c = '-' ∨ c.isDigit = true) := by
  obtain ⟨c, digits, htext, hc, -, -⟩ := exists_toDigits_eq_cons value.natAbs
  unfold integerText
  by_cases hneg : value < 0
  · exact ⟨'-', c :: digits, by simp [hneg, htext], .inl rfl⟩
  · exact ⟨c, digits, by simp [hneg, htext], .inr hc⟩

/-! ## Values -/

/-- What begins with no bracket and no brace holds no other values. -/
theorem value?_eq_plainValue? (hopen : c ≠ '[' ∧ c ≠ '{') (depth : Nat) (more : Text) :
    value? (depth + 1) (c :: more) = plainValue? (c :: more) := by
  rw [value?]
  · exact fun _ h => hopen.1 (List.cons.inj h).1
  · exact fun _ h => hopen.2 (List.cons.inj h).1

/-- What begins as neither of the two words is a text, a moment or a number. -/
theorem plainValue?_cons (hword : c ≠ 't' ∧ c ≠ 'f') (more : Text) :
    plainValue? (c :: more) =
      ((string? (c :: more)).map fun (content, rest) => (.string content, rest)).or
        ((moment? (c :: more)).or (number? (c :: more))) := by
  unfold plainValue?
  split
  · rename_i h
    exact absurd (List.cons.inj h).1 hword.1
  · rename_i h
    exact absurd (List.cons.inj h).1 hword.2
  · rfl

theorem string?_eq_none (hquote : c ≠ doubleQuote ∧ c ≠ singleQuote) (more : Text) :
    string? (c :: more) = none := by
  unfold string?
  split
  · rename_i h
    exact absurd (List.cons.inj h).1 hquote.1
  · rename_i h
    exact absurd (List.cons.inj h).1 hquote.2
  · unfold shortString?
    split
    · rename_i h
      exact absurd (List.cons.inj h).1 hquote.1
    · rename_i h
      exact absurd (List.cons.inj h).1 hquote.2
    · rfl

/-- **An integer is read as it was written.** -/
theorem value?_integerText (hleast : -integerBound ≤ value) (hgreatest : value < integerBound)
    (hrest : AtLineEnd rest) :
    value? (depth + 1) (integerText value ++ rest) = some (.integer value, rest) := by
  obtain ⟨c, digits, htext, hc⟩ := exists_integerText_eq_cons value
  have hne : ∀ other : Char, other ≠ '-' → other.isDigit = false → c ≠ other := by
    rintro other hsign hdigit rfl
    rcases hc with rfl | hc
    · exact hsign rfl
    · rw [hdigit] at hc
      cases hc
  have hvalue : value? (depth + 1) (integerText value ++ rest) =
      (moment? (integerText value ++ rest)).or (number? (integerText value ++ rest)) := by
    rw [htext, List.cons_append, value?_eq_plainValue? ⟨hne _ (by decide) (by decide),
      hne _ (by decide) (by decide)⟩, plainValue?_cons ⟨hne _ (by decide) (by decide),
      hne _ (by decide) (by decide)⟩, string?_eq_none ⟨hne _ (by decide) (by decide),
      hne _ (by decide) (by decide)⟩]
    rfl
  rw [hvalue, moment?_integerText _ hrest, number?, float?_integerText _ hrest,
    integer?_integerText hleast hgreatest hrest]
  rfl

/-- A truth value by its word. -/
def switchText (switch : Bool) : Text :=
  if switch then "true".toList else "false".toList

/-- **A truth value is read as it was written.** -/
theorem value?_switchText (switch : Bool) :
    value? (depth + 1) (switchText switch ++ rest) = some (.boolean switch, rest) := by
  cases switch with
  | true => rfl
  | false => rfl

/-! ## Text -/

/-- A hexadecimal digit, with a capital or a small letter. -/
def hexDigit (capital : Bool) (digit : Nat) : Char :=
  if capital then digit.digitChar.toUpper else digit.digitChar

/-- A character as it is written between double quotes. -/
def escape (capital : Bool) (c : Char) : Text :=
  if c = doubleQuote ∨ c = '\\' then ['\\', c]
  else if c.toNat < 0x20 ∨ c.toNat = 0x7f then
    ['\\', 'u', '0', '0', hexDigit capital (c.toNat / 16), hexDigit capital (c.toNat % 16)]
  else [c]

/-- A text as it is written between double quotes, with the second of them. -/
def quotedBody (capital : Bool) (content : Text) : Text :=
  content.flatMap (escape capital) ++ [doubleQuote]

/-- A text with its double quotes. -/
def quoted (capital : Bool) (content : Text) : Text :=
  doubleQuote :: quotedBody capital content

theorem numbered?_hexDigit (capital : Bool) :
    ∀ n < 0x80, numbered? ['0', '0', hexDigit capital (n / 16), hexDigit capital (n % 16)] =
      some (Char.ofNat n) := by
  cases capital with
  | true => decide +kernel
  | false => decide +kernel

theorem basicBody_escape (capital : Bool) (c : Char) (rest : Text) :
    basicBody (escape capital c ++ rest) = push (some c) (basicBody rest) := by
  unfold escape
  split
  · rename_i h
    rcases h with rfl | rfl
    · simp [basicBody, escaped?, doubleQuote]
    · simp [basicBody, escaped?]
  split
  · rename_i h
    have hread := numbered?_hexDigit capital c.toNat (by omega)
    rw [Char.ofNat_toNat] at hread
    simp only [List.cons_append, List.nil_append]
    rw [basicBody, hread]
  · rename_i hmark hcontrol
    rw [not_or] at hmark hcontrol
    have hplain : (isPlain c && c != '\\') = true := by
      simp [isPlain, hmark.2, Nat.not_lt.1 hcontrol.1, hcontrol.2]
    rw [List.singleton_append, basicBody]
    · rw [if_pos hplain]
    · exact hmark.1
    · exact fun _ _ _ _ _ h => absurd h hmark.2
    · exact fun _ _ _ _ _ _ _ _ _ h => absurd h hmark.2
    · exact fun _ _ h => absurd h hmark.2

theorem quotedBody_cons (capital : Bool) (c : Char) (content rest : Text) :
    quotedBody capital (c :: content) ++ rest =
      escape capital c ++ (quotedBody capital content ++ rest) := by
  simp [quotedBody]

theorem basicBody_quotedBody (capital : Bool) (content rest : Text) :
    basicBody (quotedBody capital content ++ rest) = some (content, rest) := by
  induction content with
  | nil => rfl
  | cons c content ih =>
    rw [quotedBody_cons, basicBody_escape, ih]
    rfl

/-- No character is written with a quote in front. -/
theorem head?_escape_ne (capital : Bool) (c : Char) (rest : Text) :
    (escape capital c ++ rest).head? ≠ some doubleQuote := by
  unfold escape
  split
  · simp [doubleQuote]
  split
  · simp [doubleQuote]
  · rename_i hmark hcontrol
    simpa using (not_or.1 hmark).1

/-- Only an empty text could be taken for the start of the long form, if a third
quote followed. -/
theorem string?_quoted (capital : Bool) (content : Text) (hrest : AtLineEnd rest) :
    string? (quoted capital content ++ rest) = some (content, rest) := by
  rw [quoted, List.cons_append, string?]
  · exact basicBody_quotedBody capital content rest
  · rintro more h
    cases content with
    | nil =>
      obtain rfl | ⟨_, rfl⟩ := hrest.cases <;> simp [quotedBody, doubleQuote] at h
    | cons c content =>
      have hhead := head?_escape_ne capital c (quotedBody capital content ++ rest)
      rw [← quotedBody_cons, (List.cons.inj h).2] at hhead
      exact hhead rfl
  · rintro more h
    cases (List.cons.inj h).1

/-- **A text is read as it was written.** -/
theorem value?_quoted (capital : Bool) (content : Text) (hrest : AtLineEnd rest) :
    value? (depth + 1) (quoted capital content ++ rest) = some (.string content, rest) := by
  have hstring := string?_quoted capital content hrest
  rw [quoted, List.cons_append] at hstring ⊢
  rw [value?_eq_plainValue? ⟨by decide, by decide⟩, plainValue?_cons ⟨by decide, by decide⟩,
    hstring]
  rfl

/-! ## No value ends its line -/

theorem mem_integerText (h : c ∈ integerText value) : c = '-' ∨ c.isDigit = true := by
  rcases List.mem_append.1 h with h | h
  · split at h
    · exact .inl (List.mem_singleton.1 h)
    · cases h
  · exact .inr (isDigit_of_mem_toDigits h)

theorem newline_not_mem_integerText (value : Int) : '\n' ∉ integerText value := by
  intro h
  rcases mem_integerText h with h | h <;> cases h

theorem newline_not_mem_switchText (switch : Bool) : '\n' ∉ switchText switch := by
  cases switch with
  | true => decide
  | false => decide

theorem hexDigit_ne_newline (capital : Bool) : ∀ n < 16, '\n' ≠ hexDigit capital n := by
  cases capital with
  | true => decide +kernel
  | false => decide +kernel

theorem newline_not_mem_escape (capital : Bool) (c : Char) : '\n' ∉ escape capital c := by
  unfold escape
  split
  · rename_i h
    rcases h with rfl | rfl <;> decide
  split
  · have hhigh := hexDigit_ne_newline capital (c.toNat / 16) (by omega)
    have hlow := hexDigit_ne_newline capital (c.toNat % 16) (by omega)
    simp [hhigh, hlow]
  · rename_i hcontrol
    rw [List.mem_singleton]
    rintro rfl
    exact hcontrol (.inl (by decide))

theorem newline_not_mem_quoted (capital : Bool) (content : Text) :
    '\n' ∉ quoted capital content := by
  simp [quoted, quotedBody, doubleQuote, newline_not_mem_escape]

end Toml

end Graft
