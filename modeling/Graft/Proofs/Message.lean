import Graft.Error
import Mathlib.Tactic.SplitIfs

/-!
# What the message of a missing marker tells

The message shows the marker between quotes and behind it the file, with nothing
around the name. A marker may hold quotes, backslashes, or the very words that
would name a file. Even so the message tells the marker, whether there is a file,
and which (`message_missing`).

That rests on how the characters of a marker are spelt. Each has one of three forms
(`QuotedAs`), and none of these begins as another does, nor as the quote at the end
(`QuotedAs.append_inj`, `QuotedAs.append_ne_quote`). So what is quoted can be told from
what follows it, whatever that is (`quote_append_inj`).
-/

namespace Graft

namespace Text

variable {c d : Char} {form form' marker marker' x y : Text}

/-! ## One character -/

/-- The characters with a short form, and what stands behind its backslash. -/
def shortForms : List (Char × Char) :=
  [('\x00', '0'), ('\t', 't'), ('\r', 'r'), ('\n', 'n'), ('\\', '\\'), ('"', '"')]

/-- The form of a character between quotes. -/
inductive QuotedAs : Char → Text → Prop
  /-- A backslash and what stands for the character. -/
  | short {c letter : Char} (h : (c, letter) ∈ shortForms) : QuotedAs c ['\\', letter]
  /-- Its number in braces. -/
  | hex (c : Char) : QuotedAs c (hexForm c)
  /-- The character itself. -/
  | plain {c : Char} (hslash : c ≠ '\\') (hquote : c ≠ '"') : QuotedAs c [c]

/-- Every character has one of the three forms. -/
theorem quotedAs (c : Char) : QuotedAs c (quoteChar c) := by
  unfold quoteChar
  split_ifs with h0 ht hr hn hslash hquote hhex
  · exact .short (by simp [h0, shortForms])
  · exact .short (by simp [ht, shortForms])
  · exact .short (by simp [hr, shortForms])
  · exact .short (by simp [hn, shortForms])
  · exact .short (by simp [hslash, shortForms])
  · exact .short (by simp [hquote, shortForms])
  · exact .hex c
  · exact .plain hslash hquote

/-- The brace that ends a number is no digit of it. -/
theorem brace_not_mem_toDigits (n : Nat) : '\x7d' ∉ Nat.toDigits 16 n := by
  have hdigit : ∀ d < 16, '\x7d' ≠ Nat.digitChar d := by decide
  intro h
  obtain ⟨d, hd, hbrace⟩ := exists_digitChar_of_mem_toDigits (by decide) h
  exact hdigit d hd hbrace

/-- A number in braces tells the character, whatever follows it. -/
theorem hexForm_append_inj (h : hexForm c ++ x = hexForm d ++ y) : c = d ∧ x = y := by
  have hdigits (c : Char) (x : Text) : ((hexForm c ++ x).drop 3).takeWhile (· != '\x7d') =
      Nat.toDigits 16 c.toNat := by
    have hall : ∀ digit ∈ Nat.toDigits 16 c.toNat, (digit != '\x7d') = true := by
      intro digit hdigit
      simpa using fun hbrace => brace_not_mem_toDigits _ (hbrace ▸ hdigit)
    have hform : (hexForm c ++ x).drop 3 = Nat.toDigits 16 c.toNat ++ '\x7d' :: x := by
      simp [hexForm]
    rw [hform, List.takeWhile_append_of_pos hall, List.takeWhile_cons_of_neg (by decide),
      List.append_nil]
  have hsame := hdigits c x
  rw [h, hdigits d y] at hsame
  obtain rfl : d = c := Char.toNat_inj.1 (toDigits_hex_injective hsame)
  exact ⟨rfl, List.append_cancel_left h⟩

/-- Short forms part in their letters, and none has that of a number. -/
theorem short_unique : ∀ a ∈ shortForms, ∀ b ∈ shortForms, a.2 = b.2 → a.1 = b.1 := by decide

theorem short_ne_hex : ∀ a ∈ shortForms, a.2 ≠ 'u' := by decide

/-- **No form begins as another does.** -/
theorem QuotedAs.append_inj (hc : QuotedAs c form) (hd : QuotedAs d form')
    (h : form ++ x = form' ++ y) : c = d ∧ x = y := by
  cases hc with
  | short hc =>
    cases hd with
    | short hd =>
      obtain ⟨hletter, hrest⟩ := List.cons.inj (List.cons.inj h).2
      exact ⟨short_unique _ hc _ hd hletter, hrest⟩
    | hex =>
      exact absurd (List.cons.inj (List.cons.inj h).2).1 (short_ne_hex _ hc)
    | plain hslash => exact absurd (List.cons.inj h).1.symm hslash
  | hex =>
    cases hd with
    | short hd => exact absurd (List.cons.inj (List.cons.inj h).2).1.symm (short_ne_hex _ hd)
    | hex => exact hexForm_append_inj h
    | plain hslash => exact absurd (List.cons.inj h).1.symm hslash
  | plain hslash =>
    cases hd with
    | short => exact absurd (List.cons.inj h).1 hslash
    | hex => exact absurd (List.cons.inj h).1 hslash
    | plain => exact List.cons.inj h

/-- No form begins as the quote at the end. -/
theorem QuotedAs.append_ne_quote (h : QuotedAs c form) : form ++ x ≠ '"' :: y := by
  intro heq
  cases h with
  | short => exact absurd (List.cons.inj heq).1 (by decide)
  | hex => exact absurd (List.cons.inj heq).1 (by decide)
  | plain _ hquote => exact hquote (List.cons.inj heq).1

/-! ## Quoted text -/

/-- What stands before the quote at the end can be told from what follows it. -/
theorem flatMap_quoteChar_append_inj
    (h : marker.flatMap quoteChar ++ '"' :: x = marker'.flatMap quoteChar ++ '"' :: y) :
    marker = marker' ∧ x = y := by
  induction marker generalizing marker' with
  | nil =>
    cases marker' with
    | nil => exact ⟨rfl, (List.cons.inj h).2⟩
    | cons d marker' =>
      rw [List.flatMap_cons, List.append_assoc] at h
      exact absurd h.symm (quotedAs d).append_ne_quote
  | cons c marker ih =>
    rw [List.flatMap_cons, List.append_assoc] at h
    cases marker' with
    | nil => exact absurd h (quotedAs c).append_ne_quote
    | cons d marker' =>
      rw [List.flatMap_cons, List.append_assoc] at h
      obtain ⟨rfl, hrest⟩ := (quotedAs c).append_inj (quotedAs d) h
      obtain ⟨rfl, rfl⟩ := ih hrest
      exact ⟨rfl, rfl⟩

/-- **What is quoted can be told from what follows it.** -/
theorem quote_append_inj (h : quote marker ++ x = quote marker' ++ y) :
    marker = marker' ∧ x = y := by
  simp only [quote, List.cons_append, List.append_assoc, List.nil_append] at h
  exact flatMap_quoteChar_append_inj (List.cons.inj h).2

end Text

/-! ## The message -/

namespace Error

variable {file file' : Option Text}

/-- The error with these files named one after another. -/
def inFiles (error : Error) (files : List Text) : Error :=
  files.foldl (fun error file => error.inFile (.ofText file)) error

/-- Where a file is named, naming others changes nothing. -/
theorem inFiles_of_named (marker : Text) (path : Path) (files : List Text) :
    (markerNotFound marker (some path)).inFiles files = markerNotFound marker (some path) := by
  induction files with
  | nil => rfl
  | cons other files ih => exact ih

/-- **The file named first stays.** -/
theorem inFiles_markerNotFound (marker : Text) (files : List Text) :
    (markerNotFound marker none).inFiles files =
      markerNotFound marker (files.head?.map .ofText) := by
  cases files with
  | nil => rfl
  | cons file files => exact inFiles_of_named marker (.ofText file) files

theorem message_markerNotFound (marker : Text) (path : Option Path) :
    (markerNotFound marker path).message =
      "can't find ".toList ++ (Text.quote marker ++ pathSuffix path) :=
  List.append_assoc ..

/-- The end of a message tells whether a file is named, and which. -/
theorem pathSuffix_inj (h : pathSuffix (file.map .ofText) = pathSuffix (file'.map .ofText)) :
    file = file' := by
  -- the words before the name are there even where the name is empty
  have hnamed (name : Text) : pathSuffix (some (.ofText name)) ≠ [] := by
    simp [pathSuffix]
  cases file with
  | none =>
    cases file' with
    | none => rfl
    | some name => exact absurd h.symm (hnamed name)
  | some name =>
    cases file' with
    | none => exact absurd h (hnamed name)
    | some name' =>
      have hname := List.append_cancel_left h
      rw [Path.shown_ofText, Path.shown_ofText] at hname
      rw [hname]

/-- **The message tells the marker and the file.** Of the files that are named only
the first counts, and two messages are the same only if the markers are, and if no
file is named in either or the first one is the same in both. -/
theorem message_missing (marker marker' : Text) (files files' : List Text) :
    (markerNotFound marker none).inFiles files =
        markerNotFound marker (files.head?.map .ofText) ∧
      (((markerNotFound marker none).inFiles files).message =
          ((markerNotFound marker' none).inFiles files').message ↔
        marker = marker' ∧ files.head? = files'.head?) := by
  refine ⟨inFiles_markerNotFound marker files, ?_⟩
  rw [inFiles_markerNotFound, inFiles_markerNotFound]
  constructor
  · intro h
    rw [message_markerNotFound, message_markerNotFound] at h
    obtain ⟨hmarker, hsuffix⟩ := Text.quote_append_inj (List.append_cancel_left h)
    exact ⟨hmarker, pathSuffix_inj hsuffix⟩
  · rintro ⟨rfl, hfile⟩
    rw [hfile]

example : ((markerNotFound "a\" in b".toList none).inFiles ["c".toList, "d".toList]).message =
    "can't find \"a\\\" in b\" in c".toList := by decide +kernel

end Error

end Graft
