import Graft.Text.Lines

/-!
# What the non-empty lines are

Lines may be joined by more line feeds than they need, with others before the first
and behind the last (`spread`). Reading the non-empty lines undoes that, as long as
each line holds some character and no line feed.

This comes of one equation: a line feed parts what is read on its two sides
(`nonEmptyLines_append_newline_cons`). That nothing but line feeds is lost comes of
the lines as they are before the empty ones are dropped (`flatten_lines`).
-/

namespace Graft

namespace Text

variable {line : Text} {parts : List (Text × Nat)}

/-- So many line feeds. -/
def newlines (n : Nat) : Text := List.replicate n '\n'

/-- Lines with so many line feeds before the first, and behind each of them as many
as are given with it. -/
def spread (before : Nat) (parts : List (Text × Nat)) : Text :=
  newlines before ++ parts.flatMap fun part => part.1 ++ newlines part.2

/-! ## Line feeds -/

/-- **A line feed parts what is read.** -/
theorem nonEmptyLines_append_newline_cons (a b : Text) :
    nonEmptyLines (a ++ '\n' :: b) = nonEmptyLines a ++ nonEmptyLines b := by
  unfold nonEmptyLines
  rw [lines_append_newline_cons, List.filter_append]

theorem nonEmptyLines_nil : nonEmptyLines [] = [] := by
  simp [nonEmptyLines]

/-- Line feeds at the front belong to no line that is read. -/
theorem nonEmptyLines_newlines_append (n : Nat) (content : Text) :
    nonEmptyLines (newlines n ++ content) = nonEmptyLines content := by
  induction n with
  | zero => rfl
  | succ n ih =>
    have hfront := nonEmptyLines_append_newline_cons [] (newlines n ++ content)
    rw [nonEmptyLines_nil, ih] at hfront
    exact hfront

/-! ## Lines that are set apart -/

/-- What holds a character and no line feed is one line. -/
theorem nonEmptyLines_eq_singleton (hne : line ≠ []) (hline : '\n' ∉ line) :
    nonEmptyLines line = [line] := by
  rw [nonEmptyLines, lines, List.splitOn_eq_singleton hline]
  simp [hne]

/-- A line with line feeds behind it is read as the first. -/
theorem nonEmptyLines_line_append (hne : line ≠ []) (hline : '\n' ∉ line) {n : Nat} (hn : 0 < n)
    (content : Text) :
    nonEmptyLines (line ++ newlines n ++ content) = line :: nonEmptyLines content := by
  obtain ⟨n, rfl⟩ := Nat.exists_eq_add_one.2 hn
  have hparts : line ++ newlines (n + 1) ++ content = line ++ '\n' :: (newlines n ++ content) :=
    List.append_assoc ..
  rw [hparts, nonEmptyLines_append_newline_cons, nonEmptyLines_eq_singleton hne hline,
    nonEmptyLines_newlines_append]
  rfl

/-- **Lines that are spread out are read back.** -/
theorem nonEmptyLines_spread (before : Nat)
    (hlines : ∀ part ∈ parts, part.1 ≠ [] ∧ '\n' ∉ part.1)
    (hbetween : ∀ part ∈ parts.dropLast, 0 < part.2) :
    nonEmptyLines (spread before parts) = parts.map (·.1) := by
  rw [spread, nonEmptyLines_newlines_append]
  induction parts with
  | nil => exact nonEmptyLines_nil
  | cons part rest ih =>
    obtain ⟨⟨hne, hline⟩, hrest⟩ := List.forall_mem_cons.1 hlines
    rw [List.flatMap_cons, List.map_cons]
    cases rest with
    | nil =>
      -- behind the last line there may be no line feed
      rcases Nat.eq_zero_or_pos part.2 with hzero | hpos
      · simpa [hzero, newlines] using nonEmptyLines_eq_singleton hne hline
      · rw [nonEmptyLines_line_append hne hline hpos]
        exact congrArg (part.1 :: ·) nonEmptyLines_nil
    | cons next rest =>
      rw [List.dropLast_cons_cons, List.forall_mem_cons] at hbetween
      rw [nonEmptyLines_line_append hne hline hbetween.1, ih hrest hbetween.2]

/-! ## What is read -/

/-- The lines hold every character but the line feeds. -/
theorem flatten_lines (content : Text) :
    (lines content).flatten = content.filter (· ≠ '\n') := by
  have hkept : ∀ line ∈ lines content, (line ++ ['\n']).filter (· ≠ '\n') = line := by
    intro line hline
    have hfree := newline_not_mem_of_mem_lines hline
    rw [List.filter_append, List.filter_eq_self.2]
    · exact List.append_nil line
    · exact fun c hc => decide_eq_true fun h => hfree (h ▸ hc)
  have hended := congrArg (List.filter (· ≠ '\n')) (flatMap_lines content)
  rw [List.filter_flatMap, List.flatMap_def, List.map_congr_left hkept, List.map_id',
    List.filter_append] at hended
  simpa using hended

theorem flatten_nonEmptyLines (content : Text) :
    (nonEmptyLines content).flatten = content.filter (· ≠ '\n') := by
  rw [nonEmptyLines, List.flatten_filter_not_isEmpty, flatten_lines]

/-- **What the non-empty lines are.** They undo the joining of lines that hold a
character and no line feed, however many line feeds stand before the first, between
two of them, if only one does, and behind the last. A line feed parts what is read on
its two sides. And what is read is all of the text but its line feeds. -/
theorem nonEmptyLines_laws :
    (∀ (before : Nat) (parts : List (Text × Nat)),
      (∀ part ∈ parts, part.1 ≠ [] ∧ '\n' ∉ part.1) → (∀ part ∈ parts.dropLast, 0 < part.2) →
        nonEmptyLines (spread before parts) = parts.map (·.1)) ∧
      (∀ a b : Text, nonEmptyLines (a ++ '\n' :: b) = nonEmptyLines a ++ nonEmptyLines b) ∧
      ∀ content : Text, (nonEmptyLines content).flatten = content.filter (· ≠ '\n') :=
  ⟨fun before _ hlines hbetween => nonEmptyLines_spread before hlines hbetween,
    nonEmptyLines_append_newline_cons, flatten_nonEmptyLines⟩

/-- Line feeds on all sides, a line of blanks, one that ends in a carriage return, and
none behind the last. -/
theorem nonEmptyLines_laws_of_blanks :
    let parts := [("a\r".toList, 2), ("  ".toList, 1), ("\tb".toList, 0)]
    (∀ part ∈ parts, part.1 ≠ [] ∧ '\n' ∉ part.1) ∧ (∀ part ∈ parts.dropLast, 0 < part.2) ∧
      spread 1 parts = "\na\r\n\n  \n\tb".toList ∧
      nonEmptyLines (spread 1 parts) = ["a\r".toList, "  ".toList, "\tb".toList] := by
  intro parts
  have hlines : ∀ part ∈ parts, part.1 ≠ [] ∧ '\n' ∉ part.1 := by decide +kernel
  have hbetween : ∀ part ∈ parts.dropLast, 0 < part.2 := by decide +kernel
  exact ⟨hlines, hbetween, by decide +kernel, nonEmptyLines_laws.1 1 parts hlines hbetween⟩

end Text

end Graft
