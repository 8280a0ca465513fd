import Graft.Text.Search

/-!
# Lines

Only the line feed parts lines; a carriage return belongs to the line it
stands in. `lines` keeps every line, so a text has one line more than it
has line feeds, and `nonEmptyLines` drops those without a character.
-/

namespace Graft

namespace Text

/-- The stretches of a text between its line feeds. -/
def lines (content : Text) : List Text :=
  content.splitOn '\n'

/-- The lines that hold at least one character, in order. -/
def nonEmptyLines (content : Text) : List Text :=
  (lines content).filter fun line => !line.isEmpty

@[simp] theorem lines_nil : lines [] = [[]] := by
  simp [lines]

/-- Joining the lines with line feeds gives the text back. -/
theorem intercalate_lines (content : Text) : ['\n'].intercalate (lines content) = content :=
  List.intercalate_splitOn '\n'

/-- Where a line feed stands, lines on its two sides do not meet. -/
theorem lines_append_newline_cons (a b : Text) : lines (a ++ '\n' :: b) = lines a ++ lines b :=
  List.splitOn_append_cons_self a b

/-- A text has a line, if only an empty one. -/
theorem lines_ne_nil (content : Text) : lines content ≠ [] :=
  List.splitOn_ne_nil '\n' content

/-- No line holds a line feed. -/
theorem newline_not_mem_of_mem_lines {content line : Text} (h : line ∈ lines content) :
    '\n' ∉ line := by
  induction content generalizing line with
  | nil =>
    obtain rfl : line = [] := by simpa using h
    exact List.not_mem_nil
  | cons c rest ih =>
    by_cases hc : c = '\n'
    · subst hc
      rw [← List.nil_append ('\n' :: rest), lines_append_newline_cons, lines_nil] at h
      rcases List.mem_append.1 h with h | h
      · rw [List.mem_singleton.1 h]
        exact List.not_mem_nil
      · exact ih h
    · -- the character goes to the first line of the rest
      obtain ⟨first, others, hrest⟩ := List.exists_cons_of_ne_nil (lines_ne_nil rest)
      have hlines : lines (c :: rest) = (c :: first) :: others := by
        unfold lines at hrest ⊢
        rw [List.splitOn_cons_eq_if_modifyHead, hrest]
        simp [hc]
      rw [hlines] at h
      rw [hrest] at ih
      rcases List.mem_cons.1 h with rfl | h
      · simp [Ne.symm hc, ih List.mem_cons_self]
      · exact ih (List.mem_cons_of_mem _ h)

/-- **Lines joined by line feeds are the lines of the text.** -/
theorem lines_intercalate {block : List Text} (hne : block ≠ [])
    (h : ∀ line ∈ block, '\n' ∉ line) : lines (['\n'].intercalate block) = block :=
  List.splitOn_intercalate '\n' h hne

/-- Texts that are each ended by a line feed are the first lines. -/
theorem lines_flatMap_append {before : List Text} (h : ∀ line ∈ before, '\n' ∉ line)
    (last : Text) :
    lines (before.flatMap (fun line => line ++ ['\n']) ++ last) = before ++ lines last := by
  induction before with
  | nil => rfl
  | cons line before ih =>
    rw [List.forall_mem_cons] at h
    rw [List.flatMap_cons, List.append_assoc, List.append_assoc, List.singleton_append,
      lines_append_newline_cons, ih h.2, lines, List.splitOn_eq_singleton h.1]
    rfl

theorem count_newline_flatMap {block : List Text} (h : ∀ line ∈ block, '\n' ∉ line) :
    (block.flatMap fun line => line ++ ['\n']).count '\n' = block.length := by
  induction block with
  | nil => rfl
  | cons line block ih =>
    rw [List.forall_mem_cons] at h
    simp [List.count_eq_zero_of_not_mem h.1, ih h.2]

/-- One line feed more and each of the joined lines is ended by one. -/
theorem intercalate_append_newline {block : List Text} (hne : block ≠ []) :
    ['\n'].intercalate block ++ ['\n'] = block.flatMap fun line => line ++ ['\n'] := by
  induction block with
  | nil => exact absurd rfl hne
  | cons line others ih =>
    by_cases hothers : others = []
    · simp [hothers]
    · rw [List.flatMap_cons, ← ih hothers, List.intercalate_cons_of_ne_nil hothers]
      simp only [List.append_assoc]

/-- One line feed more and each line of a text is ended by one. -/
theorem flatMap_lines (content : Text) :
    ((lines content).flatMap fun line => line ++ ['\n']) = content ++ ['\n'] := by
  rw [← intercalate_append_newline (lines_ne_nil content), intercalate_lines]

example : lines ['a', '\r', '\n', '\n', 'b'] = [['a', '\r'], [], ['b']] := by decide

example : nonEmptyLines ['a', '\r', '\n', '\n', 'b'] = [['a', '\r'], ['b']] := by decide

end Text

end Graft
