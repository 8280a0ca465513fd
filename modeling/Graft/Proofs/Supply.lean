import Graft.Suffix

/-!
# What a draw takes from its supply

A draw goes block by block. `Fills wanted used` says that `used` is a run of
whole blocks which gives `wanted` letters and gives them only with its last
block; a draw that goes well takes exactly such a run off the front of the
supply, and its letters are the first of that run (`drawFrom_eq_some_iff`).
The next draw goes on right behind it (`draws_succ_eq_cons_iff`).
-/

namespace Graft

namespace Suffix

/-- The letters that bytes give, in order. -/
def letters (bytes : Bytes) : Text :=
  bytes.filterMap letter?

@[simp] theorem letters_nil : letters [] = [] := rfl

@[simp] theorem letters_append (a b : Bytes) : letters (a ++ b) = letters a ++ letters b :=
  List.filterMap_append

/-- The blocks that a draw takes which still wants so many letters. -/
inductive Fills : Nat → Bytes → Prop
  /-- One block gives all that is wanted. -/
  | last {wanted : Nat} {block : Bytes} (size : block.length = blockSize)
      (enough : wanted ≤ (letters block).length) : Fills wanted block
  /-- A block gives too little, and further blocks give the rest. -/
  | more {wanted : Nat} {block others : Bytes} (size : block.length = blockSize)
      (few : (letters block).length < wanted)
      (rest : Fills (wanted - (letters block).length) others) : Fills wanted (block ++ others)

variable {found word : Text} {bytes used rest : Bytes} {wanted : Nat}

/-- The blocks of a draw give the letters it wants. -/
theorem Fills.le_length_letters (h : Fills wanted used) : wanted ≤ (letters used).length := by
  induction h with
  | last _ enough => exact enough
  | more _ _ _ ih =>
    rw [letters_append, List.length_append]
    omega

/-- One round of a draw, on a supply that begins with a block. -/
theorem drawFrom_block {block : Bytes} (size : block.length = blockSize) :
    drawFrom found (block ++ rest) =
      if length ≤ (found ++ letters block).length then
        (some ((found ++ letters block).take length), rest)
      else drawFrom (found ++ letters block) rest := by
  have hlong : ¬ (block ++ rest).length < blockSize := by
    rw [List.length_append]
    omega
  rw [drawFrom, if_neg hlong, ← size, List.take_left, List.drop_left]
  rfl

/-- A draw takes the blocks that fill it and leaves what follows. -/
theorem drawFrom_append_of_fills (h : Fills wanted used) (hw : found.length + wanted = length) :
    drawFrom found (used ++ rest) = (some ((found ++ letters used).take length), rest) := by
  induction h generalizing found with
  | last size enough =>
    rw [drawFrom_block size, if_pos]
    rw [List.length_append]
    omega
  | @more wanted block others size few _ ih =>
    have hshort : ¬ length ≤ (found ++ letters block).length := by
      rw [List.length_append]
      omega
    have hrest : (found ++ letters block).length + (wanted - (letters block).length) = length := by
      rw [List.length_append]
      omega
    rw [List.append_assoc, drawFrom_block size, if_neg hshort, ih hrest, letters_append,
      List.append_assoc]

/-- What a draw that goes well has taken fills it. -/
theorem exists_fills_of_drawFrom (hw : found.length + wanted = length)
    (h : drawFrom found bytes = (some word, rest)) :
    ∃ used, bytes = used ++ rest ∧ Fills wanted used ∧
      word = (found ++ letters used).take length := by
  -- by the length of the supply, from which every round takes a block
  induction hn : bytes.length using Nat.strongRecOn generalizing found bytes wanted with
  | ind n ih =>
    by_cases hlong : bytes.length < blockSize
    · rw [drawFrom, if_pos hlong] at h
      cases h
    have hsize : (bytes.take blockSize).length = blockSize := by
      rw [List.length_take]
      omega
    have hsplit : bytes.take blockSize ++ bytes.drop blockSize = bytes :=
      List.take_append_drop blockSize bytes
    rw [← hsplit, drawFrom_block hsize] at h
    by_cases henough : length ≤ (found ++ letters (bytes.take blockSize)).length
    · rw [if_pos henough] at h
      rw [List.length_append] at henough
      obtain ⟨rfl, rfl⟩ : _ = word ∧ _ = rest := by simpa using h
      exact ⟨bytes.take blockSize, hsplit.symm, .last hsize (by omega), rfl⟩
    · rw [if_neg henough] at h
      rw [List.length_append] at henough
      have hshorter : (bytes.drop blockSize).length < n := by
        unfold blockSize at *
        rw [List.length_drop]
        omega
      have hw' : (found ++ letters (bytes.take blockSize)).length +
          (wanted - (letters (bytes.take blockSize)).length) = length := by
        rw [List.length_append]
        omega
      obtain ⟨used, hused, hfills, hword⟩ := ih _ hshorter hw' h rfl
      refine ⟨bytes.take blockSize ++ used, ?_, .more hsize (by omega) hfills, ?_⟩
      · rw [List.append_assoc, ← hused, hsplit]
      · rw [hword, letters_append, List.append_assoc]

/-- **A draw takes the blocks that fill it, and only those.** -/
theorem drawFrom_eq_some_iff :
    drawFrom [] bytes = (some word, rest) ↔
      ∃ used, bytes = used ++ rest ∧ Fills length used ∧ word = (letters used).take length := by
  constructor
  · intro h
    simpa using exists_fills_of_drawFrom (Nat.zero_add length) h
  · rintro ⟨used, rfl, hfills, rfl⟩
    have h : drawFrom [] (used ++ rest) = (some (([] ++ letters used).take length), rest) :=
      drawFrom_append_of_fills hfills (Nat.zero_add length)
    rwa [List.nil_append] at h

/-! ## Successive draws -/

/-- What so many successive draws from a source answer. -/
def draws : Nat → Source → List (Except Error Text)
  | 0, _ => []
  | count + 1, source => (draw source).1 :: draws count (draw source).2

/-- A source fails with one message throughout. -/
@[simp] theorem failure_draw (source : Source) : (draw source).2.failure = source.failure := by
  unfold draw
  rcases drawFrom [] source.bytes with ⟨_ | drawn, rest⟩ <;> rfl

theorem draw_eq_ok_iff {failure : Text} :
    draw ⟨bytes, failure⟩ = (.ok word, ⟨rest, failure⟩) ↔
      drawFrom [] bytes = (some word, rest) := by
  unfold draw
  rcases drawFrom [] bytes with ⟨_ | drawn, left⟩ <;> simp

theorem draw_eq_error_iff {failure : Text} :
    draw ⟨bytes, failure⟩ = (.error (.entropy failure), ⟨rest, failure⟩) ↔
      drawFrom [] bytes = (none, rest) := by
  unfold draw
  rcases drawFrom [] bytes with ⟨_ | drawn, left⟩ <;> simp

/-- The first of successive draws takes its blocks, the others what follows. -/
theorem draws_succ_eq_cons_iff {count : Nat} {failure : Text} {answers : List (Except Error Text)} :
    draws (count + 1) ⟨bytes, failure⟩ = .ok word :: answers ↔
      ∃ used rest, bytes = used ++ rest ∧ Fills length used ∧ word = (letters used).take length ∧
        draws count ⟨rest, failure⟩ = answers := by
  rw [draws, List.cons.injEq]
  constructor
  · rintro ⟨hfirst, hothers⟩
    have hfailure := failure_draw ⟨bytes, failure⟩
    rcases hdraw : draw ⟨bytes, failure⟩ with ⟨first, rest, failure'⟩
    rw [hdraw] at hfirst hothers hfailure
    obtain rfl : failure' = failure := hfailure
    obtain rfl : first = .ok word := hfirst
    obtain ⟨used, hbytes, hfills, hword⟩ := drawFrom_eq_some_iff.1 (draw_eq_ok_iff.1 hdraw)
    exact ⟨used, rest, hbytes, hfills, hword, hothers⟩
  · rintro ⟨used, rest, hbytes, hfills, hword, hothers⟩
    have hdraw : draw ⟨bytes, failure⟩ = (.ok word, ⟨rest, failure⟩) :=
      draw_eq_ok_iff.2 (drawFrom_eq_some_iff.2 ⟨used, hbytes, hfills, hword⟩)
    rw [hdraw]
    exact ⟨rfl, hothers⟩

end Suffix

end Graft
