import Graft.Proofs.Uniform
import Mathlib.Logic.Function.Iterate
import Mathlib.Order.Bounds.Basic

/-!
# Draws from a stream

Successive draws go through the supply from front to back, in whole blocks, so what one
draw leaves to the next is an offset. `Served` says of the whole supply and an offset
what a draw there answers and where it stops: behind the least number of blocks that hold
enough bytes which give a letter, or, where no number of blocks does, behind the last
whole block. Every draw is served so, the first one at offset 0 and each other one where
the draw before it stopped (`draws_served`).

A draw knows its blocks one by one. That the blocks it takes are the least number that
will do is read off `Fills` (`Fills.exists_least`), and where it fails it has been through
all of them (`eq_drop_of_drawFrom_eq_none`).
-/

namespace Graft

namespace Suffix

variable {bytes used rest : Bytes} {found word failure : Text} {wanted offset next m n : Nat}
variable {answer : Except Error Text}

/-! ## The bytes that count -/

/-- The bytes that give a letter, in order. -/
def accepted (bytes : Bytes) : Bytes :=
  bytes.filter fun b => b.toNat < acceptBelow

/-- The letter of a remainder by 26. -/
def letterOf (b : UInt8) : Char :=
  Char.ofNat ('a'.toNat + b.toNat % 26)

theorem letters_eq_map (bytes : Bytes) : letters bytes = (accepted bytes).map letterOf := by
  induction bytes with
  | nil => rfl
  | cons b rest ih =>
    by_cases hb : b.toNat < acceptBelow
    · have hletter : letter? b = some (letterOf b) := if_pos hb
      have haccepted : accepted (b :: rest) = b :: accepted rest :=
        List.filter_cons_of_pos (by simpa using hb)
      rw [haccepted, List.map_cons, ← ih, letters, List.filterMap_cons_some hletter]
      rfl
    · have haccepted : accepted (b :: rest) = accepted rest :=
        List.filter_cons_of_neg (by simpa using hb)
      rw [letters_cons_of_not_lt hb, ih, haccepted]

theorem isLetter_letterOf {b : UInt8} (hb : b.toNat < acceptBelow) : IsLetter (letterOf b) :=
  (letter?_eq_some_iff.1 (if_pos hb)).2.1

theorem length_letters (bytes : Bytes) : (letters bytes).length = (accepted bytes).length := by
  rw [letters_eq_map, List.length_map]

/-- A longer beginning gives no fewer letters. -/
theorem length_letters_take_le (bytes : Bytes) (h : m ≤ n) :
    (letters (bytes.take m)).length ≤ (letters (bytes.take n)).length :=
  ((List.take_prefix_take_left h).filterMap letter?).length_le

/-! ## One draw -/

/-- The blocks that fill a draw are a number of blocks of which no lesser one gives all
the letters. -/
theorem Fills.exists_least (h : Fills wanted used) (hw : 0 < wanted) :
    ∃ m, used.length = blockSize * m ∧
      ∀ n < m, (letters (used.take (blockSize * n))).length < wanted := by
  induction h with
  | last size enough =>
    refine ⟨1, by rw [size, Nat.mul_one], fun n hn => ?_⟩
    obtain rfl : n = 0 := by omega
    simpa using hw
  | @more wanted block others size few _ ih =>
    obtain ⟨m, hlength, hleast⟩ := ih (by omega)
    refine ⟨m + 1, by rw [List.length_append, size, hlength, Nat.mul_succ, Nat.add_comm], ?_⟩
    intro n hn
    cases n with
    | zero => simpa using hw
    | succ n =>
      have hothers := hleast n (by omega)
      have htake : (block ++ others).take (blockSize * (n + 1)) =
          block ++ others.take (blockSize * n) := by
        rw [Nat.mul_succ, Nat.add_comm, ← size, List.take_length_add_append]
      rw [htake, letters_append, List.length_append]
      omega

/-- A draw that fails has been through all whole blocks, and they gave too little. -/
theorem eq_drop_of_drawFrom_eq_none (hfound : found.length < length)
    (h : drawFrom found bytes = (none, rest)) :
    rest = bytes.drop (blockSize * (bytes.length / blockSize)) ∧
      found.length + (letters (bytes.take (blockSize * (bytes.length / blockSize)))).length <
        length := by
  fun_induction drawFrom found bytes with
  | case1 found bytes hshort =>
    obtain rfl : bytes = rest := by simpa using h
    rw [Nat.div_eq_of_lt hshort]
    simpa using hfound
  | case2 => cases h
  | case3 found bytes hlong found' rest' hfew ih =>
    obtain ⟨hrest, hgiven⟩ := ih (by omega) h
    have hlength : rest'.length = bytes.length - blockSize := List.length_drop
    -- the whole blocks are the one drawn and those behind it
    have hblocks : blockSize * (bytes.length / blockSize) =
        blockSize + blockSize * (rest'.length / blockSize) := by
      unfold blockSize at *
      omega
    have hbehind : bytes.drop blockSize = rest' := rfl
    have hfound' : found'.length = found.length + (letters (bytes.take blockSize)).length :=
      List.length_append
    rw [hblocks, ← List.drop_drop, List.take_add, hbehind, letters_append, List.length_append]
    exact ⟨hrest, by omega⟩

/-! ## What a draw does at an offset -/

/-- The next `m` blocks from an offset are there, and hold the bytes of a suffix. -/
structure Supplied (bytes : Bytes) (offset m : Nat) : Prop where
  there : offset + blockSize * m ≤ bytes.length
  enough : length ≤ (accepted ((bytes.drop offset).take (blockSize * m))).length

/-- What a draw at an offset of a supply answers, and the offset where it stops. -/
inductive Served (bytes : Bytes) (failure : Text) (offset : Nat) :
    Except Error Text → Nat → Prop
  /-- It gives the letters of the first bytes that count and stops behind the least
  number of blocks that hold them. -/
  | filled {m : Nat} (least : IsLeast {m | Supplied bytes offset m} m) :
      Served bytes failure offset
        (.ok (((accepted (bytes.drop offset)).take length).map letterOf)) (offset + blockSize * m)
  /-- No number of blocks will do, and it stops behind the last whole one. -/
  | dry (lacking : ∀ m, ¬ Supplied bytes offset m) :
      Served bytes failure offset (.error (.entropy failure))
        (blockSize * (bytes.length / blockSize))

namespace Served

theorem next_le (h : Served bytes failure offset answer next) : next ≤ bytes.length := by
  cases h with
  | filled least => exact least.1.there
  | dry _ => exact Nat.mul_div_le bytes.length blockSize

theorem dvd_next (h : Served bytes failure offset answer next) (hoffset : blockSize ∣ offset) :
    blockSize ∣ next := by
  cases h with
  | filled _ => exact Nat.dvd_add hoffset (Nat.dvd_mul_right _ _)
  | dry _ => exact Nat.dvd_mul_right _ _

theorem le_next (h : Served bytes failure offset answer next) (hoffset : blockSize ∣ offset)
    (hle : offset ≤ bytes.length) : offset ≤ next := by
  cases h with
  | filled _ => exact Nat.le_add_right _ _
  | dry _ =>
    obtain ⟨k, rfl⟩ := hoffset
    unfold blockSize at *
    omega

/-- What a draw gives has the length and the letters of a suffix. -/
theorem of_ok (h : Served bytes failure offset (.ok word) next) :
    word.length = length ∧ ∀ c ∈ word, IsLetter c := by
  cases h with
  | @filled m least =>
    have hblocks := (List.take_prefix (blockSize * m) (bytes.drop offset)).filter
      fun b => b.toNat < acceptBelow
    have henough : length ≤ (accepted (bytes.drop offset)).length :=
      least.1.enough.trans hblocks.length_le
    constructor
    · rw [List.length_map, List.length_take, Nat.min_eq_left henough]
    · intro c hc
      obtain ⟨b, hb, rfl⟩ := List.mem_map.1 hc
      have hcounts := List.of_mem_filter (List.mem_of_mem_take hb)
      exact isLetter_letterOf (by simpa using hcounts)

/-- A draw that fails stops behind the last whole block. -/
theorem next_eq_of_error {error : Error}
    (h : Served bytes failure offset (.error error) next) :
    next = blockSize * (bytes.length / blockSize) := by
  cases h with
  | dry _ => rfl

/-- From there a draw fails and takes nothing. -/
theorem of_last (h : Served bytes failure (blockSize * (bytes.length / blockSize)) answer next) :
    answer = .error (.entropy failure) ∧ next = blockSize * (bytes.length / blockSize) := by
  cases h with
  | dry _ => exact ⟨rfl, rfl⟩
  | @filled m least =>
    obtain ⟨there, enough⟩ := least.1
    obtain rfl : m = 0 := by
      unfold blockSize at there
      omega
    rw [Nat.mul_zero, List.take_zero] at enough
    exact absurd enough (by decide)

end Served

/-- Seen from the whole supply they are the least number that will do. -/
theorem Fills.isLeast_supplied (h : Fills length used) (hle : offset ≤ bytes.length)
    (hused : bytes.drop offset = used ++ rest) :
    ∃ m, used.length = blockSize * m ∧ IsLeast {m | Supplied bytes offset m} m := by
  obtain ⟨m, hlength, hleast⟩ := h.exists_least (by decide)
  have hall := congrArg List.length hused
  rw [List.length_drop, List.length_append] at hall
  refine ⟨m, hlength, ⟨by omega, ?_⟩, fun n hn => ?_⟩
  · rw [hused, ← hlength, List.take_left, ← length_letters]
    exact h.le_length_letters
  · by_contra hfewer
    have hshort : blockSize * n ≤ used.length := by
      rw [hlength]
      exact Nat.mul_le_mul_left blockSize (by omega)
    have henough := hn.enough
    rw [hused, List.take_append_of_le_length hshort, ← length_letters] at henough
    exact absurd (hleast n (by omega)) (by omega)

/-- A draw that fails between blocks has found no number of blocks that will do. -/
theorem not_supplied_of_drawFrom_eq_none (hoffset : blockSize ∣ offset)
    (hle : offset ≤ bytes.length) (h : drawFrom [] (bytes.drop offset) = (none, rest)) :
    (∀ m, ¬ Supplied bytes offset m) ∧
      rest = bytes.drop (blockSize * (bytes.length / blockSize)) := by
  obtain ⟨hrest, hfew⟩ := eq_drop_of_drawFrom_eq_none (by decide) h
  have hlast : blockSize * (bytes.length / blockSize) =
      offset + blockSize * ((bytes.drop offset).length / blockSize) := by
    obtain ⟨k, rfl⟩ := hoffset
    rw [List.length_drop]
    unfold blockSize at *
    omega
  refine ⟨fun m hm => ?_, by rw [hrest, hlast, List.drop_drop]⟩
  -- any blocks that are there are among those the draw has been through
  have hamong : blockSize * m ≤ blockSize * ((bytes.drop offset).length / blockSize) := by
    have hthere := hm.there
    rw [List.length_drop]
    unfold blockSize at *
    omega
  have hfewer := length_letters_take_le (bytes.drop offset) hamong
  have henough := hm.enough
  rw [← length_letters] at henough
  rw [List.length_nil] at hfew
  omega

/-- **A draw from where the last one stopped.** Its answer and the place where it stops are
those of the whole supply, and what it leaves is what lies behind that place. -/
theorem exists_served (failure : Text) (hoffset : blockSize ∣ offset)
    (hle : offset ≤ bytes.length) :
    ∃ next, Served bytes failure offset (draw ⟨bytes.drop offset, failure⟩).1 next ∧
      (draw ⟨bytes.drop offset, failure⟩).2 = ⟨bytes.drop next, failure⟩ := by
  rcases hdrawn : drawFrom [] (bytes.drop offset) with ⟨_ | word, rest⟩
  · obtain ⟨hlacking, hrest⟩ := not_supplied_of_drawFrom_eq_none hoffset hle hdrawn
    rw [draw_eq_error_iff.2 hdrawn, hrest]
    exact ⟨_, .dry hlacking, rfl⟩
  · obtain ⟨used, hused, hfills, rfl⟩ := drawFrom_eq_some_iff.1 hdrawn
    obtain ⟨m, hlength, hleast⟩ := hfills.isLeast_supplied hle hused
    have hrest : bytes.drop (offset + blockSize * m) = rest := by
      rw [← List.drop_drop, hused, ← hlength, List.drop_left]
    have hword : (letters used).take length =
        ((accepted (bytes.drop offset)).take length).map letterOf := by
      rw [List.map_take, ← letters_eq_map, hused, letters_append,
        List.take_append_of_le_length hfills.le_length_letters]
    rw [draw_eq_ok_iff.2 hdrawn, hword, ← hrest]
    exact ⟨_, .filled hleast, rfl⟩

/-! ## Successive draws -/

/-- The source after so many draws. -/
def afterDraws (source : Source) (count : Nat) : Source :=
  (fun source => (draw source).2)^[count] source

/-- How many bytes so many draws have taken. -/
def taken (source : Source) (count : Nat) : Nat :=
  source.bytes.length - (afterDraws source count).bytes.length

/-- What the draw after so many others answers. -/
def nthAnswer (source : Source) (count : Nat) : Except Error Text :=
  (draw (afterDraws source count)).1

theorem afterDraws_succ (source : Source) (count : Nat) :
    afterDraws source (count + 1) = (draw (afterDraws source count)).2 :=
  Function.iterate_succ_apply' _ _ _

theorem draws_eq_map (source : Source) (count : Nat) :
    draws count source = (List.range count).map (nthAnswer source) := by
  induction count generalizing source with
  | zero => rfl
  | succ count ih =>
    rw [draws, ih, List.range_succ_eq_map, List.map_cons, List.map_map]
    rfl

theorem taken_eq_of_afterDraws {source : Source} {count : Nat} (hle : offset ≤ source.bytes.length)
    (h : (afterDraws source count).bytes = source.bytes.drop offset) :
    taken source count = offset := by
  rw [taken, h, List.length_drop]
  omega

/-- One draw more: it is served where the draws before it stopped, and leaves the source
at the place where it stops itself. -/
theorem served_of_afterDraws {source : Source} {count : Nat}
    (h : afterDraws source count = ⟨source.bytes.drop offset, source.failure⟩)
    (hoffset : blockSize ∣ offset) (hle : offset ≤ source.bytes.length) :
    Served source.bytes source.failure offset (nthAnswer source count)
        (taken source (count + 1)) ∧
      afterDraws source (count + 1) =
        ⟨source.bytes.drop (taken source (count + 1)), source.failure⟩ := by
  obtain ⟨next, hserved, hleft⟩ := exists_served source.failure hoffset hle
  rw [← h, ← afterDraws_succ] at hleft
  rw [← h] at hserved
  have htaken : taken source (count + 1) = next :=
    taken_eq_of_afterDraws hserved.next_le (congrArg Source.bytes hleft)
  rw [htaken]
  exact ⟨hserved, hleft⟩

/-- What draws have not taken stays in the source, and they have taken whole blocks. -/
theorem afterDraws_eq (source : Source) (count : Nat) :
    afterDraws source count = ⟨source.bytes.drop (taken source count), source.failure⟩ ∧
      blockSize ∣ taken source count ∧ taken source count ≤ source.bytes.length := by
  induction count with
  | zero =>
    have hstart : taken source 0 = 0 := taken_eq_of_afterDraws (Nat.zero_le _) rfl
    rw [hstart]
    exact ⟨rfl, Nat.dvd_zero _, Nat.zero_le _⟩
  | succ count ih =>
    obtain ⟨hafter, hblocks, hle⟩ := ih
    obtain ⟨hserved, hleft⟩ := served_of_afterDraws hafter hblocks hle
    exact ⟨hleft, hserved.dvd_next hblocks, hserved.next_le⟩

theorem served_draw (source : Source) (count : Nat) :
    Served source.bytes source.failure (taken source count) (nthAnswer source count)
      (taken source (count + 1)) := by
  obtain ⟨hafter, hblocks, hle⟩ := afterDraws_eq source count
  exact (served_of_afterDraws hafter hblocks hle).1

/-- Once a draw has failed all whole blocks are taken. -/
theorem taken_eq_of_failed {source : Source} {i j : Nat} {error : Error}
    (h : nthAnswer source i = .error error) (hij : i < j) :
    taken source j = blockSize * (source.bytes.length / blockSize) := by
  induction j, hij using Nat.le_induction with
  | base =>
    have hserved := served_draw source i
    rw [h] at hserved
    exact hserved.next_eq_of_error
  | succ j _ ih =>
    have hserved := served_draw source j
    rw [ih] at hserved
    exact hserved.of_last.2

/-- **Successive draws are served one behind the other.** Each starts where the one before
it stopped, whole blocks further on, and the source holds what lies behind that place, so
what was left of a block comes to no later draw. What a draw gives is a suffix, and after
the first that fails all others fail and take nothing. -/
theorem draws_served (source : Source) :
    (∀ count, draws count source = (List.range count).map (nthAnswer source)) ∧
    taken source 0 = 0 ∧
    ∀ i,
      Served source.bytes source.failure (taken source i) (nthAnswer source i)
        (taken source (i + 1)) ∧
      afterDraws source i = ⟨source.bytes.drop (taken source i), source.failure⟩ ∧
      blockSize ∣ taken source i ∧
      taken source i ≤ taken source (i + 1) ∧
      (∀ word, nthAnswer source i = .ok word →
        word.length = length ∧ ∀ c ∈ word, IsLetter c) ∧
      ∀ error, nthAnswer source i = .error error → ∀ j, i < j →
        nthAnswer source j = .error (.entropy source.failure) ∧
          taken source (j + 1) = taken source j := by
  refine ⟨draws_eq_map source, taken_eq_of_afterDraws (Nat.zero_le _) rfl, fun i => ?_⟩
  obtain ⟨hafter, hblocks, hle⟩ := afterDraws_eq source i
  have hserved := served_draw source i
  refine ⟨hserved, hafter, hblocks, hserved.le_next hblocks hle, fun word hword => ?_,
    fun error herror j hij => ?_⟩
  · rw [hword] at hserved
    exact hserved.of_ok
  · have hlast := taken_eq_of_failed herror hij
    have hnext := served_draw source j
    rw [hlast] at hnext
    rw [hlast]
    exact hnext.of_last

/-- A word from two blocks, of which a fifth letter and what follows it is dropped, and then
a draw that takes the last block and fails. -/
example :
    let source : Source :=
      ⟨[255, 0, 234, 25, 240, 250, 233, 255, 51, 1, 2, 3, 4, 5, 6, 7, 8, 9, 250, 250, 250, 250,
        250, 250, 250, 10], []⟩
    draws 3 source = [.ok "azzz".toList, .error (.entropy []), .error (.entropy [])] ∧
      taken source 1 = 16 ∧ taken source 2 = 24 ∧ taken source 3 = 24 := by
  decide +kernel

end Suffix

end Graft
