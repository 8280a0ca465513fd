import Graft.Proofs.Supply
import Mathlib.Data.Fintype.Vector
import Mathlib.Data.FinEnum
import Mathlib.Data.Finset.Card

/-!
# All suffixes are equally likely

The 234 bytes that give a letter fall into nine stretches of 26, and every
stretch gives each letter once. So a byte can be made to give another letter
without leaving its stretch (`withLetter`). `respell` does so to the bytes of
one draw, letter by letter, and `respellAll` to the bytes of successive
draws: it moves no draw's end, and it can be undone by spelling the former
words again. The supplies from which successive draws give one list of words
are therefore as many as those from which they give another
(`card_supplies_eq`).
-/

namespace Graft

namespace Suffix

variable {b : UInt8} {c d : Char} {word word' : Text} {bytes used rest : Bytes} {wanted : Nat}

/-! ## Another letter in the same stretch -/

/-- The byte in the stretch of `b` that gives the letter `c`. -/
def withLetter (b : UInt8) (c : Char) : UInt8 :=
  UInt8.ofNat (26 * (b.toNat / 26) + (c.toNat - 'a'.toNat))

/-- A small letter of the alphabet. -/
def IsLetter (c : Char) : Prop :=
  'a' ≤ c ∧ c ≤ 'z'

theorem isLetter_iff_toNat : IsLetter c ↔ 97 ≤ c.toNat ∧ c.toNat ≤ 122 := by
  unfold IsLetter
  rw [Char.le_def, Char.le_def, UInt32.le_iff_toNat_le, UInt32.le_iff_toNat_le]
  rfl

theorem letter?_eq_some_iff :
    letter? b = some c ↔ b.toNat < acceptBelow ∧ IsLetter c ∧ b.toNat % 26 = c.toNat - 97 := by
  unfold letter?
  by_cases hb : b.toNat < acceptBelow
  · have hvalid : (97 + b.toNat % 26).isValidChar := Or.inl (by omega)
    rw [if_pos hb, Option.some.injEq, isLetter_iff_toNat]
    constructor
    · rintro rfl
      have hnat : (Char.ofNat ('a'.toNat + b.toNat % 26)).toNat = 97 + b.toNat % 26 := by
        unfold Char.ofNat
        exact congrArg Char.toNat (dif_pos hvalid)
      rw [hnat]
      exact ⟨hb, by omega, by omega⟩
    · rintro ⟨-, ⟨hlow, -⟩, hmod⟩
      have hnat : 'a'.toNat + b.toNat % 26 = c.toNat := by
        have ha : 'a'.toNat = 97 := rfl
        omega
      rw [hnat, Char.ofNat_toNat]
  · simp [hb]

/-- The stretches stay below the bytes that give nothing. -/
theorem toNat_withLetter (hb : b.toNat < acceptBelow) (hc : IsLetter c) :
    (withLetter b c).toNat = 26 * (b.toNat / 26) + (c.toNat - 97) := by
  obtain ⟨hlow, hhigh⟩ := isLetter_iff_toNat.1 hc
  unfold acceptBelow at hb
  refine UInt8.toNat_ofNat_of_lt' ?_
  have ha : 'a'.toNat = 97 := rfl
  rw [ha]
  unfold UInt8.size
  omega

theorem letter?_withLetter (hb : b.toNat < acceptBelow) (hc : IsLetter c) :
    letter? (withLetter b c) = some c := by
  obtain ⟨hlow, hhigh⟩ := isLetter_iff_toNat.1 hc
  rw [letter?_eq_some_iff, toNat_withLetter hb hc]
  unfold acceptBelow at *
  exact ⟨by omega, hc, by omega⟩

/-- Only the letter set last counts. -/
theorem withLetter_withLetter (hb : b.toNat < acceptBelow) (hc : IsLetter c) :
    withLetter (withLetter b c) d = withLetter b d := by
  obtain ⟨hlow, hhigh⟩ := isLetter_iff_toNat.1 hc
  have hsame : (withLetter b c).toNat / 26 = b.toNat / 26 := by
    rw [toNat_withLetter hb hc]
    omega
  rw [withLetter, hsame, withLetter]

/-- Setting the letter a byte gives already changes nothing. -/
theorem withLetter_of_letter? (h : letter? b = some c) : withLetter b c = b := by
  obtain ⟨hb, hc, hmod⟩ := letter?_eq_some_iff.1 h
  rw [← UInt8.toNat_inj, toNat_withLetter hb hc]
  omega

/-- A byte gives a letter where it lies below the bound. -/
theorem letter?_of_lt (hb : b.toNat < acceptBelow) : ∃ c, IsLetter c ∧ letter? b = some c := by
  have hletter : letter? b = some (Char.ofNat ('a'.toNat + b.toNat % 26)) := if_pos hb
  exact ⟨_, (letter?_eq_some_iff.1 hletter).2.1, hletter⟩

theorem letters_cons_of_lt (hb : b.toNat < acceptBelow) :
    (letters (b :: bytes)).length = (letters bytes).length + 1 := by
  obtain ⟨c, -, hc⟩ := letter?_of_lt hb
  simp [letters, hc]

theorem letters_cons_of_not_lt (hb : ¬ b.toNat < acceptBelow) :
    letters (b :: bytes) = letters bytes := by
  simp [letters, letter?, hb]

/-! ## Spelling a word with given bytes -/

/-- The bytes that give a letter are made to give those of the word, one
after another, as long as the word lasts. The others stay. -/
def respell : Text → Bytes → Bytes
  | [], bytes => bytes
  | _ :: _, [] => []
  | c :: word, b :: rest =>
    if b.toNat < acceptBelow then withLetter b c :: respell word rest
    else b :: respell (c :: word) rest

@[simp] theorem respell_nil (bytes : Bytes) : respell [] bytes = bytes := by
  rw [respell]

@[simp] theorem respell_of_nil (word : Text) : respell word [] = [] := by
  cases word <;> rfl

theorem respell_cons_of_lt (hb : b.toNat < acceptBelow) :
    respell (c :: word) (b :: rest) = withLetter b c :: respell word rest := by
  rw [respell, if_pos hb]

theorem respell_cons_of_not_lt (hb : ¬ b.toNat < acceptBelow) :
    respell word (b :: rest) = b :: respell word rest := by
  cases word with
  | nil => simp
  | cons c word => rw [respell, if_neg hb]

@[simp] theorem length_respell (word : Text) (bytes : Bytes) :
    (respell word bytes).length = bytes.length := by
  induction bytes generalizing word with
  | nil => simp
  | cons b rest ih =>
    cases word with
    | nil => simp
    | cons c word =>
      by_cases hb : b.toNat < acceptBelow
      · simp [respell_cons_of_lt hb, ih]
      · simp [respell_cons_of_not_lt hb, ih]

/-- Spelling goes on behind the letters that the first part gives. -/
theorem respell_append (word : Text) (a rest : Bytes) :
    respell word (a ++ rest) =
      respell word a ++ respell (word.drop (letters a).length) rest := by
  induction a generalizing word with
  | nil => simp
  | cons b a ih =>
    cases word with
    | nil => simp
    | cons c word =>
      by_cases hb : b.toNat < acceptBelow
      · rw [List.cons_append, respell_cons_of_lt hb, respell_cons_of_lt hb, ih,
          letters_cons_of_lt hb, List.drop_succ_cons]
        rfl
      · rw [List.cons_append, respell_cons_of_not_lt hb, respell_cons_of_not_lt hb, ih,
          letters_cons_of_not_lt hb]
        rfl

/-- What is spelled in place of other letters: the word, and then the letters
there were. -/
theorem letters_respell (hw : ∀ c ∈ word, IsLetter c) (bytes : Bytes) :
    letters (respell word bytes) =
      word.take (letters bytes).length ++ (letters bytes).drop word.length := by
  induction bytes generalizing word with
  | nil => simp
  | cons b rest ih =>
    cases word with
    | nil => simp
    | cons c word =>
      obtain ⟨hc, hw'⟩ := List.forall_mem_cons.1 hw
      by_cases hb : b.toNat < acceptBelow
      · obtain ⟨d, -, hd⟩ := letter?_of_lt hb
        have hletters : letters (b :: rest) = d :: letters rest := by simp [letters, hd]
        have hfirst : letters (withLetter b c :: respell word rest) =
            c :: letters (respell word rest) := by
          simp [letters, letter?_withLetter hb hc]
        rw [respell_cons_of_lt hb, hfirst, ih hw', hletters]
        simp
      · rw [respell_cons_of_not_lt hb, letters_cons_of_not_lt hb, ih hw,
          letters_cons_of_not_lt hb]

/-- Spelling changes how no byte counts. -/
theorem length_letters_respell (hw : ∀ c ∈ word, IsLetter c) (bytes : Bytes) :
    (letters (respell word bytes)).length = (letters bytes).length := by
  rw [letters_respell hw, List.length_append, List.length_take, List.length_drop]
  omega

/-- A spelled word can be read off. -/
theorem take_letters_respell (hw : ∀ c ∈ word, IsLetter c)
    (hlen : word.length ≤ (letters bytes).length) :
    (letters (respell word bytes)).take word.length = word := by
  rw [letters_respell hw, List.take_of_length_le hlen, List.take_left]

/-- Of two words spelled one after the other the later one stays. -/
theorem respell_respell (hw : ∀ c ∈ word, IsLetter c) (hlen : word.length = word'.length) :
    respell word' (respell word bytes) = respell word' bytes := by
  induction bytes generalizing word word' with
  | nil => simp
  | cons b rest ih =>
    cases word with
    | nil => simp
    | cons c word =>
      obtain ⟨hc, hw'⟩ := List.forall_mem_cons.1 hw
      cases word' with
      | nil => cases hlen
      | cons d word' =>
        by_cases hb : b.toNat < acceptBelow
        · have hb' : (withLetter b c).toNat < acceptBelow :=
            (letter?_eq_some_iff.1 (letter?_withLetter hb hc)).1
          rw [respell_cons_of_lt hb, respell_cons_of_lt hb', respell_cons_of_lt hb,
            withLetter_withLetter hb hc, ih hw' (Nat.succ.inj hlen)]
        · rw [respell_cons_of_not_lt hb, respell_cons_of_not_lt hb, respell_cons_of_not_lt hb,
            ih hw hlen]

/-- Spelling the word that is there changes nothing. -/
theorem respell_eq_self (h : word <+: letters bytes) : respell word bytes = bytes := by
  induction bytes generalizing word with
  | nil => simp
  | cons b rest ih =>
    by_cases hb : b.toNat < acceptBelow
    · cases word with
      | nil => simp
      | cons c word =>
        obtain ⟨d, -, hd⟩ := letter?_of_lt hb
        have hletters : letters (b :: rest) = d :: letters rest := by simp [letters, hd]
        rw [hletters, List.cons_prefix_cons] at h
        obtain ⟨rfl, h⟩ := h
        rw [respell_cons_of_lt hb, withLetter_of_letter? hd, ih h]
    · rw [letters_cons_of_not_lt hb] at h
      rw [respell_cons_of_not_lt hb, ih h]

/-- **Spelling moves no draw's end.** -/
theorem Fills.respell (h : Fills wanted used) (hw : ∀ c ∈ word, IsLetter c) :
    Fills wanted (respell word used) := by
  induction h generalizing word with
  | last size enough =>
    refine .last (by rw [length_respell, size]) ?_
    rwa [length_letters_respell hw]
  | @more wanted block others size few _ ih =>
    -- the further blocks are spelled with what the first leaves of the word
    have hlen := length_letters_respell hw block
    rw [respell_append]
    refine .more (by rw [length_respell, size]) (by rw [hlen]; exact few) ?_
    rw [hlen]
    exact ih fun c hc => hw c (List.mem_of_mem_drop hc)

/-! ## Spelling the words of successive draws -/

/-- The bytes that successive draws take are made to give these words. -/
def respellAll : List Text → Bytes → Bytes
  | [], bytes => bytes
  | word :: words, bytes =>
    let rest := (drawFrom [] bytes).2
    respell word (bytes.take (bytes.length - rest.length)) ++ respellAll words rest

/-- A draw leaves no more than it found. -/
theorem length_drawFrom_le (found : Text) (bytes : Bytes) :
    (drawFrom found bytes).2.length ≤ bytes.length := by
  fun_induction drawFrom found bytes with
  | case1 => exact Nat.le_refl _
  | case2 found bytes _ =>
    rw [List.length_drop]
    omega
  | case3 found bytes _ found' rest _ ih =>
    have hdrop : rest.length ≤ bytes.length := by
      rw [List.length_drop]
      omega
    exact ih.trans hdrop

@[simp] theorem length_respellAll (words : List Text) (bytes : Bytes) :
    (respellAll words bytes).length = bytes.length := by
  induction words generalizing bytes with
  | nil => rfl
  | cons word words ih =>
    have hle := length_drawFrom_le [] bytes
    rw [respellAll, List.length_append, length_respell, List.length_take, ih]
    omega

theorem respellAll_append_of_fills {words : List Text} (h : Fills length used) :
    respellAll (word :: words) (used ++ rest) = respell word used ++ respellAll words rest := by
  have hdrawn : drawFrom [] (used ++ rest) = (some ((letters used).take length), rest) :=
    drawFrom_eq_some_iff.2 ⟨used, rfl, h, rfl⟩
  have hused : (used ++ rest).length - rest.length = used.length := by
    rw [List.length_append]
    omega
  rw [respellAll, hdrawn, hused, List.take_left]

/-- A word that a draw can give. -/
structure IsWord (word : Text) : Prop where
  length : hasLength word = true
  lowercase : isLowercase word = true

instance (word : Text) : Decidable (IsWord word) :=
  decidable_of_iff (hasLength word = true ∧ isLowercase word = true)
    ⟨fun ⟨hl, hc⟩ => ⟨hl, hc⟩, fun h => ⟨h.length, h.lowercase⟩⟩

theorem IsWord.length_eq (h : IsWord word) : word.length = Suffix.length :=
  of_decide_eq_true h.length

theorem IsWord.isLetter (h : IsWord word) : ∀ c ∈ word, IsLetter c := by
  intro c hc
  have hall := List.all_eq_true.1 h.lowercase c hc
  simpa [IsLetter] using hall

variable {us vs : List Text} {failure : Text}

/-- **Where draws give the words `us`, respelling makes them give `vs`, and
spelling `us` again undoes it.** -/
theorem draws_respellAll (hlen : us.length = vs.length) (hu : ∀ u ∈ us, IsWord u)
    (hv : ∀ v ∈ vs, IsWord v) (h : draws us.length ⟨bytes, failure⟩ = us.map .ok) :
    draws vs.length ⟨respellAll vs bytes, failure⟩ = vs.map .ok ∧
      respellAll us (respellAll vs bytes) = bytes := by
  induction us generalizing vs bytes with
  | nil =>
    obtain rfl : vs = [] := List.length_eq_zero_iff.1 hlen.symm
    exact ⟨rfl, rfl⟩
  | cons u us ih =>
    obtain ⟨v, vs, rfl⟩ := List.exists_cons_of_length_eq_add_one hlen.symm
    obtain ⟨hu₁, hu⟩ := List.forall_mem_cons.1 hu
    obtain ⟨hv₁, hv⟩ := List.forall_mem_cons.1 hv
    obtain ⟨used, rest, rfl, hfills, hword, hothers⟩ := draws_succ_eq_cons_iff.1 h
    obtain ⟨hdraws, hback⟩ := ih (Nat.succ.inj hlen) hu hv hothers
    -- the first draw still ends where it ended, so the others find their own bytes
    have hfills' : Fills length (respell v used) := hfills.respell hv₁.isLetter
    have hspelled : (letters (respell v used)).take length = v := by
      rw [← hv₁.length_eq]
      refine take_letters_respell hv₁.isLetter ?_
      rw [hv₁.length_eq]
      exact hfills.le_length_letters
    rw [respellAll_append_of_fills hfills]
    refine ⟨draws_succ_eq_cons_iff.2 ⟨_, _, rfl, hfills', hspelled.symm, hdraws⟩, ?_⟩
    have hlen' : v.length = u.length := by rw [hv₁.length_eq, hu₁.length_eq]
    have hsame : respell u used = used := respell_eq_self (hword ▸ List.take_prefix _ _)
    rw [respellAll_append_of_fills hfills', respell_respell hv₁.isLetter hlen', hsame, hback]

/-! ## Counting the supplies -/

/-- The supplies of `n` blocks from which successive draws give these
words. -/
def supplies (n : Nat) (failure : Text) (words : List Text) :
    Finset (List.Vector UInt8 (blockSize * n)) :=
  Finset.univ.filter fun bytes => draws words.length ⟨bytes.toList, failure⟩ = words.map .ok

/-- A supply with the words of its draws respelled. -/
def respellSupply {n : Nat} (words : List Text) (bytes : List.Vector UInt8 n) :
    List.Vector UInt8 n :=
  ⟨respellAll words bytes.toList, by rw [length_respellAll, bytes.toList_length]⟩

theorem mem_supplies {n : Nat} {words : List Text} {bytes : List.Vector UInt8 (blockSize * n)} :
    bytes ∈ supplies n failure words ↔
      draws words.length ⟨bytes.toList, failure⟩ = words.map .ok := by
  simp [supplies]

/-- A supply from which the draws give the words is one of those counted. -/
theorem card_supplies_pos {n : Nat} {words : List Text} (hlen : bytes.length = blockSize * n)
    (h : draws words.length ⟨bytes, failure⟩ = words.map .ok) :
    0 < (supplies n failure words).card :=
  Finset.card_pos.2 ⟨⟨bytes, hlen⟩, mem_supplies.2 h⟩

/-- Respelling leads from the supplies of `us` into those of `vs` and back. -/
theorem respellSupply_mem {n : Nat} (hlen : us.length = vs.length) (hu : ∀ u ∈ us, IsWord u)
    (hv : ∀ v ∈ vs, IsWord v) {bytes : List.Vector UInt8 (blockSize * n)}
    (h : bytes ∈ supplies n failure us) :
    respellSupply vs bytes ∈ supplies n failure vs ∧
      respellSupply us (respellSupply vs bytes) = bytes := by
  obtain ⟨hdraws, hback⟩ := draws_respellAll hlen hu hv (mem_supplies.1 h)
  exact ⟨mem_supplies.2 hdraws, Subtype.ext hback⟩

/-- **All suffixes are equally likely, and successive ones independent.** Of
the supplies of `n` blocks, as many give one list of words in successive
draws as give any other list of as many words. -/
theorem card_supplies_eq (n : Nat) (failure : Text) (hlen : us.length = vs.length)
    (hu : ∀ u ∈ us, IsWord u) (hv : ∀ v ∈ vs, IsWord v) :
    (supplies n failure us).card = (supplies n failure vs).card :=
  Finset.card_nbij' (respellSupply vs) (respellSupply us)
    (fun _ h => (respellSupply_mem hlen hu hv h).1)
    (fun _ h => (respellSupply_mem hlen.symm hv hu h).1)
    (fun _ h => (respellSupply_mem hlen hu hv h).2)
    (fun _ h => (respellSupply_mem hlen.symm hv hu h).2)

/-- Two draws from two blocks, the first of them with bytes that give
nothing: some supplies give the words, and as many give others. -/
theorem card_supplies_eq_of_two :
    let us := ["azaz".toList, "abcd".toList]
    let vs := ["zzzz".toList, "kuku".toList]
    us.length = vs.length ∧ (∀ u ∈ us, IsWord u) ∧ (∀ v ∈ vs, IsWord v) ∧
      0 < (supplies 2 [] us).card ∧ (supplies 2 [] us).card = (supplies 2 [] vs).card := by
  intro us vs
  have hu : ∀ u ∈ us, IsWord u := by decide +kernel
  have hv : ∀ v ∈ vs, IsWord v := by decide +kernel
  have hdraws : draws us.length
      ⟨[255, 0, 234, 25, 240, 26, 233, 51, 26, 1, 28, 3, 7, 7, 7, 7], []⟩ = us.map .ok := by
    decide +kernel
  have hpos : 0 < (supplies 2 [] us).card := card_supplies_pos rfl hdraws
  exact ⟨rfl, hu, hv, hpos, card_supplies_eq 2 [] rfl hu hv⟩

end Suffix

end Graft
