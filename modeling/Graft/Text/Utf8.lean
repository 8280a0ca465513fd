import Graft.Text.Search

/-!
# Text as bytes

The UTF-8 form of a text, and the reading of bytes as text. Reading is
strict: `decode?` accepts exactly what `encode` produces
(`decode?_eq_some_iff`), so a text has one byte form and a byte string
stands for at most one text.

Names of files may be any bytes. To show those that are not text,
`showBytes` puts U+FFFD in the place of each stretch that cannot be
completed to a character, as Unicode recommends: a stretch is as long as
it is the beginning of some character.
-/

namespace Graft

/-- A byte string. -/
abbrev Bytes := List UInt8

namespace Text

/-- The UTF-8 bytes of a text. -/
def encode (content : Text) : Bytes :=
  content.flatMap String.utf8EncodeChar

/-- The text whose UTF-8 form the bytes are, if there is one. -/
def decode? (bytes : Bytes) : Option Text :=
  (ByteArray.utf8Decode? bytes.toByteArray).map Array.toList

/-- How many bytes the UTF-8 form of a text takes. -/
def byteLength (content : Text) : Nat :=
  (encode content).length

@[simp] theorem encode_nil : encode [] = [] := rfl

@[simp] theorem encode_cons (c : Char) (rest : Text) :
    encode (c :: rest) = String.utf8EncodeChar c ++ encode rest := by
  simp [encode]

@[simp] theorem encode_append (a b : Text) : encode (a ++ b) = encode a ++ encode b := by
  simp [encode]

@[simp] theorem byteLength_nil : byteLength [] = 0 := rfl

@[simp] theorem byteLength_cons (c : Char) (rest : Text) :
    byteLength (c :: rest) = c.utf8Size + byteLength rest := by
  simp [byteLength]

@[simp] theorem byteLength_append (a b : Text) :
    byteLength (a ++ b) = byteLength a + byteLength b := by
  simp [byteLength]

@[simp] theorem byteLength_eq_zero_iff {content : Text} :
    byteLength content = 0 ↔ content = [] := by
  cases content with
  | nil => simp
  | cons c rest =>
    have hpos := c.utf8Size_pos
    simp only [byteLength_cons, reduceCtorEq, iff_false]
    omega

/-- The byte string as an array is the one the core library encodes to. -/
theorem toByteArray_encode (content : Text) :
    (encode content).toByteArray = content.utf8Encode := by
  simp [encode, List.utf8Encode]

/-- **Reading accepts exactly what writing produces.** -/
theorem decode?_eq_some_iff {bytes : Bytes} {content : Text} :
    decode? bytes = some content ↔ bytes = encode content := by
  unfold decode?
  constructor
  · intro h
    obtain ⟨chars, hc, rfl⟩ := Option.map_eq_some_iff.1 h
    have hs : (ByteArray.utf8Decode? bytes.toByteArray).isSome := by simp [hc]
    have hb := ByteArray.utf8Encode_get_utf8Decode? (h := hs)
    simp only [hc, Option.get_some] at hb
    rw [← toByteArray_encode] at hb
    have := congrArg (fun b => b.data.toList) hb
    simpa using this.symm
  · rintro rfl
    rw [toByteArray_encode, List.utf8Decode?_utf8Encode]
    simp

@[simp] theorem decode?_encode (content : Text) : decode? (encode content) = some content :=
  decode?_eq_some_iff.2 rfl

/-! ## Bytes that are not text -/

/-- A character begun but not finished: the value of the bytes so far, how
many bytes are still owed, and the least and the greatest the next one
may be. -/
structure Pending where
  value : Nat
  owed : Nat
  least : Nat
  greatest : Nat

/-- What a byte begins: a whole character, the first part of one, or
nothing. -/
inductive Start where
  | whole (c : Char)
  | part (p : Pending)
  | none

/-- Reads a byte as the first of a character. -/
def start (b : UInt8) : Start :=
  let n := b.toNat
  if n < 0x80 then .whole (Char.ofNat n)
  else if n < 0xc2 then .none
  else if n < 0xe0 then .part ⟨n - 0xc0, 1, 0x80, 0xbf⟩
  else if n < 0xf0 then
    .part ⟨n - 0xe0, 2, if n = 0xe0 then 0xa0 else 0x80, if n = 0xed then 0x9f else 0xbf⟩
  else if n < 0xf5 then
    .part ⟨n - 0xf0, 3, if n = 0xf0 then 0x90 else 0x80, if n = 0xf4 then 0x8f else 0xbf⟩
  else .none

/-- The character shown for a stretch that is none. -/
def replacementChar : Char := '\uFFFD'

/-- The bytes as text, each stretch that cannot become a character shown as
one replacement character. `pending` is the character under way. -/
def showFrom : Option Pending → Bytes → Text
  | none, [] => []
  | some _, [] => [replacementChar]
  | pending, b :: rest =>
    let fresh (shown : Text) : Text :=
      match start b with
      | .whole c => shown ++ c :: showFrom none rest
      | .part p => shown ++ showFrom (some p) rest
      | .none => shown ++ replacementChar :: showFrom none rest
    match pending with
    | none => fresh []
    | some p =>
      if p.least ≤ b.toNat ∧ b.toNat ≤ p.greatest then
        let value := p.value * 64 + b.toNat % 64
        if p.owed = 1 then Char.ofNat value :: showFrom none rest
        else showFrom (some ⟨value, p.owed - 1, 0x80, 0xbf⟩) rest
      else fresh [replacementChar]

/-- The bytes as text for a reader's eyes: what they encode, or else the
nearest thing to it. -/
def showBytes (bytes : Bytes) : Text :=
  (decode? bytes).getD (showFrom none bytes)

@[simp] theorem showBytes_encode (content : Text) : showBytes (encode content) = content := by
  simp [showBytes]

example : showFrom none [0x61, 0xe2, 0x98, 0x95, 0xff] = ['a', '☕', replacementChar] := by decide

example : showFrom none [0xf0, 0x9f, 0x41, 0xc3] =
    [replacementChar, 'A', replacementChar] := by decide

end Text

end Graft
