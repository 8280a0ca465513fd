import Graft.Text.Search

/-!
# Blanks

A blank is a code point with the Unicode property `White_Space`; there are
25 of them, well beyond ASCII. Trimming takes the blanks from both ends.
-/

namespace Graft

namespace Text

/-- The code points with the property `White_Space`, as closed ranges in
ascending order. -/
def blankRanges : List (Nat × Nat) :=
  [(0x9, 0xd), (0x20, 0x20), (0x85, 0x85), (0xa0, 0xa0), (0x1680, 0x1680), (0x2000, 0x200a),
   (0x2028, 0x2029), (0x202f, 0x202f), (0x205f, 0x205f), (0x3000, 0x3000)]

/-- `c` is a blank. -/
def isBlank (c : Char) : Bool :=
  blankRanges.any fun r => r.1 ≤ c.toNat && c.toNat ≤ r.2

/-- The text without the blanks at its beginning and at its end. -/
def trim (content : Text) : Text :=
  ((content.dropWhile isBlank).reverse.dropWhile isBlank).reverse

/-- The text has nothing but blanks. -/
def isAllBlank (content : Text) : Bool :=
  content.all isBlank

/-- ASCII capitals become small letters; every other character stays. -/
def toLowerAscii (content : Text) : Text :=
  content.map Char.toLower

example : (blankRanges.map fun r => r.2 - r.1 + 1).sum = 25 := by decide

example : trim ['\t', 'a', ' ', 'b', '\u3000'] = ['a', ' ', 'b'] := by decide

end Text

end Graft
