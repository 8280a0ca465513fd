import Graft.Error

/-!
# Random suffixes

A suffix is four small letters. They are drawn from a source of random
bytes in blocks of eight. A byte below 234 gives the letter of its
remainder by 26; the bytes from 234 on, which would favour the first
letters, give none. What is left of a block after the fourth letter is
dropped.

A source holds a finite supply and the message with which it fails when
less than a block is left. A failing request takes nothing from it.
-/

namespace Graft

namespace Suffix

/-- How many letters a suffix has. -/
def length : Nat := 4

/-- How many bytes are drawn at once. -/
def blockSize : Nat := 8

/-- Bytes from here on give no letter: the greatest multiple of 26 that a
byte can hold. -/
def acceptBelow : Nat := 234

/-- The letter of a byte, if it gives one. -/
def letter? (b : UInt8) : Option Char :=
  if b.toNat < acceptBelow then some (Char.ofNat ('a'.toNat + b.toNat % 26)) else none

/-- A supply of random bytes, and what is said when it runs out. -/
structure Source where
  bytes : Bytes
  failure : Text
deriving DecidableEq, Repr

/-- Draws blocks until there are enough letters; gives the letters, or
`none` where the supply ran out, and the bytes that are left. -/
def drawFrom (found : Text) (bytes : Bytes) : Option Text × Bytes :=
  if bytes.length < blockSize then (none, bytes)
  else
    let found := found ++ (bytes.take blockSize).filterMap letter?
    let rest := bytes.drop blockSize
    if length ≤ found.length then (some (found.take length), rest) else drawFrom found rest
termination_by bytes.length
decreasing_by simp only [List.length_drop, blockSize] at *; omega

/-- Draws a suffix, and gives it with the source as it is then. -/
def draw (source : Source) : Except Error Text × Source :=
  match drawFrom [] source.bytes with
  | (some suffix, rest) => (.ok suffix, { source with bytes := rest })
  | (none, rest) => (.error (.entropy source.failure), { source with bytes := rest })

/-- The text has as many characters as a suffix. -/
def hasLength (suffix : Text) : Bool :=
  suffix.length = length

/-- The text has small letters only. -/
def isLowercase (suffix : Text) : Bool :=
  suffix.all fun c => 'a' ≤ c && c ≤ 'z'

example : (draw ⟨[255, 0, 234, 25, 240, 26, 233, 51], []⟩).1.toOption = some "azaz".toList := by
  decide +kernel

end Suffix

end Graft
