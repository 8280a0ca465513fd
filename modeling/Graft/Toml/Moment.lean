import Graft.Toml.Character

/-!
# Dates and times in TOML

A moment is a date, a time of day, or a date and a time with an optional
offset from universal time. The reader checks that the day exists in its
month and year and that the time exists, with a sixtieth second for leap
seconds; what the moment is for, it leaves as written.
-/

namespace Graft

namespace Toml

/-- Reads two digits whose number lies between two bounds. -/
def twoDigits? (least greatest : Nat) : Reader Nat
  | a :: b :: rest =>
    let n := Nat.ofDigitChars 10 [a, b] 0
    if a.isDigit && b.isDigit && least ≤ n && n ≤ greatest then some (n, rest) else none
  | _ => none

/-- Reads four digits. -/
def fourDigits? : Reader Nat
  | a :: b :: c :: d :: rest =>
    if [a, b, c, d].all Char.isDigit then some (Nat.ofDigitChars 10 [a, b, c, d] 0, rest)
    else none
  | _ => none

/-- What follows one given character. -/
def skip? (c : Char) : Text → Option Text
  | d :: rest => if c == d then some rest else none
  | [] => none

/-- How many days a month has. -/
def daysInMonth (year month : Nat) : Nat :=
  if month = 2 then
    if year % 4 = 0 ∧ (year % 100 ≠ 0 ∨ year % 400 = 0) then 29 else 28
  else if month = 4 ∨ month = 6 ∨ month = 9 ∨ month = 11 then 30
  else 31

/-- What follows a date, `1979-05-27`. -/
def date? (content : Text) : Option Text := do
  let (year, rest) ← fourDigits? content
  let rest ← skip? '-' rest
  let (month, rest) ← twoDigits? 1 12 rest
  let rest ← skip? '-' rest
  let (_, rest) ← twoDigits? 1 (daysInMonth year month) rest
  some rest

/-- What follows the fraction of a second, if one stands there. -/
def skipFraction (content : Text) : Text :=
  match content with
  | '.' :: c :: rest => if c.isDigit then rest.dropWhile Char.isDigit else content
  | _ => content

/-- What follows a time of day, `07:32:00.5`. -/
def time? (content : Text) : Option Text := do
  let (_, rest) ← twoDigits? 0 23 content
  let rest ← skip? ':' rest
  let (_, rest) ← twoDigits? 0 59 rest
  let rest ← skip? ':' rest
  let (_, rest) ← twoDigits? 0 60 rest
  some (skipFraction rest)

/-- What follows the hours and minutes of an offset. -/
def offset? (content : Text) : Option Text := do
  let (_, rest) ← twoDigits? 0 23 content
  let rest ← skip? ':' rest
  let (_, rest) ← twoDigits? 0 59 rest
  some rest

/-- What follows an offset, if one stands there. -/
def skipOffset (content : Text) : Text :=
  match content with
  | c :: rest =>
    if c == 'Z' || c == 'z' then rest
    else if c == '+' || c == '-' then (offset? rest).getD content
    else content
  | [] => content

/-- What follows a date and what may belong to it: a time, after a `T` or a
space, and an offset. -/
def dateTime? (content : Text) : Option Text := do
  let rest ← date? content
  match rest with
  | c :: more =>
    if c == 'T' || c == 't' || c == ' ' then some (((time? more).map skipOffset).getD rest)
    else some rest
  | [] => some rest

/-- Reads a moment. -/
def moment? (content : Text) : Option (Node × Text) := do
  let rest ← (dateTime? content).or (time? content)
  some (.moment (content.take (content.length - rest.length)), rest)

end Toml

end Graft
