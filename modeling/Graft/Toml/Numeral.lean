import Graft.Toml.Quotation

/-!
# Numbers in TOML

An integer is written in decimal, with a sign if it likes, or without one
in hexadecimal, octal or binary after `0x`, `0o` or `0b`; it has 64 bits.
A float has a fraction, an exponent or both, or is `inf` or `nan`. An
underscore may stand between two digits. Only the digits after `0x`, `0o`,
`0b`, a point or an exponent may begin with a zero that is not their only
one.

A decimal float past the greatest finite double on the positive side is no
number; on the negative side it is the negative infinity.
-/

namespace Graft

namespace Toml

/-- Reads the digits that follow a digit, an underscore before one passed
over. -/
def moreDigits (isDigit : Char → Bool) : Text → Text × Text
  | '_' :: c :: rest =>
    if isDigit c then
      let (digits, rest) := moreDigits isDigit rest
      (c :: digits, rest)
    else ([], '_' :: c :: rest)
  | c :: rest =>
    if isDigit c then
      let (digits, rest) := moreDigits isDigit rest
      (c :: digits, rest)
    else ([], c :: rest)
  | [] => ([], [])

/-- Reads digits, at least one. -/
def digits? (isDigit : Char → Bool) : Reader Text
  | c :: rest =>
    if isDigit c then
      let (digits, rest) := moreDigits isDigit rest
      some (c :: digits, rest)
    else none
  | [] => none

/-- Reads decimal digits of which the first is no zero, or a single zero. -/
def wholeDigits? : Reader Text
  | '0' :: rest => some (['0'], rest)
  | content => digits? Char.isDigit content

/-- Passes over a sign; `true` is the negative one. -/
def takeSign : Text → Bool × Text
  | '+' :: rest => (false, rest)
  | '-' :: rest => (true, rest)
  | rest => (false, rest)

/-- The number that decimal digits write. -/
def decimalNumber (digits : Text) : Nat :=
  Nat.ofDigitChars 10 digits 0

/-! ## Integers -/

/-- The bound of the 64-bit integers. -/
def integerBound : Int := 0x8000000000000000

/-- The integer as a node, if it has 64 bits. -/
def integerNode? (value : Int) : Option Node :=
  if -integerBound ≤ value ∧ value < integerBound then some (.integer value) else none

/-- Reads the digits after `0x`, `0o` or `0b`. -/
def radix? (base : Nat) (content : Text) : Option (Node × Text) := do
  let isDigit (c : Char) : Bool := (hexValue? c).any fun d => d < base
  let (digits, rest) ← digits? isDigit content
  let value := digits.foldl (fun n c => base * n + (hexValue? c).getD 0) 0
  let node ← integerNode? value
  some (node, rest)

/-- Reads an integer. -/
def integer? : Reader Node
  | '0' :: 'x' :: rest => radix? 16 rest
  | '0' :: 'o' :: rest => radix? 8 rest
  | '0' :: 'b' :: rest => radix? 2 rest
  | content => do
    let (negative, rest) := takeSign content
    let (digits, rest) ← wholeDigits? rest
    let value : Int := decimalNumber digits
    let node ← integerNode? (if negative then -value else value)
    some (node, rest)

/-! ## Floats -/

/-- Reads a point and the digits after it. -/
def fraction? : Reader Text
  | '.' :: rest => digits? Char.isDigit rest
  | _ => none

/-- Reads an exponent with its letter. -/
def exponent? : Reader Int
  | c :: rest =>
    if c == 'e' || c == 'E' then do
      let (negative, rest) := takeSign rest
      let (digits, rest) ← digits? Char.isDigit rest
      let value : Int := decimalNumber digits
      some (if negative then -value else value, rest)
    else none
  | [] => none

/-- Reads a float written in digits. -/
def decimal? (negative : Bool) (content : Text) : Option (Node × Text) := do
  let (whole, rest) ← wholeDigits? content
  let (fraction, power, rest) ←
    match fraction? rest with
    | some (fraction, rest) =>
      match exponent? rest with
      | some (power, rest) => some (fraction, power, rest)
      | none => some (fraction, 0, rest)
    | none => (exponent? rest).map fun (power, rest) => ([], power, rest)
  let value := Binary64.ofDecimal negative (decimalNumber (whole ++ fraction))
    (power - fraction.length)
  if value = .infinite false then none else some (.float value, rest)

/-- Reads a float. -/
def float? (content : Text) : Option (Node × Text) :=
  let (negative, rest) := takeSign content
  match rest with
  | 'i' :: 'n' :: 'f' :: rest => some (.float (.infinite negative), rest)
  | 'n' :: 'a' :: 'n' :: rest => some (.float .notANumber, rest)
  | rest => decimal? negative rest

/-- Reads a float, or an integer where no float stands. -/
def number? (content : Text) : Option (Node × Text) :=
  (float? content).or (integer? content)

end Toml

end Graft
