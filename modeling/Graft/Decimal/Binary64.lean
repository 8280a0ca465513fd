/-!
# Double-precision numbers

A double is kept as what it means: its sign, a significand below `2 ^ 53`
and a power of two, or one of the two infinities, or no number at all.
`ofDecimal` takes a decimal number to the nearest double, to the one with
an even significand when two are equally near. All arithmetic is exact, on
natural numbers.
-/

namespace Graft

/-- A double-precision number. A finite one is `significand · 2 ^ exponent`
with its sign. -/
inductive Binary64 where
  | notANumber
  | infinite (negative : Bool)
  | finite (negative : Bool) (significand : Nat) (exponent : Int)
deriving DecidableEq, Repr

/-- The natural number nearest to `numerator / denominator`, the even one of
two that are equally near. -/
def roundHalfEven (numerator denominator : Nat) : Nat :=
  let quotient := numerator / denominator
  let rest := numerator % denominator
  if 2 * rest < denominator then quotient
  else if denominator < 2 * rest then quotient + 1
  else quotient + quotient % 2

/-- `base` to a power, or one where the exponent is negative. So a factor
`base ^ exponent` is `wholePower base exponent / wholePower base (-exponent)`. -/
def wholePower (base : Nat) (exponent : Int) : Nat :=
  Nat.pow base exponent.toNat

namespace Binary64

/-- The number of bits of a full significand. -/
def precision : Nat := 53

/-- One more than the greatest significand. -/
def significandBound : Nat := Nat.pow 2 precision

/-- The least exponent of a double. -/
def minExponent : Int := -1074

/-- The greatest exponent of a finite double. -/
def maxExponent : Int := 971

/-- `numerator / denominator` divided by `2 ^ exponent`, as numerator and
denominator. -/
def unscale (numerator denominator : Nat) (exponent : Int) : Nat × Nat :=
  (numerator * wholePower 2 (-exponent), denominator * wholePower 2 exponent)

/-- The double nearest to the quotient of two positive numbers, infinite
when it lies beyond the greatest one. The exponent is the least with which
the significand stays below `2 ^ 53`. -/
def ofQuotient (negative : Bool) (numerator denominator : Nat) : Binary64 :=
  let guess : Int := (Nat.log2 numerator : Int) - (Nat.log2 denominator : Int) - precision
  let low := max minExponent guess
  let scaledLow := unscale numerator denominator low
  let exponent := if scaledLow.1 / scaledLow.2 < significandBound then low else low + 1
  let scaled := unscale numerator denominator exponent
  let significand := roundHalfEven scaled.1 scaled.2
  let (significand, exponent) :=
    if significand = significandBound then (significandBound / 2, exponent + 1)
    else (significand, exponent)
  if maxExponent < exponent then infinite negative
  else finite negative significand exponent

/-- Beyond this power of ten on either side a decimal number is past every
finite double, or nearer to zero than to any other. -/
def decimalRange : Int := 400

/-- The double nearest to `digits · 10 ^ exponent` with its sign. -/
def ofDecimal (negative : Bool) (digits : Nat) (exponent : Int) : Binary64 :=
  let magnitude := exponent + (Nat.toDigits 10 digits).length
  if digits = 0 ∨ magnitude < -decimalRange then finite negative 0 minExponent
  else if decimalRange < magnitude then infinite negative
  else ofQuotient negative (digits * wholePower 10 exponent) (wholePower 10 (-exponent))

example : ofDecimal false 1 0 = finite false (significandBound / 2) (-52) := by decide +kernel

example : ofDecimal true 5 (-324) = finite true 1 (-1074) := by decide +kernel

example : ofDecimal false 17976931348623159 292 = infinite false := by decide +kernel

end Binary64

end Graft
