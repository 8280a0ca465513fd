import Graft.Decimal.Binary64

/-!
# The shortest decimal form of a double

Of all decimal numbers that round to a double, those with the fewest
digits are the shortest, and of these the nearest to the double is chosen,
the one farther from zero when two are equally near. A grid of decimals
`d · 10 ^ k` comes the nearer to a double the smaller `k` is, so the
search goes down from the coarsest grid to the first on which one of the
double's two neighbours rounds to it.

`Binary64.text` writes that number without an exponent, with a point and
at least one digit on each side of it.
-/

namespace Graft

namespace Binary64

/-- The decimals that round to a finite double other than zero lie between
`low` and `high`, and `value` is the double itself, all three over the one
denominator `scale`. The two ends belong to it when `closed` holds, as
they do for an even significand. -/
structure Interval where
  low : Nat
  value : Nat
  high : Nat
  scale : Nat
  closed : Bool

/-- The interval of the double `significand · 2 ^ exponent`, in quarters of
`2 ^ exponent`. Below a power of two the doubles lie twice as close. -/
def interval (significand : Nat) (exponent : Int) : Interval :=
  let unit := wholePower 2 (exponent - 2)
  let below := if significand = significandBound / 2 ∧ minExponent < exponent then 1 else 2
  { low := (4 * significand - below) * unit
    value := 4 * significand * unit
    high := (4 * significand + 2) * unit
    scale := wholePower 2 (2 - exponent)
    closed := significand % 2 = 0 }

/-- `digits · 10 ^ power` rounds to the double. -/
def Interval.admits (i : Interval) (digits : Nat) (power : Int) : Bool :=
  let point := digits * wholePower 10 power * i.scale
  let unit := wholePower 10 (-power)
  if i.closed then i.low * unit ≤ point && point ≤ i.high * unit
  else i.low * unit < point && point < i.high * unit

/-- The neighbour of the double on the grid of multiples of `10 ^ power`
that rounds to it, the nearer one if both do. -/
def Interval.onGrid? (i : Interval) (power : Int) : Option Nat :=
  let numerator := i.value * wholePower 10 (-power)
  let denominator := i.scale * wholePower 10 power
  let down := numerator / denominator
  match i.admits down power, i.admits (down + 1) power with
  | true, true => if 2 * (numerator % denominator) < denominator then some down else some (down + 1)
  | true, false => some down
  | false, true => some (down + 1)
  | false, false => none

/-- The power of ten with which the search begins, above every double. -/
def coarsestPower : Int := 309

/-- How many grids there are from the coarsest to one on which every
double lies. -/
def gridCount : Nat := 1400

/-- The shortest decimal that rounds to the double: its digits as a number,
and their power of ten. -/
def Interval.shortest (i : Interval) : Nat × Int :=
  ((List.range gridCount).findSome? fun (step : Nat) =>
    let power := coarsestPower - (step : Int)
    (i.onGrid? power).map fun digits => (digits, power)).getD (0, 0)

/-- The digits of `digits · 10 ^ power` around a point, with at least one on
each side. -/
def positional (digits : Nat) (power : Int) : List Char :=
  if 0 ≤ power then Nat.toDigits 10 digits ++ List.replicate power.toNat '0' ++ ['.', '0']
  else
    let places := (-power).toNat
    let unit := Nat.pow 10 places
    let fraction := Nat.toDigits 10 (digits % unit)
    Nat.toDigits 10 (digits / unit) ++
      '.' :: List.replicate (places - fraction.length) '0' ++ fraction

/-- A double as text. -/
def text : Binary64 → List Char
  | notANumber => ['N', 'a', 'N']
  | infinite negative => (if negative then ['-'] else []) ++ ['i', 'n', 'f']
  | finite negative significand exponent =>
    (if negative then ['-'] else []) ++
      if significand = 0 then ['0', '.', '0']
      else
        let (digits, power) := (interval significand exponent).shortest
        positional digits power

example : (ofDecimal false 1 (-1)).text = "0.1".toList := by decide +kernel

example : (ofDecimal true 4200 (-1)).text = "-420.0".toList := by decide +kernel

example : (ofDecimal false 123456789125 (-3)).text = "123456789.125".toList := by decide +kernel

end Binary64

end Graft
