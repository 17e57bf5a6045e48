import SwaggerRequests.Decimal.Binary

/-!
# The shortest decimal

`shortest tie m e` is the decimal with the fewest digits that `Binary.ofFraction` rounds back to
`m · 2^e`, and among those the one nearest to the number. If two are equally near, `Tie` chooses.

The reals that round to a positive number form an `Interval`. The decimals with the exponent `k`
form a grid with the step `10^k`, and if a point of the grid lies in the interval, so does one of
the two neighbours of the number on this grid. `Interval.gridPoint?` therefore tests these two, and
`Interval.shortestFrom` tries the grids from a coarse one to finer ones until one has a point. The
first grid that has one gives the fewest digits, up to zeros at the end, which `Digits.trim`
removes.

All bounds of an interval are numerators over one denominator, so the module computes with integers
only.
-/

namespace SwaggerRequests.Decimal

/-- Which of two neighbours on a grid stands for a number in the middle between them. -/
inductive Tie where
  /-- the even one -/
  | toEven
  /-- the greater one -/
  | up
  deriving DecidableEq, Repr

/-- In the middle between `below` and `below + 1` steps of the grid, `tie` takes `below`. -/
def Tie.goesDown (tie : Tie) (below : Nat) : Bool := tie == .toEven && below % 2 == 0

/-- The decimal `digits · 10^exponent`. -/
structure Digits where
  digits : Nat
  exponent : Int
  deriving DecidableEq, Repr

/-- The reals that round to a positive number `num / den`: those from `low / den` to `high / den`,
with the two ends if `closed`. -/
structure Interval where
  low : Nat
  num : Nat
  high : Nat
  den : Nat
  closed : Bool

namespace Interval

/-- The interval of `significand · 2^exponent`. At a power of two the numbers below are twice as
dense, so the lower half of the interval is half as wide, except at `Binary.minExponent`. -/
def of (significand : Nat) (exponent : Int) : Interval :=
  let narrow := significand == 1 <<< 52 && Binary.minExponent < exponent
  let (unit, den) := Binary.scale 2 (exponent - 2) 1 1
  { low := (4 * significand - if narrow then 1 else 2) * unit
    num := 4 * significand * unit
    high := (4 * significand + 2) * unit
    den
    closed := significand % 2 == 0 }

/-- The fraction `num / den` lies in the interval. -/
def holds (i : Interval) (num den : Nat) : Bool :=
  let (a, x, b) := (i.low * den, num * i.den, i.high * den)
  if i.closed then a ≤ x && x ≤ b else a < x && x < b

/-- The multiple of `10^exponent` that lies in the interval and is nearest to the number, as the
number of steps, or `none` if the interval has no such multiple. -/
def gridPoint? (tie : Tie) (i : Interval) (exponent : Int) : Option Nat :=
  let (unit, one) := Binary.scale 10 exponent 1 1
  -- the number is `n / d` steps of the grid
  let (n, d) := (i.num * one, i.den * unit)
  let below := n / d
  let holdsPoint (k : Nat) := i.holds (k * unit) one
  match holdsPoint below && below != 0, holdsPoint (below + 1) with
  | true, true =>
    let belowIsNearer := 2 * (n % d) < d || (2 * (n % d) == d && tie.goesDown below)
    some (if belowIsNearer then below else below + 1)
  | true, false => some below
  | false, true => some (below + 1)
  | false, false => none

/-- The power of ten of the first digit of `num / den`, or one less. -/
def magnitude (num den : Nat) : Int :=
  if den ≤ num then (Nat.toDigits 10 (num / den)).length - 1
  else -((Nat.toDigits 10 (den / num)).length : Int)

/-- The point of the first grid that has one, starting at `10^exponent` and going to finer grids.
The last argument bounds the number of grids. -/
def shortestFrom (tie : Tie) (i : Interval) (exponent : Int) : Nat → Digits
  | 0 => ⟨i.num / i.den, 0⟩
  | finer + 1 =>
    match i.gridPoint? tie exponent with
    | some k => ⟨k, exponent⟩
    | none => i.shortestFrom tie (exponent - 1) finer

end Interval

/-- Removes up to the given number of zeros at the end of the digits, and moves `exponent`
accordingly. -/
def Digits.trim (d : Digits) : Nat → Digits
  | 0 => d
  | n + 1 =>
    if d.digits % 10 == 0 && d.digits != 0 then trim ⟨d.digits / 10, d.exponent + 1⟩ n else d

/-- The shortest decimal that rounds to `significand · 2^exponent`. A number of double precision
needs at most eighteen digits, so the twenty grids and twenty zeros are enough. -/
def shortest (tie : Tie) (significand : Nat) (exponent : Int) : Digits :=
  if significand == 0 then ⟨0, 0⟩ else
    let i := Interval.of significand exponent
    (i.shortestFrom tie (Interval.magnitude i.num i.den + 1) 20).trim 20

end SwaggerRequests.Decimal
