/-!
# Binary numbers of double precision

Numbers of the IEEE 754 format `binary64`, without machine floats: a finite number is a sign, a
significand below `2^53` and an exponent of two (`Binary.finite`), so every function here computes
with integers and reduces in the kernel.

* `Binary.ofDecimal` reads `digits · 10^exponent`, and `Binary.ofFraction` a fraction. Both round to
  the nearest number and, between two that are equally near, to the even significand
  (`roundHalfEven`). What is too large becomes `Binary.infinite`.
* `Binary.same` is the equality of the numbers of a document.

The opposite direction, from a number to its shortest decimal, is `Decimal.shortest`.
-/

namespace SwaggerRequests.Decimal

/-- A number of double precision. `finite negative m e` stands for `±m · 2^e`. -/
inductive Binary where
  | finite (negative : Bool) (significand : Nat) (exponent : Int)
  | infinite (negative : Bool)
  | nan
  deriving DecidableEq, Repr

namespace Binary

/-- The least exponent of two, that of the subnormal numbers. -/
def minExponent : Int := -1074

/-- The greatest exponent of two of a finite number. -/
def maxExponent : Int := 971

/-- `scale base e num den` is the fraction `num / den` times `base^e`, as a numerator and a
denominator. -/
def scale (base : Nat) (e : Int) (num den : Nat) : Nat × Nat :=
  if 0 ≤ e then (num * base.pow e.toNat, den) else (num, den * base.pow (-e).toNat)

/-- The integer nearest to `num / den`; a half goes to the even neighbour. -/
def roundHalfEven (num den : Nat) : Nat :=
  let q := num / den
  let r := num % den
  if den < 2 * r || (2 * r == den && q % 2 == 1) then q + 1 else q

/-- The exponent at which the significand of `num / den` has 53 binary digits, and at least
`minExponent`. -/
def exponentOf (num den : Nat) : Int :=
  let guess : Int := (num.log2 : Int) - den.log2 - 52
  let (n, d) := scale 2 (-guess) num den
  let e := if n / d < 1 <<< 52 then guess - 1 else guess
  max e minExponent

/-- The number nearest to `num / den`, with the sign `negative`. Rounding up to `2^53` moves the
exponent, and an exponent above `maxExponent` makes the number infinite. -/
def ofFraction (negative : Bool) (num den : Nat) : Binary :=
  if num == 0 then .finite negative 0 minExponent else
    let e := exponentOf num den
    let (n, d) := scale 2 (-e) num den
    let m := roundHalfEven n d
    let (m, e) := if m == 1 <<< 53 then (1 <<< 52, e + 1) else (m, e)
    if maxExponent < e then .infinite negative else .finite negative m e

/-- The number nearest to `digits · 10^exponent`. If the first digit is far outside the range, the
result is zero or infinite, and no power of ten is computed. -/
def ofDecimal (negative : Bool) (digits : Nat) (exponent : Int) : Binary :=
  let magnitude : Int := (Nat.toDigits 10 digits).length + exponent
  if digits == 0 || magnitude < -330 then .finite negative 0 minExponent
  else if 310 < magnitude then .infinite negative
  else
    let (num, den) := scale 10 exponent digits 1
    ofFraction negative num den

/-- The number is neither `infinite` nor `nan`. -/
def isFinite : Binary → Bool
  | .finite .. => true
  | _ => false

/-- Equality of numbers, with one zero and with `nan` equal to itself. -/
def same : Binary → Binary → Bool
  | .finite s m e, .finite s' m' e' => (m == 0 && m' == 0) || (s == s' && m == m' && e == e')
  | .infinite s, .infinite s' => s == s'
  | .nan, .nan => true
  | _, _ => false

end Binary

end SwaggerRequests.Decimal
