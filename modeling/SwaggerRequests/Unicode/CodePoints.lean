/-!
# Sets of code points

The properties of the Unicode Character Database are written as ascending lists of ranges. This
module defines the two shapes of list and the membership test of each:

* `Ranges`, a list of closed ranges, with `Ranges.holds`;
* `Strides`, a list of closed ranges walked in steps, with `Strides.holds`.

The lists themselves are data of the properties: `whiteSpaceRanges`, `alphanumericRanges`,
`decimalDigitRanges`, `lowercaseStrides` and so on, each in the module of its property. All of them
start above ASCII. A property decides the code points below 128 by an explicit test and looks into
its list for the others only.
-/

namespace SwaggerRequests.Unicode

/-- A list of closed ranges `(first, last)` of code points, in ascending order. -/
abbrev Ranges := List (Nat × Nat)

/-- `rs.holds n`: some range `(first, last)` of `rs` has `first ≤ n ≤ last`. -/
def Ranges.holds (rs : Ranges) (n : Nat) : Bool :=
  rs.any fun (first, last) => first ≤ n && n ≤ last

/-- A list of closed ranges walked in steps, `(first, last, step)`. In scripts that alternate
capital and small letters `step` is two. -/
abbrev Strides := List (Nat × Nat × Nat)

/-- `rs.holds n`: some `(first, last, step)` of `rs` has `first ≤ n ≤ last`, and `n - first` is a
multiple of `step`. -/
def Strides.holds (rs : Strides) (n : Nat) : Bool :=
  rs.any fun (first, last, step) => first ≤ n && n ≤ last && (n - first) % step == 0

end SwaggerRequests.Unicode
