import SwaggerRequests.Decimal.Shortest

/-!
# How numbers are written

The text of a number, from its shortest decimal. `Binary.render form` takes the digits of
`Decimal.shortest`, with the `Tie` of the form, and writes them with a point (`withPoint`) or with
an exponent (`withExponent`), as `Form.positional` says.

The program has three forms. `Form.plain` and `Form.compact` are for the numbers that an error
message mentions, of a node of a document and of a datum. `Form.yaml` is for a version that is
declared as a number; it differs from `Form.compact` in the names of the infinite and undefined
numbers.
-/

namespace SwaggerRequests.Decimal

/-- A form of writing numbers. -/
structure Form where
  /-- whether a number is written without an exponent, by the place of its point counted from the
  first digit -/
  positional : Int → Bool
  /-- which of two equally near shortest decimals is taken -/
  tie : Tie
  /-- the text of an infinite number, without its sign -/
  infinity : String
  /-- the text of an undefined number -/
  undefined : String

/-- Every finite number with a point and without an exponent: `1.5`, `5.0`, `inf`, `NaN`. -/
def Form.plain : Form := ⟨fun _ => true, .up, "inf", "NaN"⟩

/-- A point if it is at most sixteen digits to the right of the first digit, or if at most four
zeros follow it; else an exponent: `2.0`, `1e300`. -/
def Form.compact : Form := ⟨fun point => -5 < point ∧ point ≤ 16, .toEven, "inf", "NaN"⟩

/-- `Form.compact` with the YAML names `.inf` and `.nan`. -/
def Form.yaml : Form := { Form.compact with infinity := ".inf", undefined := ".nan" }

/-- The digits with the point before the digit number `point`, and with zeros where the digits do
not reach the point. There is at least one digit on either side of it. -/
def withPoint (digits : List Char) (point : Int) : List Char :=
  if point ≤ 0 then '0' :: '.' :: List.replicate (-point).toNat '0' ++ digits
  else if digits.length ≤ point then
    digits ++ List.replicate (point.toNat - digits.length) '0' ++ ['.', '0']
  else digits.take point.toNat ++ '.' :: digits.drop point.toNat

/-- The digits with the point behind the first one, if there are more, and the exponent. -/
def withExponent (digits : List Char) (point : Int) : List Char :=
  let mantissa := match digits with
    | [] => []
    | [d] => [d]
    | d :: ds => d :: '.' :: ds
  mantissa ++ 'e' :: (toString (point - 1)).toList

/-- The text of a decimal in the given form; zero is `0.0`. -/
def Digits.render (form : Form) (d : Digits) : String :=
  if d.digits == 0 then "0.0" else
    let digits := Nat.toDigits 10 d.digits
    let point := digits.length + d.exponent
    String.ofList <|
      if form.positional point then withPoint digits point else withExponent digits point

/-- The text of a number in the given form. -/
def Binary.render (form : Form) : Binary → String
  | .finite negative m e => (if negative then "-" else "") ++ (shortest form.tie m e).render form
  | .infinite negative => (if negative then "-" else "") ++ form.infinity
  | .nan => form.undefined

end SwaggerRequests.Decimal
