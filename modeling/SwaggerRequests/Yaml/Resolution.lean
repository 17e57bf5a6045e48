import SwaggerRequests.Yaml.Node
import SwaggerRequests.Yaml.Token.Flow
import SwaggerRequests.Reading.Datum

/-!
# Resolution of scalars

`resolveScalar tag style text` is the datum that a scalar means by itself. A plain scalar without a
tag can be null, a boolean, an integer or another number, as its text says (`resolvePlain`); every
other scalar without a tag means its text. The core tags demand one of the four kinds, and a text
that is not of this kind is refused.

The four kinds are recognized by `isNullText`, `boolean?`, `integer?` and `number?`. They are tried
in this order, and a text like `007`, `isPaddedNumber`, is neither an integer nor another number.
-/

namespace SwaggerRequests.Yaml

open SwaggerRequests.Reading (Datum Numeral Cause Found Expected)
open SwaggerRequests.Decimal (Binary)

/-- The texts of null. The empty text is not included. -/
def isNullText (s : String) : Bool := ["~", "null", "Null", "NULL"].contains s

/-- The boolean with the text `s`. -/
def boolean? (s : String) : Option Bool :=
  if ["true", "True", "TRUE"].contains s then some true
  else if ["false", "False", "FALSE"].contains s then some false
  else none

/-! ## Integers -/

/-- The value of one or more digits to the base `base`. -/
def digitsValue? (base : Nat) (cs : List Char) : Option Nat :=
  if cs.isEmpty then none else
    cs.foldlM (fun n c => do
      let d ← hexDigit? c
      if d < base then some (base * n + d) else none) 0

/-- The text is two or more digits with a leading zero, perhaps behind a sign. `resolvePlain` takes
it as a text. -/
def isPaddedNumber (cs : List Char) : Bool :=
  let digits := match cs with
    | '+' :: ds | '-' :: ds => ds
    | ds => ds
  match digits with
  | '0' :: d :: ds => (d :: ds).all Char.isDigit
  | _ => false

/-- The value of digits to the base that their prefix shows. -/
def basedValue? : List Char → Option Nat
  | '0' :: 'x' :: ds => digitsValue? 16 ds
  | '0' :: 'o' :: ds => digitsValue? 8 ds
  | '0' :: 'b' :: ds => digitsValue? 2 ds
  | ds => digitsValue? 10 ds

/-- The integer with the text `s`, in 128 bits. -/
def integer? (s : String) : Option Numeral := do
  let cs := s.toList
  if isPaddedNumber cs then none
  match cs with
  | '-' :: ds =>
    let n ← basedValue? ds
    if n ≤ 1 <<< 127 then some ⟨true, n⟩ else none
  | cs =>
    let n ← basedValue? (if cs.head? == some '+' then cs.drop 1 else cs)
    if n < 1 <<< 128 then some ⟨false, n⟩ else none

/-! ## Other numbers -/

/-- The `Binary` nearest to a decimal, given by its digits before and after the point and its
exponent. -/
def decimal (negative : Bool) (whole fraction : List Char) (exponent : Int) : Binary :=
  let digits := (digitsValue? 10 (whole ++ fraction)).getD 0
  .ofDecimal negative digits (exponent - fraction.length)

/-- The exponent of a decimal behind the letter, with or without a sign. -/
def exponent? : List Char → Option Int
  | '-' :: ds => (digitsValue? 10 ds).map fun n => -n
  | '+' :: ds => (digitsValue? 10 ds).map fun n => n
  | ds => (digitsValue? 10 ds).map fun n => n

/-- The `decimal` with the text `cs`, which has no plus sign. -/
def finite? (cs : List Char) : Option Binary := do
  let (negative, cs) := match cs with
    | '-' :: ds => (true, ds)
    | ds => (false, ds)
  let (whole, rest) := (cs.takeWhile Char.isDigit, cs.dropWhile Char.isDigit)
  let (fraction, rest) := match rest with
    | '.' :: ds => (ds.takeWhile Char.isDigit, ds.dropWhile Char.isDigit)
    | ds => ([], ds)
  if whole.isEmpty && fraction.isEmpty then none
  let exponent ← match rest with
    | [] => some 0
    | 'e' :: ds | 'E' :: ds => exponent? ds
    | _ => none
  let x := decimal negative whole fraction exponent
  if x.isFinite then some x else none

/-- The `Binary` with the text `s`: infinite, not a number, or `finite?`. -/
def number? (s : String) : Option Binary :=
  let cs := match s.toList with
    | '+' :: ds => ds
    | ds => ds
  let signed := match s.toList with
    | '+' :: '+' :: _ | '+' :: '-' :: _ => true
    | _ => false
  if signed then none
  else if [".inf", ".Inf", ".INF"].contains (String.ofList cs) then some (.infinite false)
  else if ["-.inf", "-.Inf", "-.INF"].contains s then some (.infinite true)
  else if [".nan", ".NaN", ".NAN"].contains s then some .nan
  else finite? cs

/-! ## Scalars -/

/-- The datum of a plain scalar: null, a boolean, an integer or a number if its text is one,
otherwise `Datum.text`. -/
def resolvePlain (s : String) : Datum :=
  if s.isEmpty || isNullText s then .null
  else if let some b := boolean? s then .boolean b
  else if let some n := integer? s then .integer n
  else if isPaddedNumber s.toList then .text s
  else if let some x := number? s then .number x
  else .text s

/-- The datum of a scalar by its tag, its style and its text. If the local tag has been read by
itself, it is called without a tag. -/
def resolveScalar (tag : Option Tag) (style : Style) (s : String) : Except Cause Datum :=
  match tag with
  | none => .ok (if style == .plain then resolvePlain s else .text s)
  | some tag =>
    let demand (found : Option Datum) (expected : Expected) : Except Cause Datum :=
      match found with
      | some d => .ok d
      | none => .error (.wrongValue (.text s) expected)
    match tag.core? with
    | some .bool => demand ((boolean? s).map .boolean) .aBoolean
    | some .int => demand ((integer? s).map .integer) .anInteger
    | some .float => demand ((number? s).map .number) .aFloat
    | some .null => demand (if isNullText s then some .null else none) .null
    | none =>
      .ok (if style == .plain && tag.isLocal then resolvePlain s else .text s)

/-- The datum as an error message about a node names it: a null is `Found.unit`, a number
`Found.float`. -/
def foundInDocument : Datum → Found
  | .null => .unit
  | .number x => .float x
  | d => d.found

end SwaggerRequests.Yaml
