import SwaggerRequests.Decimal.Notation
import SwaggerRequests.Text.Quoted

/-!
# Causes of failures

A `Cause` says why a value cannot be read into the model, without saying where the value is: that is
added by `Failure`. Most causes consist of what was `Found` and what was `Expected`.

Each of the three types has a function `describe` into words, and the words of a cause are the error
message of the program up to the place. A value of a node and one of a datum are described
differently in two cases, so `Found` has two constructors for each: `Found.unit` and `Found.null`,
`Found.float` and `Found.number`.
-/

namespace SwaggerRequests.Reading

/-- What was found where a value of another kind was expected. -/
inductive Found where
  /-- null, in a `Yaml.Node` -/
  | unit
  /-- null, in a `Datum` -/
  | null
  | boolean (b : Bool)
  | integer (i : Int)
  /-- a number, in a `Yaml.Node` -/
  | float (x : Decimal.Binary)
  /-- a number, in a `Datum` -/
  | number (x : Decimal.Binary)
  | text (s : String)
  | sequence
  | mapping
  deriving DecidableEq, Repr

/-- The found value in words. Integers outside of 64 bits are described with their type, `u128` or
`i128`. -/
def Found.describe : Found → String
  | .unit => "unit value"
  | .null => "null"
  | .boolean b => s!"boolean \x60{b}\x60"
  | .integer i =>
    if (1 <<< 64 : Nat) ≤ i then s!"integer \x60{i}\x60 as u128"
    else if i < -(1 <<< 63 : Nat) then s!"integer \x60{i}\x60 as i128"
    else s!"integer \x60{i}\x60"
  | .float x => s!"floating point \x60{x.render .plain}\x60"
  | .number x => s!"floating point \x60{x.render .compact}\x60"
  | .text s => "string " ++ Text.quoted s
  | .sequence => "sequence"
  | .mapping => "map"

/-- What was expected, as part of a `Cause`. -/
inductive Expected where
  | string
  | boolean
  | sequence
  | mapping
  | record (name : String)
  | fieldName
  | anyValue
  | unit
  | null
  | aBoolean
  | anInteger
  | aFloat
  | tag
  | stringOrMapping
  | singleEntry
  | fewerElements
  | elements (name : String) (count : Nat)
  deriving DecidableEq, Repr

/-- The expected value in words. -/
def Expected.describe : Expected → String
  | .string => "a string"
  | .boolean | .aBoolean => "a boolean"
  | .sequence => "a sequence"
  | .mapping => "a map"
  | .record name => s!"struct {name}"
  | .fieldName => "field identifier"
  | .anyValue => "any value"
  | .unit => "unit"
  | .null => "null"
  | .anInteger => "an integer"
  | .aFloat => "a float"
  | .tag => "a YAML tag starting with '!'"
  | .stringOrMapping => "string or map"
  | .singleEntry => "map with a single key"
  | .fewerElements => "fewer elements in array"
  | .elements name count =>
    s!"struct {name} with {count} element" ++ if count == 1 then "" else "s"

/-- Why a value cannot be read. A `Failure` adds the place of the value to it. -/
inductive Cause where
  /-- the value is of another kind -/
  | wrongKind (found : Found) (expected : Expected)
  /-- the value is of the right kind, but its content does not fit -/
  | wrongValue (found : Found) (expected : Expected)
  /-- a list has another number of items than the `Shape` has fields -/
  | wrongLength (length : Nat) (expected : Expected)
  | missingField (name : String)
  | duplicateField (name : String)
  | unknownOption (name : String) (options : List String)
  /-- `Descriptor.read` finds neither a reference nor a parameter -/
  | noVariant (name : String)
  /-- a datum that `Descriptor.read` asks for has a local tag -/
  | localTag
  /-- collections are nested deeper than `Spot.maxDepth` -/
  | tooDeep
  /-- `Spot.follow` has followed more aliases than the limit allows -/
  | tooManyAliases
  /-- two entries of a mapping have equal keys -/
  | duplicateEntry
  deriving DecidableEq, Repr

/-- The names in grave accents, with commas between them. -/
def accented (names : List String) : String :=
  ", ".intercalate (names.map fun n => s!"\x60{n}\x60")

/-- The cause in words, without the place. -/
def Cause.describe : Cause → String
  | .wrongKind found expected => s!"invalid type: {found.describe}, expected {expected.describe}"
  | .wrongValue found expected => s!"invalid value: {found.describe}, expected {expected.describe}"
  | .wrongLength length expected => s!"invalid length {length}, expected {expected.describe}"
  | .missingField name => s!"missing field \x60{name}\x60"
  | .duplicateField name => s!"duplicate field \x60{name}\x60"
  | .unknownOption name options =>
    s!"unknown variant \x60{name}\x60, expected one of {accented options}"
  | .noVariant name => s!"data did not match any variant of untagged enum {name}"
  | .localTag => "untagged and internally tagged enums do not support enum input"
  | .tooDeep => "recursion limit exceeded"
  | .tooManyAliases => "repetition limit exceeded"
  | .duplicateEntry => "duplicate entry"

end SwaggerRequests.Reading
