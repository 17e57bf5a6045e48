import SwaggerRequests.Reading.Failure
import SwaggerRequests.Reading.Datum

/-!
# Records

A record is read field by field, in the order in which the value has its fields. `Shape` describes
the fields of a kind of record, and until all of the value is read there is a `Draft`, a function
that gives the contents of the fields met so far. The model then builds the record from the draft
and says which fields it requires (`Draft.require`) and what stands for the others.

`Source` is the class of the types that the model is read from: `Spot`, a node of a document, and
`Datum`. Its operations are the kinds of values that a reader can ask for, so that the reader of a
record, such as `Parameter.read`, is written once for all sources.
-/

namespace SwaggerRequests.Reading

/-- The fields of a kind of record, such as `Schema` or `Parameter`. -/
structure Shape where
  /-- the name of the record in messages -/
  name : String
  /-- the type of the fields -/
  Field : Type
  [decEq : DecidableEq Field]
  /-- the type of the content of each field -/
  Content : Field → Type
  /-- the fields in the order of their declaration -/
  fields : List Field
  /-- the key of each field in a document -/
  label : Field → String
  /-- a list may end before the field, in place of a record (`Datum.readElements`) -/
  omissible : Field → Bool

namespace Shape

instance (S : Shape) : DecidableEq S.Field := S.decEq

/-- The field whose `label` is `name`. -/
def field? (S : Shape) (name : String) : Option S.Field := S.fields.find? (S.label · == name)

/-- The record in the message of `Cause.wrongKind`. -/
def expected (S : Shape) : Expected := .record S.name

/-- The record in the message of `Cause.wrongLength`. -/
def expectedElements (S : Shape) : Expected := .elements S.name S.fields.length

/-- The contents of the fields read so far, `none` for the others. -/
def Draft (S : Shape) : Type := (f : S.Field) → Option (S.Content f)

namespace Draft

variable {S : Shape}

/-- The draft before any field is read. -/
def empty : Draft S := fun _ => none

/-- The draft `d` with the content `c` of the field `f`. -/
def set (d : Draft S) (f : S.Field) (c : S.Content f) : Draft S :=
  fun g => if h : f = g then some (h ▸ c) else d g

/-- The content of the required field `f`, or `Cause.missingField`. -/
def require (d : Draft S) (f : S.Field) : Except Cause (S.Content f) :=
  match d f with
  | some c => .ok c
  | none => .error (.missingField (S.label f))

end Draft

end Shape

/-- A type of values that records are read from: a `Spot` in a YAML document, or a `Datum`. A reader
asks for a kind of content and passes readers for the parts; the source fails if the value is not of
this kind. -/
class Source (ν : Type) where
  /-- a text -/
  text : ν → Reading String
  /-- a boolean -/
  flag : ν → Reading Bool
  /-- the position of a text among `names` -/
  choice : (names : List String) → ν → Reading Nat
  /-- `none` for null, and a value otherwise -/
  optional : {α : Type} → (ν → Reading α) → ν → Reading (Option α)
  /-- a list -/
  items : {α : Type} → (ν → Reading α) → ν → Reading (List α)
  /-- a mapping from texts, in the order of its entries -/
  entries : {α : Type} → (ν → Reading α) → ν → Reading (List (String × α))
  /-- a record of the shape `S`, built from the draft of its fields -/
  record : {α : Type} → (S : Shape) → ((f : S.Field) → ν → Reading (S.Content f)) →
    (S.Draft → Except Cause α) → ν → Reading α
  /-- the whole value as a `Datum`, so that it can be read more than once -/
  datum : ν → Reading Datum
  /-- a bound on the nesting of collections in the value -/
  depth : ν → Nat

/-- The value, or the failure with the cause and without a place. -/
def ofExcept {α : Type} : Except Cause α → Reading α
  | .ok a => pure a
  | .error cause => .refuse cause

end SwaggerRequests.Reading
