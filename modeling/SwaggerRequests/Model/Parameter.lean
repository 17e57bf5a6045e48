import SwaggerRequests.Model.Schema
import SwaggerRequests.Reading.FromDatum

/-!
# Parameters

The elements of a parameter list are `Descriptor`s: a `Parameter` that is written out, or a
reference to a shared one. Swagger gives a reference no other field than `$ref`, but documents put a
name next to it, and this name is the one that descriptors are told apart by (`Descriptor.name`).

A parameter is read by `Parameter.read`. It is the only record of the model with required fields:
its name and its location. A descriptor is read twice (`Descriptor.ofDatum?`): as a reference first,
and as a parameter if that fails. If both fail, neither failure is kept, and the descriptor is
refused with `Cause.noVariant`.
-/

namespace SwaggerRequests

open Reading (Shape Source Datum Cause)

/-- The part of a request that carries a parameter, named by its key `in`. -/
inductive Location where
  | path
  | query
  | body
  | header
  | formData
  deriving DecidableEq, Repr

namespace Location

/-- All locations, in the order of the message of `Source.choice`. -/
def all : List Location := [.path, .query, .body, .header, .formData]

/-- The name of a location in a document. -/
def name : Location → String
  | .path => "path"
  | .query => "query"
  | .body => "body"
  | .header => "header"
  | .formData => "formData"

end Location

/-- A parameter as it is written in a document. -/
structure Parameter where
  name : String
  location : Location
  required : Bool
  description : Option String
  /-- the primitive type, if there is neither `schema` nor `items` -/
  type : Option String
  format : Option String
  /-- the type of a body, or of any other parameter that has it -/
  schema : Option Schema
  /-- the items of an array, if there is no `schema` -/
  items : Option Schema
  deriving Repr, BEq

/-- An element of a list of parameters. -/
inductive Descriptor where
  /-- a reference with the key `$ref`, and the name next to it -/
  | reference (target : String) (name : Option String)
  /-- a `Parameter` in the list itself -/
  | inline (parameter : Parameter)
  deriving Repr, BEq

/-! ## Parameters in documents -/

/-- The fields of `Parameter`. -/
inductive ParameterField where
  | name
  | location
  | required
  | description
  | type
  | format
  | schema
  | items
  deriving DecidableEq

namespace ParameterField

/-- The type of the content of each field. -/
def Content : ParameterField → Type
  | .name => String
  | .location => Location
  | .required => Bool
  | .description | .type | .format => Option String
  | .schema | .items => Option Schema

/-- The key of each field in a document. The location is under the key `in`. -/
def label : ParameterField → String
  | .name => "name"
  | .location => "in"
  | .required => "required"
  | .description => "description"
  | .type => "type"
  | .format => "format"
  | .schema => "schema"
  | .items => "items"

end ParameterField

namespace Parameter

/-- The shape of `Parameter`. -/
def shape : Shape where
  name := "Parameter"
  Field := ParameterField
  Content := ParameterField.Content
  fields := [.name, .location, .required, .description, .type, .format, .schema, .items]
  label := ParameterField.label
  omissible f := f == .required

/-- The parameter of a draft. `Draft.require` refuses a parameter without a name or a location. -/
def ofDraft (d : shape.Draft) : Except Cause Parameter := do
  let name ← d.require ParameterField.name
  let location ← d.require ParameterField.location
  return {
    name
    location
    required := Option.getD (d ParameterField.required) false
    description := Option.join (d ParameterField.description)
    type := Option.join (d ParameterField.type)
    format := Option.join (d ParameterField.format)
    schema := Option.join (d ParameterField.schema)
    items := Option.join (d ParameterField.items) }

variable {ν : Type} [Source ν]

/-- Reads a location by its name, as a `Source.choice` among all names. -/
def readLocation (v : ν) : Reading Location := do
  let i ← Source.choice (Location.all.map Location.name) v
  return Location.all.getD i .path

/-- The reader of each field. -/
def readField : (f : ParameterField) → ν → Reading f.Content
  | .name => Source.text
  | .location => readLocation
  | .required => Source.flag
  | .description | .type | .format => Source.optional Source.text
  | .schema | .items => Source.optional Schema.read

/-- Reads `Parameter` from any `Source`. -/
def read : ν → Reading Parameter := Source.record shape readField ofDraft

end Parameter

/-- The fields of a `Descriptor.reference`. -/
inductive ReferenceField where
  | target
  | name
  deriving DecidableEq

/-- The type of the content of each field. -/
def ReferenceField.Content : ReferenceField → Type
  | .target => String
  | .name => Option String

/-- The key of each field in a document. -/
def ReferenceField.label : ReferenceField → String
  | .target => "$ref"
  | .name => "name"

namespace Descriptor

/-- The shape of a reference. -/
def referenceShape : Shape where
  name := "Reference"
  Field := ReferenceField
  Content := ReferenceField.Content
  fields := [.target, .name]
  label := ReferenceField.label
  omissible _ := false

/-- The reader of each field. References are read from a `Datum` only. -/
def readReferenceField : (f : ReferenceField) → Datum → Reading f.Content
  | .target => Datum.readText
  | .name => Datum.readOptional Datum.readText

/-- Reads a reference from a mapping. The field `$ref` is required. -/
def readReference : Datum → Reading Descriptor
  | .mapping entries => do
    let d ← Datum.readFields referenceShape readReferenceField .empty entries
    let target ← .ofExcept (d.require ReferenceField.target)
    return .reference target (Option.join (d ReferenceField.name))
  | d => d.refuse .mapping

/-- The descriptor of a datum: what `readReference` returns or, if it fails, what `Parameter.read`
returns. -/
def ofDatum? (d : Datum) : Option Descriptor :=
  match (readReference d).outcome with
  | .ok r => some r
  | .error _ =>
    match (Parameter.read d).outcome with
    | .ok p => some (.inline p)
    | .error _ => none

/-- Reads `Descriptor` from any `Source`. The whole datum is taken first, so that it can be read
twice. -/
def read {ν : Type} [Source ν] (v : ν) : Reading Descriptor := do
  match ofDatum? (← Source.datum v) with
  | some d => return d
  | none => .refuse (.noVariant "RefOr")

end Descriptor

end SwaggerRequests
