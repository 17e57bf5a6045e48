import SwaggerRequests.Model.Entries
import SwaggerRequests.Reading.Shape

/-!
# Schemas

`Schema` is the part of a Swagger schema that a type expression is derived from
(`Typing.schemaType`). The items of an array parameter, which Swagger restricts further, are
described by a schema as well.

A schema is read by `Schema.read`, from any `Source`. The recursion into `items` and `properties` is
over the depth of the value (`readWithin`), because the source is an abstract type. Each of the
kinds of records of the model is read in this form: an enumeration of its fields with the type and
the label of each, a `Shape`, a function `ofDraft` and a function `readField`.
-/

namespace SwaggerRequests

open Reading (Shape Source)

/-- A schema. The order of `properties` is the one of the document. -/
structure Schema where
  reference : Option String
  type : Option String
  format : Option String
  items : Option Schema
  properties : List (String × Schema)
  required : List String
  description : Option String
  deriving Repr, BEq, Inhabited

/-- The schema in which every field has its default. -/
def Schema.any : Schema := ⟨none, none, none, none, [], [], none⟩

/-- The fields of `Schema`. -/
inductive SchemaField where
  | reference
  | type
  | format
  | items
  | properties
  | required
  | description
  deriving DecidableEq

namespace SchemaField

/-- The type of the content of each field. -/
def Content : SchemaField → Type
  | .reference | .type | .format | .description => Option String
  | .items => Option Schema
  | .properties => Entries Schema
  | .required => List String

/-- The key of each field in a document. -/
def label : SchemaField → String
  | .reference => "$ref"
  | .type => "type"
  | .format => "format"
  | .items => "items"
  | .properties => "properties"
  | .required => "required"
  | .description => "description"

end SchemaField

namespace Schema

/-- The shape of `Schema`. -/
def shape : Shape where
  name := "Schema"
  Field := SchemaField
  Content := SchemaField.Content
  fields := [.reference, .type, .format, .items, .properties, .required, .description]
  label := SchemaField.label
  omissible f := f == .properties || f == .required

/-- The schema of a draft. Fields that have not been read have the values of `Schema.any`. -/
def ofDraft (d : shape.Draft) : Schema where
  reference := Option.join (d SchemaField.reference)
  type := Option.join (d SchemaField.type)
  format := Option.join (d SchemaField.format)
  items := Option.join (d SchemaField.items)
  properties := Option.getD (d SchemaField.properties) []
  required := Option.getD (d SchemaField.required) []
  description := Option.join (d SchemaField.description)

variable {ν : Type} [Source ν]

/-- The reader of each field, with `inner` for the schemas inside. -/
def readField (inner : ν → Reading Schema) : (f : SchemaField) → ν → Reading f.Content
  | .reference | .type | .format | .description => Source.optional Source.text
  | .items => Source.optional inner
  | .properties => fun v => Entries.collect <$> Source.entries inner v
  | .required => Source.items Source.text

/-- Reads a schema in which schemas are nested less than `n` deep. -/
def readWithin : Nat → ν → Reading Schema
  | 0 => fun _ => .refuse .tooDeep
  | n + 1 => Source.record shape (readField (readWithin n)) fun d => .ok (ofDraft d)

/-- Reads a schema. `Source.depth` bounds how deep schemas are nested in it. -/
def read (v : ν) : Reading Schema := readWithin (Source.depth v + 1) v

end Schema

end SwaggerRequests
