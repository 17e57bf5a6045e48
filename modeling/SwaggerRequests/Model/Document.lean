import SwaggerRequests.Model.Operation

/-!
# Documents

`Document` has the part of a Swagger document that request functions are generated from: the paths
with their operations, and two registries that operations refer to, the shared parameters and the
definitions of models. `Document.endpoints` lists all operations, each as an `Endpoint` with its
path and method; the functions of the module are in this order.

A document is read by `Document.read`, from any `Source`. It has no required field.
-/

namespace SwaggerRequests

open Reading (Shape Source)

/-- The `info` of a document, as far as it is read. -/
structure Info where
  title : Option String
  description : Option String
  deriving Repr, BEq, DecidableEq

/-- A Swagger document, as far as it is read. -/
structure Document where
  info : Info
  /-- the beginning of all paths, empty if there is none -/
  basePath : Option String
  /-- the content types of the operations whose own `consumes` is empty -/
  consumes : List String
  paths : Entries PathItem
  /-- the models, which references in a `Schema` point to -/
  definitions : Entries Schema
  /-- the shared parameters, which a `Descriptor.reference` points to -/
  parameters : Entries Parameter

/-- The document without paths, definitions and parameters. -/
def Document.empty : Document := ⟨⟨none, none⟩, none, [], [], [], []⟩

/-- An operation with its method, and the path and `PathItem` that it belongs to. -/
structure Endpoint where
  path : String
  method : Method
  item : PathItem
  operation : Operation

/-- The operations of a document, in the order of its paths, and for each path in the order of
`Method.all`. -/
def Document.endpoints (d : Document) : List Endpoint :=
  d.paths.flatMap fun (path, item) =>
    item.operations.map fun (method, operation) => ⟨path, method, item, operation⟩

/-! ## Reading documents -/

/-- The fields of `Info`. -/
inductive InfoField where
  | title
  | description
  deriving DecidableEq

namespace Info

/-- The shape of `Info`. Both fields may be null or missing. -/
def shape : Shape where
  name := "Info"
  Field := InfoField
  Content _ := Option String
  fields := [.title, .description]
  label
    | .title => "title"
    | .description => "description"
  omissible _ := false

/-- The record of a draft. A field that has not been read is `none`. -/
def ofDraft (d : shape.Draft) : Info where
  title := Option.join (d InfoField.title)
  description := Option.join (d InfoField.description)

/-- Reads `Info` from any `Source`. -/
def read {ν : Type} [Source ν] : ν → Reading Info :=
  Source.record shape (fun _ => Source.optional Source.text) fun d => .ok (ofDraft d)

end Info

/-- The fields of `Document`. -/
inductive DocumentField where
  | info
  | basePath
  | consumes
  | paths
  | definitions
  | parameters
  deriving DecidableEq

namespace DocumentField

/-- The type of the content of each field. -/
def Content : DocumentField → Type
  | .info => Info
  | .basePath => Option String
  | .consumes => List String
  | .paths => Entries PathItem
  | .definitions => Entries Schema
  | .parameters => Entries Parameter

/-- The key of each field in a document. -/
def label : DocumentField → String
  | .info => "info"
  | .basePath => "basePath"
  | .consumes => "consumes"
  | .paths => "paths"
  | .definitions => "definitions"
  | .parameters => "parameters"

end DocumentField

namespace Document

/-- The shape of `Document`, whose fields all have defaults. -/
def shape : Shape where
  name := "Document"
  Field := DocumentField
  Content := DocumentField.Content
  fields := [.info, .basePath, .consumes, .paths, .definitions, .parameters]
  label := DocumentField.label
  omissible f := f != .basePath

/-- The document of a draft. Fields that have not been read are empty. -/
def ofDraft (d : shape.Draft) : Document where
  info := Option.getD (d DocumentField.info) ⟨none, none⟩
  basePath := Option.join (d DocumentField.basePath)
  consumes := Option.getD (d DocumentField.consumes) []
  paths := Option.getD (d DocumentField.paths) []
  definitions := Option.getD (d DocumentField.definitions) []
  parameters := Option.getD (d DocumentField.parameters) []

variable {ν : Type} [Source ν]

/-- Reads a map with `read` for its values. `Entries.collect` keeps the last value of a repeated
key. -/
def readMap {α : Type} (read : ν → Reading α) (v : ν) : Reading (Entries α) :=
  Entries.collect <$> Source.entries read v

/-- The reader of each field. -/
def readField : (f : DocumentField) → ν → Reading f.Content
  | .info => Info.read
  | .basePath => Source.optional Source.text
  | .consumes => Source.items Source.text
  | .paths => readMap PathItem.read
  | .definitions => readMap Schema.read
  | .parameters => readMap Parameter.read

/-- Reads `Document` from any `Source`. -/
def read : ν → Reading Document := Source.record shape readField fun d => .ok (ofDraft d)

end Document

end SwaggerRequests
