import SwaggerRequests.Model.Parameter

/-!
# Operations

A `PathItem` is the content of a document under one path: for each `Method` at most one `Operation`,
and the parameters that all its operations share. `PathItem.operations` lists the operations in the
order of `Method.all`, in which functions are generated for them.

Operations and path items are read from any `Source` (`Operation.read`, `PathItem.read`), and
neither has a required field.
-/

namespace SwaggerRequests

open Reading (Shape Source)

/-- The methods for which a `PathItem` can have an operation. -/
inductive Method where
  | get
  | put
  | post
  | delete
  | options
  | head
  | patch
  deriving DecidableEq, Repr

namespace Method

/-- All methods, in the order in which `PathItem.operations` lists them. -/
def all : List Method := [.get, .put, .post, .delete, .options, .head, .patch]

/-- The name of a method in lower case, which is its key in a document. -/
def lowerName : Method → String
  | .get => "get"
  | .put => "put"
  | .post => "post"
  | .delete => "delete"
  | .options => "options"
  | .head => "head"
  | .patch => "patch"

/-- The name of a method in upper case, for messages. -/
def name : Method → String
  | .get => "GET"
  | .put => "PUT"
  | .post => "POST"
  | .delete => "DELETE"
  | .options => "OPTIONS"
  | .head => "HEAD"
  | .patch => "PATCH"

end Method

/-- An operation of a document, as far as it is read. -/
structure Operation where
  /-- the `operationId`, from which `functionName` makes the name of the function -/
  id : Option String
  summary : Option String
  description : Option String
  tags : List String
  consumes : List String
  /-- the descriptors of this operation alone -/
  parameters : List Descriptor
  deprecated : Bool
  deriving Repr, BEq

/-- The operation in which every field has its default. -/
def Operation.empty : Operation := ⟨none, none, none, [], [], [], false⟩

/-- The operations under one path of a document. -/
structure PathItem where
  /-- the operation for each `Method`, if there is one -/
  operation? : Method → Option Operation
  /-- the descriptors that all operations of the path share -/
  parameters : List Descriptor

/-- The path item without operations and parameters. -/
def PathItem.empty : PathItem := ⟨fun _ => none, []⟩

/-- The operations of a path in the order of `Method.all`. -/
def PathItem.operations (item : PathItem) : List (Method × Operation) :=
  Method.all.filterMap fun m => (item.operation? m).map (m, ·)

/-! ## Operations in documents -/

/-- The fields of `Operation`. -/
inductive OperationField where
  | id
  | summary
  | description
  | tags
  | consumes
  | parameters
  | deprecated
  deriving DecidableEq

namespace OperationField

/-- The type of the content of each field. -/
def Content : OperationField → Type
  | .id | .summary | .description => Option String
  | .tags | .consumes => List String
  | .parameters => List Descriptor
  | .deprecated => Bool

/-- The key of each field in a document. -/
def label : OperationField → String
  | .id => "operationId"
  | .summary => "summary"
  | .description => "description"
  | .tags => "tags"
  | .consumes => "consumes"
  | .parameters => "parameters"
  | .deprecated => "deprecated"

end OperationField

namespace Operation

/-- The shape of `Operation`. -/
def shape : Shape where
  name := "Operation"
  Field := OperationField
  Content := OperationField.Content
  fields := [.id, .summary, .description, .tags, .consumes, .parameters, .deprecated]
  label := OperationField.label
  omissible f := f == .tags || f == .consumes || f == .parameters || f == .deprecated

/-- The operation of a draft. Fields that have not been read have the values of
`Operation.empty`. -/
def ofDraft (d : shape.Draft) : Operation where
  id := Option.join (d OperationField.id)
  summary := Option.join (d OperationField.summary)
  description := Option.join (d OperationField.description)
  tags := Option.getD (d OperationField.tags) []
  consumes := Option.getD (d OperationField.consumes) []
  parameters := Option.getD (d OperationField.parameters) []
  deprecated := Option.getD (d OperationField.deprecated) false

variable {ν : Type} [Source ν]

/-- The reader of each field. The parameters are read by `Descriptor.read`. -/
def readField : (f : OperationField) → ν → Reading f.Content
  | .id | .summary | .description => Source.optional Source.text
  | .tags | .consumes => Source.items Source.text
  | .parameters => Source.items Descriptor.read
  | .deprecated => Source.flag

/-- Reads `Operation` from any `Source`. -/
def read : ν → Reading Operation := Source.record shape readField fun d => .ok (ofDraft d)

end Operation

/-- The fields of `PathItem`: one for each `Method`, and the shared descriptors. -/
inductive PathItemField where
  | operation (method : Method)
  | parameters
  deriving DecidableEq

namespace PathItemField

/-- The type of the content of each field. -/
def Content : PathItemField → Type
  | .operation _ => Option Operation
  | .parameters => List Descriptor

/-- The key of each field in a document, `Method.lowerName` for the operations. -/
def label : PathItemField → String
  | .operation method => method.lowerName
  | .parameters => "parameters"

end PathItemField

namespace PathItem

/-- The shape of `PathItem`. -/
def shape : Shape where
  name := "PathItem"
  Field := PathItemField
  Content := PathItemField.Content
  fields := Method.all.map .operation ++ [.parameters]
  label := PathItemField.label
  omissible f := f == .parameters

/-- The path item of a draft. Fields that have not been read have the values of `PathItem.empty`. -/
def ofDraft (d : shape.Draft) : PathItem where
  operation? method := Option.join (d (PathItemField.operation method))
  parameters := Option.getD (d PathItemField.parameters) []

variable {ν : Type} [Source ν]

/-- The reader of each field. -/
def readField : (f : PathItemField) → ν → Reading f.Content
  | .operation _ => Source.optional Operation.read
  | .parameters => Source.items Descriptor.read

/-- Reads `PathItem` from any `Source`. -/
def read : ν → Reading PathItem := Source.record shape readField fun d => .ok (ofDraft d)

end PathItem

end SwaggerRequests
