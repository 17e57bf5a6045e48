import SwaggerRequests.Request.Bundle

/-!
# Functions

A `RequestFunction` has everything that the text of one generated function consists of.
`requestFunctions document useHeaders` computes one for each operation of the document, in the order
of `Document.endpoints`. It fails with the error of the first operation that has no bundle.

The functions get distinct names: `requestFunctionsFrom` passes on the names that are taken, and
`fresh` chooses another one if the name that the operation suggests is among them. The order of the
operations therefore decides which of them is numbered.

Before each operation there is an event `Event.generating`, and after its bundle one
`Event.undefinedClass` for every import that the document does not define (`undefinedClasses`).
-/

namespace SwaggerRequests

/-- The values that the text of a request function is made of (`RequestFunction.text`). -/
structure RequestFunction where
  method : Method
  path : String
  name : String
  /-- the text in the comment, from `Operation.doc` -/
  doc : String
  contentType : String
  /-- the fragments of the parameters, from `bundle` -/
  bundle : Bundle
  deriving DecidableEq, Repr

/-- The method and path of an operation for which `bundle` fails, and the error. -/
structure FunctionError where
  method : Method
  path : String
  cause : RequestError
  deriving DecidableEq, Repr

/-- The message names the operation. That of the `RequestError` is not included. -/
def FunctionError.message (e : FunctionError) : String :=
  s!"generating parameters of {e.method.name} {e.path} failed"

/-- The documentation of an operation: its summary and its description, unless they are blank, and
`@deprecated`. -/
def Operation.doc (o : Operation) : String :=
  let texts := [o.summary, o.description].filterMap (·.filter (!Unicode.isBlank ·))
  "\n".intercalate (texts ++ if o.deprecated then ["@deprecated"] else [])

/-- The content type of a request: `multipart/form-data` if the bundle has form data, otherwise the
first in `consumes` of the operation or else of the document, otherwise `application/json`. -/
def contentType (document : Document) (o : Operation) (b : Bundle) : String :=
  if b.hasFormData then "multipart/form-data"
  else ((o.consumes.head?).or document.consumes.head?).getD "application/json"

/-- An `Event.undefinedClass` for each of the `imports` that is not a key of the definitions. -/
def undefinedClasses (document : Document) (e : Endpoint) (imports : List String) : List Event :=
  (imports.filter fun name => (document.definition? name).isNone).map fun name =>
    .undefinedClass e.method.name e.path name

/-- The descriptors of an operation: those of its path and then its own. `bundle` keeps the last of
those with one name, so its own replace those of the path. -/
def Endpoint.descriptors (e : Endpoint) : List Descriptor :=
  e.item.parameters ++ e.operation.parameters

/-- The function of an operation. Its name is `fresh` for the names in `taken`. -/
def requestFunction (document : Document) (useHeaders : Bool) (taken : List String) (e : Endpoint) :
    Logged FunctionError RequestFunction := do
  .report [.generating e.method.name e.path]
  let bundle ← (bundle e.descriptors useHeaders document).mapError (⟨e.method, e.path, ·⟩)
  .report (undefinedClasses document e bundle.imports)
  return {
    method := e.method
    path := e.path
    name := fresh taken (functionName e.method e.path e.operation.id)
    doc := e.operation.doc
    contentType := contentType document e.operation bundle
    bundle }

/-- The functions of several operations. Each name is added to `taken` for the operations behind
it. -/
def requestFunctionsFrom (document : Document) (useHeaders : Bool) (taken : List String) :
    List Endpoint → Logged FunctionError (List RequestFunction)
  | [] => pure []
  | e :: es => do
    let f ← requestFunction document useHeaders taken e
    return f :: (← requestFunctionsFrom document useHeaders (f.name :: taken) es)

/-- The functions of all `Document.endpoints`. -/
def requestFunctions (document : Document) (useHeaders : Bool) :
    Logged FunctionError (List RequestFunction) :=
  requestFunctionsFrom document useHeaders [] document.endpoints

end SwaggerRequests
