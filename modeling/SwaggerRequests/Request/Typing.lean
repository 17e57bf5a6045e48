import SwaggerRequests.Model.Document
import SwaggerRequests.Naming.Identifier

/-!
# Type expressions

`Typing.parameterType p` is the TypeScript type of the parameter `p`. A type that refers to a model
class needs an import, so `Typing` is a state monad over the list of class names, to which each
class is added at its first use (`addImport`). Typing fails with `RequestError.untypable` on a
schema that has none of `items`, `$ref` and `type`.

In a schema, `items` is considered before `reference`, and `reference` before `type`
(`Typing.schemaType`). Only an object with properties is written out (`Typing.memberTypes`), so this
is the only case in which the function is recursive: the items of an array are typed by
`Typing.itemType`, which looks at their reference and type only.
-/

namespace SwaggerRequests

/-- Why `bundle` fails. -/
inductive RequestError where
  /-- `parameterType` has no type for the parameter `parameter` -/
  | untypable (parameter : String)
  /-- `Descriptor.resolve` does not find `target` -/
  | unknownReference (target : String)
  deriving DecidableEq, Repr

/-- The error in words, with the parameter or the reference. -/
def RequestError.message : RequestError → String
  | .untypable parameter => s!"could not find property type on schema of parameter '{parameter}'"
  | .unknownReference target => s!"parameter reference '{target}' not found in document"

/-- The type of a primitive by its type and format. A type that Swagger does not know is returned
unchanged, since it may be the name of a model. -/
def primitiveType (type format : Option String) : String :=
  match type with
  | none | some "" => "any"
  | some "integer" | some "number" => "number"
  | some "boolean" => "boolean"
  | some "string" => if format == some "binary" then "any" else "string"
  | some "file" | some "object" => "any"
  | some "array" => "any[]"
  | some other => other

/-- Adds `name` to the imports, unless it is among them. -/
def addImport (imports : List String) (name : String) : List String :=
  if imports.contains name then imports else imports ++ [name]

/-- A computation of a type. Its state is the list of imports, and its error is
`RequestError.untypable`. -/
abbrev Typing := StateT (List String) (Except RequestError)

namespace Typing

/-- The type of the class that `reference` points to, which is imported. -/
def classType (reference : String) : Typing String := do
  let name := className reference
  modify (addImport · name)
  return name

/-- The type of the items of an array: `classType` or `primitiveType`. It is not nested further. -/
def itemType (items : Schema) : Typing String :=
  match items.reference with
  | some reference => classType reference
  | none => pure (primitiveType items.type items.format)

/-- The member of an object type for a property; it is optional unless `required` has its name. -/
def member (required : List String) (name type : String) : String :=
  "'" ++ name ++ "'" ++ (if required.contains name then "" else "?") ++ ":" ++ type

/-- The object type with the given members, each of the form of `member`. -/
def objectType (members : List String) : String := "\x7b" ++ ";".intercalate members ++ "\x7d"

mutual
/-- The type of a schema of the parameter with the name `parameter`. -/
def schemaType (parameter : String) : Schema → Typing String
  | ⟨reference, type, format, items, properties, required, _⟩ =>
    match items, reference with
    | some items, _ => do
      let item ← itemType items
      return if type == some "array" then item ++ "[]" else item
    | none, some reference => classType reference
    | none, none =>
      match type with
      | none => throw (.untypable parameter)
      | some type =>
        if type == "object" && !properties.isEmpty then do
          return objectType (← memberTypes parameter required properties)
        else pure (primitiveType (some type) format)
/-- The `member` of each property, with its `schemaType`. -/
def memberTypes (parameter : String) (required : List String) :
    List (String × Schema) → Typing (List String)
  | [] => pure []
  | (name, schema) :: properties => do
    let type ← schemaType parameter schema
    return member required name type :: (← memberTypes parameter required properties)
end

/-- The type of a parameter: the `schemaType` of its schema, or an array of the `itemType` of its
items, or the `primitiveType` of its type and format. -/
def parameterType (p : Parameter) : Typing String :=
  match p.schema, p.items with
  | some schema, _ => schemaType p.name schema
  | none, some items => do return (← itemType items) ++ "[]"
  | none, none => pure (primitiveType p.type p.format)

end Typing

end SwaggerRequests
