import SwaggerRequests.Model.Document
import SwaggerRequests.Naming.Identifier
import SwaggerRequests.Request.Event

/-!
# Descriptors

A document may declare one parameter several times, at the path and at the operation or twice in one
list. This module chooses the descriptors that count, and looks up references.

* `Descriptor.name` is the name by which descriptors are compared. For a reference it is the name
  written next to it or, without one, the class name of the reference.
* `distinctDescriptors` keeps for each name the last descriptor, in the position of the first, and
  leaves out the descriptors of elements of lists, whose name contains `elementMark`
  (`isElementName`). It is an instance of `distinctBy`, over `keptByName`, and reports what it
  leaves out.
* `Document.parameterAt?` and `Document.definitionAt?` look up references in the registries of the
  document.

The names are compared before references are resolved, so two descriptors that are kept can resolve
to parameters with the same name.
-/

namespace SwaggerRequests

/-- The name of a descriptor before it is resolved: that of the parameter, or the name next to the
reference, or else the `className` of the reference. -/
def Descriptor.name : Descriptor → String
  | .inline p => p.name
  | .reference _ (some name) => name
  | .reference target none => className target

/-- `pattern` is a contiguous part of the list. -/
def occursIn (pattern : List Char) : List Char → Bool
  | [] => pattern.isEmpty
  | c :: cs => pattern.isPrefixOf (c :: cs) || occursIn pattern cs

/-- The mark of parameters for the first element of a list, `[0]`. -/
def elementMark : String := "[0]"

/-- The name contains `elementMark`. -/
def isElementName (name : String) : Bool := occursIn elementMark.toList name.toList

/-! ## One descriptor for each name -/

/-- For each name the last of the `xs` with this name, in the position of the first. The `xs` whose
name `isElementName` are left out. -/
def keptByName {α : Type} (name : α → String) (xs : List α) : Entries α :=
  xs.foldl (fun kept x => if isElementName (name x) then kept else kept.put (name x) x) []

/-- The events about a list of names, of which those in `seen` have come before: a descriptor of an
element is dropped, and a repeated name takes the place of an earlier one. -/
def nameEvents (seen : List String) : List String → List Event
  | [] => []
  | name :: names =>
    if isElementName name then .droppedElement name :: nameEvents seen names
    else if seen.contains name then .redeclared name :: nameEvents seen names
    else nameEvents (name :: seen) names

/-- The values of `keptByName`, with the events of `nameEvents`. -/
def distinctBy {α ε : Type} (name : α → String) (xs : List α) : Logged ε (List α) := do
  .report (nameEvents [] (xs.map name))
  return (keptByName name xs).map (·.2)

/-- The descriptors that remain, `distinctBy` their names. -/
def distinctDescriptors {ε : Type} (ds : List Descriptor) : Logged ε (List Descriptor) :=
  distinctBy Descriptor.name ds

/-! ## References -/

/-- The rest of `text` behind `beginning`, if the text begins with it. -/
def behind? (beginning text : String) : Option String :=
  if beginning.toList.isPrefixOf text.toList then
    some (String.ofList (text.toList.drop beginning.toList.length))
  else none

/-- The beginning of the references that `parameterAt?` finds. -/
def parameterRegistry : String := "#/parameters/"

/-- The beginning of the references that `definitionAt?` finds. -/
def definitionRegistry : String := "#/definitions/"

namespace Document

/-- The shared parameter with the key `key`. -/
def parameter? (d : Document) (key : String) : Option Parameter := d.parameters.lookup key

/-- The definition with the key `key`. -/
def definition? (d : Document) (key : String) : Option Schema := d.definitions.lookup key

/-- The shared parameter that `target` refers to. -/
def parameterAt? (d : Document) (target : String) : Option Parameter :=
  (behind? parameterRegistry target).bind d.parameter?

/-- The definition that `target` refers to. -/
def definitionAt? (d : Document) (target : String) : Option Schema :=
  (behind? definitionRegistry target).bind d.definition?

end Document

end SwaggerRequests
