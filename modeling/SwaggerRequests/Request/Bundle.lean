import SwaggerRequests.Request.Descriptors
import SwaggerRequests.Request.Fragment
import SwaggerRequests.Request.Typing
import SwaggerRequests.Naming.Function

/-!
# Bundles

A `Bundle` has everything that the generated function needs to handle the parameters of one
operation: the members of the type of `params`, and for each location of a parameter the fragments
that send it. `bundle descriptors useHeaders document` computes it in four steps:

* `distinctDescriptors` chooses the descriptors that count;
* `Descriptor.resolve` replaces references by the shared parameters they point to;
* `ambiguityEvents` reports the names that now occur more than once;
* `Emission.addAll` emits the parameters one after the other, that is, types each and adds its
  fragments to an `Emission`.

All references are resolved before a parameter is typed, so an unknown reference is reported before
a parameter without a type. If several parameters belong to the body, `severalBodies`, they are
merged into one object when the emission is finished (`Emission.finish`).
-/

namespace SwaggerRequests

/-- The fragments of the parameters of an operation, by the part of the function that they belong
to. -/
structure Bundle where
  /-- the members of the type of `params` -/
  signature : String
  /-- the statements that append form data, by `Fragment.formData` -/
  formData : String
  /-- the statements that replace placeholders of the path, by `Fragment.replacement` -/
  replacements : String
  /-- the entries of the query, by `Fragment.entry` -/
  query : List String
  /-- the value of the body, or an object of several values -/
  body : String
  /-- the entries of the headers, by `Fragment.entry` -/
  headers : List String
  /-- the classes in the types of the signature, in the order of their first use -/
  imports : List String
  deriving DecidableEq, Repr

namespace Bundle

/-- The bundle without parameters. -/
def empty : Bundle := ⟨"", "", "", [], "", [], []⟩

/-- A parameter is in form data, so `formData` is not empty. -/
def hasFormData (b : Bundle) : Bool := !b.formData.isEmpty

/-- A parameter is in the body, so `body` is not empty. -/
def hasBody (b : Bundle) : Bool := !b.body.isEmpty

end Bundle

/-- The fragments of the parameters emitted so far. Unlike a `Bundle` it has the fragments of the
body one by one. -/
structure Emission where
  signature : String
  formData : String
  replacements : String
  query : List String
  bodies : List String
  headers : List String
  imports : List String

namespace Emission

/-- The emission before the first parameter. -/
def empty : Emission := ⟨"", "", "", [], [], [], []⟩

/-- Adds the fragments of the parameter `p` with the given type. If `merged`, a parameter of the
body is an entry of an object. -/
def add (e : Emission) (merged : Bool) (p : Parameter) (type : String) : Emission :=
  let b := binding p.name
  let e := { e with signature := e.signature ++ Fragment.member p b type }
  match p.location with
  | .formData => { e with formData := e.formData ++ Fragment.formData p b }
  | .path => { e with replacements := e.replacements ++ Fragment.replacement p b }
  | .query => { e with query := e.query ++ [Fragment.entry p b] }
  | .body =>
    { e with bodies := e.bodies ++ [if merged then Fragment.entry p b else Fragment.value b] }
  | .header => { e with headers := e.headers ++ [Fragment.entry p b] }

/-- The bundle of the parameters emitted. If `merged`, the body is an object. -/
def finish (e : Emission) (merged : Bool) : Bundle where
  signature := e.signature
  formData := e.formData
  replacements := e.replacements
  query := e.query
  body :=
    let bodies := ",".intercalate e.bodies
    if merged then "\x7b" ++ bodies ++ "\x7d" else bodies
  headers := e.headers
  imports := e.imports

/-- Emits the parameters one after the other. Without `useHeaders` a header parameter is left out
before it is typed. -/
def addAll (useHeaders merged : Bool) : Emission → List Parameter → Logged RequestError Emission
  | e, [] => pure e
  | e, p :: ps =>
    if !useHeaders && p.location == .header then do
      .report [.skippedHeader p.name]
      addAll useHeaders merged e ps
    else
      match (Typing.parameterType p).run e.imports with
      | .error cause => .fail cause
      | .ok (type, imports) => addAll useHeaders merged ({ e with imports }.add merged p type) ps

end Emission

/-- The parameter itself, or the shared parameter that `Document.parameterAt?` finds for the
reference, or `RequestError.unknownReference`. -/
def Descriptor.resolve (document : Document) : Descriptor → Except RequestError Parameter
  | .inline p => .ok p
  | .reference target _ =>
    match document.parameterAt? target with
    | some p => .ok p
    | none => .error (.unknownReference target)

/-- The events about the names of resolved parameters, of which those in `seen` have come before. -/
def ambiguityEvents (seen : List String) : List String → List Event
  | [] => []
  | name :: names =>
    if seen.contains name then .ambiguous name :: ambiguityEvents seen names
    else ambiguityEvents (name :: seen) names

/-- More than one of the parameters is at `Location.body`. -/
def severalBodies (ps : List Parameter) : Bool := 1 < ps.countP (·.location == .body)

/-- The bundle of a list of descriptors. -/
def bundle (descriptors : List Descriptor) (useHeaders : Bool) (document : Document) :
    Logged RequestError Bundle := do
  let kept ← distinctDescriptors descriptors
  let parameters ← .ofExcept (kept.mapM (Descriptor.resolve document))
  .report (ambiguityEvents [] (parameters.map (·.name)))
  let merged := severalBodies parameters
  let emission ← Emission.addAll useHeaders merged .empty parameters
  return emission.finish merged

end SwaggerRequests
