import SwaggerRequests.Model.Document
import SwaggerRequests.Reading.FromNode
import SwaggerRequests.Unicode.WhiteSpace
import SwaggerRequests.Unicode.DecimalDigit

/-!
# The version of a document

Before a document is read it has to declare itself as Swagger 2.0. A `VersionDeclaration` has the
contents of the fields `swagger` and `openapi`, read from the root of the document by
`VersionDeclaration.read`. A version is a text or a number; values of another kind count as absent.

`VersionDeclaration.check` accepts the declaration if `swagger` is a supported version
(`isSupported`), whatever `openapi` declares. Without `swagger` the declaration is refused, as
unsupported if there is `openapi` and as missing if there is neither.
-/

namespace SwaggerRequests

open Reading (Datum Shape Spot)

/-- The versions that a document declares, in `swagger` and `openapi`. -/
structure VersionDeclaration where
  /-- the content of the field `swagger` -/
  swagger : Option String
  /-- the content of the field `openapi` -/
  openapi : Option String
  deriving DecidableEq, Repr

/-- Why `check` refuses a declaration. -/
inductive VersionError where
  | missing
  | unsupported (version : String)
  deriving DecidableEq, Repr

namespace VersionDeclaration

/-- What may follow `2.0`: an optional point with one or more digits, and then white space. -/
def isRevision : List Char → Bool
  | '.' :: cs =>
    let rest := cs.dropWhile Unicode.isDecimalDigit
    rest.length < cs.length && rest.all Unicode.isWhiteSpace
  | cs => cs.all Unicode.isWhiteSpace

/-- The supported versions: `2.0`, or `2.0` with a revision, with white space around it. -/
def isSupported (version : String) : Bool :=
  match version.toList.dropWhile Unicode.isWhiteSpace with
  | '2' :: '.' :: '0' :: cs => isRevision cs
  | _ => false

/-- Accepts a declaration whose Swagger version `isSupported`. -/
def check (v : VersionDeclaration) : Except VersionError Unit :=
  match v.swagger, v.openapi with
  | some version, _ => if isSupported version then .ok () else .error (.unsupported version)
  | none, some version => .error (.unsupported version)
  | none, none => .error .missing

/-! ## Reading the declaration -/

/-- The version that a datum declares: a text as it is, a number in `Decimal.Form.yaml`. -/
def ofDatum? : Datum → Option String
  | .text s => some s
  | .integer n => some (toString n.value)
  | .number x => some (x.render .yaml)
  | _ => none

/-- The version that `ofDatum?` finds at a node. -/
def readVersion (s : Spot) : Reading (Option String) := do
  let d ← Spot.readOptional (Spot.readDatum .value (s.depth + 1)) s
  return d.bind ofDatum?

/-- The fields of `VersionDeclaration`. -/
inductive Field where
  | swagger
  | openapi
  deriving DecidableEq

/-- The shape of `VersionDeclaration`. Both fields may be missing. -/
def shape : Shape where
  name := "VersionDeclaration"
  Field := Field
  Content _ := Option String
  fields := [.swagger, .openapi]
  label
    | .swagger => "swagger"
    | .openapi => "openapi"
  omissible _ := true

/-- The declaration of a draft. Fields that have not been read are `none`. -/
def ofDraft (d : shape.Draft) : VersionDeclaration where
  swagger := Option.join (d Field.swagger)
  openapi := Option.join (d Field.openapi)

/-- Reads the declaration at the root of a document, and ignores its other keys. -/
def read : Spot → Reading VersionDeclaration :=
  Spot.readRecord shape (fun _ => readVersion) fun d => .ok (ofDraft d)

end VersionDeclaration

end SwaggerRequests
