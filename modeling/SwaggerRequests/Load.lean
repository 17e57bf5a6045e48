import SwaggerRequests.Version
import SwaggerRequests.Yaml.Node.Grammar

/-!
# Loading

`Document.load` reads a document from its text in three steps: the text is parsed as YAML, of which
JSON is a part (`Yaml.Document.parse?`), the version is read and checked (`VersionDeclaration.read`,
`VersionDeclaration.check`), and the root of the parsed document is read into the model
(`Document.read`).

The order of the steps decides which error is given. A text with an unsupported version is refused
as such, whatever the rest of the document is, and a version that cannot be read is a malformed
text.
-/

namespace SwaggerRequests

open Reading (Failure Spot)

/-- Why `Document.load` refuses a text, with a constructor for each step. -/
inductive LoadError where
  /-- `Yaml.Document.parse?` refuses the text, or its version cannot be read -/
  | malformed
  /-- `VersionDeclaration.check` refuses the version -/
  | undeclared (e : VersionError)
  /-- `Document.read` refuses the root -/
  | unreadable (f : Failure)
  deriving DecidableEq, Repr

/-- The error in words, with the version or the message of the `Failure`. -/
def LoadError.message : LoadError → String
  | .malformed => "input is not a YAML or JSON document"
  | .undeclared .missing => "no Swagger version declaration found in input"
  | .undeclared (.unsupported version) =>
    s!"unsupported document version '{version}', only Swagger 2.0 is supported"
  | .unreadable f => f.message

/-- Loads a document from its text. The version is read from the same `Spot` as the document. -/
def Document.load (text : String) : Except LoadError Document := do
  let some yaml := Yaml.Document.parse? text | .error .malformed
  let root := Spot.root yaml
  let .ok version := (VersionDeclaration.read root).outcome | .error .malformed
  version.check.mapError .undeclared
  (Document.read root).outcome.mapError .unreadable

end SwaggerRequests
