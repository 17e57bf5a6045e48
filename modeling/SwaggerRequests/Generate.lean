import SwaggerRequests.Load
import SwaggerRequests.Module.Text

/-!
# From a text to a module

The steps of the program that do not touch files: `generateFromText` loads a document from its text
(`Document.load`) and generates the module for it (`generate`). Its errors are those of the two
steps, as the constructors of `GenerationError`; the events of the second step are kept also if it
fails.
-/

namespace SwaggerRequests

/-- Why `generateFromText` returns no module. -/
inductive GenerationError where
  /-- the text is not a document, an error of `Document.load` -/
  | load (e : LoadError)
  /-- an operation has no function, an error of `generate` -/
  | request (e : FunctionError)
  deriving DecidableEq, Repr

/-- The message of the `LoadError` or `FunctionError`. -/
def GenerationError.message : GenerationError → String
  | .load e => e.message
  | .request e => e.message

/-- The module for the document that `Document.load` reads from the text. -/
def generateFromText (text : String) (options : Options) : Logged GenerationError String := do
  let document ← (Logged.ofExcept (Document.load text)).mapError GenerationError.load
  (generate document options).mapError GenerationError.request

end SwaggerRequests
