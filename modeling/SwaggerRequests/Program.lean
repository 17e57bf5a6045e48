import SwaggerRequests.Generate
import SwaggerRequests.Files.System

/-!
# The program

`generateModule` reads the document that a `Config` names and generates its module, and
`generateFile` also writes the module to a file. Both are over any monad with `Files`. The input is
read and the module generated completely before anything is written, so a failure up to there leaves
all files as they are.

The errors of both are `ProgramError`. `ProgramError.message` has the text that the program prints;
for an error in two layers the inner one is `ProgramError.cause?`.
-/

namespace SwaggerRequests

/-- Why the program fails, with a constructor for each operation that can fail. -/
inductive ProgramError where
  /-- `generateFromText` returns no module -/
  | generation (e : GenerationError)
  /-- the input `path` cannot be opened -/
  | opening (path : String) (e : SystemError)
  /-- the input cannot be read -/
  | reading (e : SystemError)
  /-- the input is not UTF-8 -/
  | notText
  /-- the `directory` of the output cannot be made -/
  | creating (directory : String) (e : SystemError)
  /-- the output `path` cannot be written -/
  | writing (path : String) (e : SystemError)
  deriving DecidableEq, Repr

namespace ProgramError

/-- The error in words. The errors of the `SystemError` are in `cause?`, except for reading. -/
def message : ProgramError → String
  | .generation e => e.message
  | .opening path _ => s!"opening {path} failed"
  | .reading e => e.message
  | .notText => "stream did not contain valid UTF-8"
  | .creating directory _ => s!"creating directory {directory} failed"
  | .writing path _ => s!"writing {path} failed"

/-- The message of the inner error, for the errors whose `message` does not contain it. -/
def cause? : ProgramError → Option String
  | .generation (.request e) => some e.cause.message
  | .opening _ e | .creating _ e | .writing _ e => some e.message
  | _ => none

end ProgramError

/-- The input `path` and the options, with `none` for an option that has its default. -/
structure Config where
  path : String
  useHeaders : Bool
  models : Option String
  runtime : Option String
  deriving DecidableEq, Repr

namespace Config

/-- The configuration for the input `path` with all defaults. -/
def ofPath (path : String) : Config := ⟨path, false, none, none⟩

/-- The `Options` of `generate`, with the values of `Options.default` filled in. -/
def options (c : Config) : Options where
  useHeaders := c.useHeaders
  models := c.models.getD Options.default.models
  runtime := c.runtime.getD Options.default.runtime

end Config

/-- The text whose UTF-8 encoding is `bytes`, or `ProgramError.notText`. -/
def decodeText (bytes : ByteArray) : Except ProgramError String :=
  match String.fromUTF8? bytes with
  | some text => .ok text
  | none => .error .notText

/-- The module for a document in UTF-8, by `decodeText` and `generateFromText`. -/
def generateFromBytes (bytes : ByteArray) (options : Options) : Logged ProgramError String := do
  let text ← .ofExcept (decodeText bytes)
  (generateFromText text options).mapError .generation

section Files

variable {m : Type → Type} [Monad m] [Files m]

/-- The module for the document that `c` names. -/
def generateModule (c : Config) : m (Logged ProgramError String) := do
  match ← Files.read c.path with
  | .error (.opening e) => return .fail (.opening c.path e)
  | .error (.reading e) => return .fail (.reading e)
  | .ok bytes => return generateFromBytes bytes c.options

/-- Writes `text` to the file `output`, after making its directory if it is missing. -/
def store (text output : String) : m (Except ProgramError Unit) := do
  if let some directory := (Path.parent? output).filter (!·.isEmpty) then
    if let .error e ← Files.makeDirectories directory then
      return .error (.creating directory e)
  if let .error e ← Files.write output text.toUTF8 then
    return .error (.writing output e)
  return .ok ()

/-- Writes the module for the document that `c` names to the file `output`. -/
def generateFile (c : Config) (output : String) : m (Logged ProgramError Unit) := do
  let generated ← generateModule c
  match generated.result with
  | .error e => return ⟨generated.log, .error e⟩
  | .ok text =>
    match ← store text output with
    | .error e => return ⟨generated.log, .error e⟩
    | .ok () => return ⟨generated.log ++ [.wrote output], .ok ()⟩

end Files

end SwaggerRequests
