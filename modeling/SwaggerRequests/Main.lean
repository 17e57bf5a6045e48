import SwaggerRequests.CommandLine

/-!
# The executable

The executable: `CommandLine.run` in the monad `IO`, with the files of the system. The instance
`Files IO` catches the errors of the operations and gives them as values (`refusable`).

This module is the only one with `IO`; everything else of the program is over any monad with
`Files`.
-/

namespace SwaggerRequests

/-- The `SystemError` for an error of the system. -/
def SystemError.ofSystem : IO.Error → SystemError
  | .noFileOrDirectory .. => .notFound
  | .alreadyExists .. => .exists
  | e => .other (toString e)

/-- The operation `x`, with an error as a value. -/
def refusable {α : Type} (x : IO α) : IO (Except SystemError α) := do
  try return .ok (← x)
  catch e => return .error (.ofSystem e)

instance : Files IO where
  read path := do return (← refusable (IO.FS.readBinFile path)).mapError .opening
  makeDirectories path := refusable (IO.FS.createDirAll path)
  write path content := refusable (IO.FS.writeBinFile path content)

end SwaggerRequests

/-- Runs `CommandLine.run` and prints its outcome. -/
def main (arguments : List String) : IO UInt32 := do
  let outcome ← SwaggerRequests.CommandLine.run arguments
  IO.print outcome.output
  if let some complaint := outcome.complaint? then IO.eprintln complaint
  if outcome == .usage then IO.eprintln "usage: see --help"
  return outcome.code
