import SwaggerRequests.Reading.Cause
import SwaggerRequests.Yaml.Text

/-!
# Failures of reading

The monad `Reading` of the functions that read values: it counts the aliases that are followed and
fails with a `Failure`, a `Cause` and the place of the value at fault. The place consists of a
`Mark`, where the value starts in the text, and of the path to it from the root, a list of
`Segment`s.

Readers do not know their place. A failure starts as `Failure.of cause`, without a place
(`Reading.refuse`). The reader of a node wraps its computation in `Reading.claimedAt`, which gives
the mark of the node to a failure that has none, so the innermost node gets it; the reader of a
collection wraps the reading of each value in `Reading.within`, which prepends the step to that
value.

`Failure.message` is the message of the failure as the program prints it.
-/

namespace SwaggerRequests

open Yaml (Mark)

namespace Reading

/-- A step from a collection to a value in it. -/
inductive Segment where
  /-- the value of the entry `name` -/
  | key (name : String)
  /-- an entry of a mapping whose key is not a scalar -/
  | unnamedKey
  /-- the item at `index` -/
  | item (index : Nat)
  deriving DecidableEq, Repr

/-- The path in words, such as `paths./pets[0]`; the empty path has none. -/
def describePath (path : List Segment) : String := path.foldl step ""
where
  /-- Adds a segment to the words for the way so far. -/
  step (words : String) : Segment → String
    | .key name => if words.isEmpty then name else words ++ "." ++ name
    | .unnamedKey => if words.isEmpty then "?" else words ++ ".?"
    | .item index => (if words.isEmpty then "." else words) ++ s!"[{index}]"

/-- A `Cause` with the place of the value at fault. -/
structure Failure where
  /-- why the value cannot be read -/
  cause : Cause
  /-- where the value starts, once it is known -/
  mark : Option Mark
  /-- the steps to the value from the root -/
  path : List Segment
  deriving DecidableEq, Repr

namespace Failure

/-- The failure with the given cause, without a place. -/
def of (cause : Cause) : Failure := ⟨cause, none, []⟩

/-- Gives the mark `m` to a failure without a place. A failure by `Cause.tooManyAliases` never gets
one, since no single value is at fault. -/
def claim (m : Mark) (f : Failure) : Failure :=
  if f.mark.isSome || f.cause == .tooManyAliases then f else { f with mark := some m, path := [] }

/-- Adds the step `s` at the beginning of the path. -/
def under (s : Segment) (f : Failure) : Failure := { f with path := s :: f.path }

/-- A mark in words, with the line and column counted from one. At offset `0` there are none. -/
def describeMark (m : Mark) : String :=
  if m.line == 0 && m.column == 0 then "" else s!" at line {m.line + 1} column {m.column + 1}"

/-- The message of a failure: its path, its cause and its mark. A failure without a mark has no path
either, and of `Cause.tooDeep` only the mark is given. -/
def message (f : Failure) : String :=
  match f.mark with
  | none => f.cause.describe
  | some m =>
    let path := if f.cause == .tooDeep then "" else describePath f.path
    (if path.isEmpty then "" else path ++ ": ") ++ f.cause.describe ++ describeMark m

end Failure

end Reading

/-- A computation that reads values. It may fail with a `Failure`, and its state is the number of
aliases followed. -/
abbrev Reading := StateT Nat (Except Reading.Failure)

namespace Reading

-- an alias, not a declaration: programs that use this library name the monad `Reading.Reading`
export SwaggerRequests (Reading)

/-- Fails with `cause`, without a place. -/
def refuse {α : Type} (cause : Cause) : Reading α := throw (.of cause)

/-- Gives the mark `m` to the failures of `r` that have no place. -/
def claimedAt {α : Type} (m : Mark) (r : Reading α) : Reading α :=
  fun n => (r n).mapError (.claim m)

/-- Prepends the step `s` to the path of the failures of `r`. -/
def within {α : Type} (s : Segment) (r : Reading α) : Reading α :=
  fun n => (r n).mapError (.under s)

/-- The value or the `Failure` of a reading that starts without aliases. -/
def outcome {α : Type} (r : Reading α) : Except Failure α := (r.run 0).map (·.1)

end Reading

end SwaggerRequests
