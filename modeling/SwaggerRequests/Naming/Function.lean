import SwaggerRequests.Naming.Identifier
import SwaggerRequests.Naming.CamelCase
import SwaggerRequests.Unicode.WhiteSpace
import SwaggerRequests.Model.Operation

/-!
# Names of functions and bindings

Two kinds of names that the generated module derives from a document:

* `binding name`, the property of `params` that a parameter is bound to;
* `functionName method path id`, the name that an operation suggests for its function, derived from
  its operation id or, if it has none, from its path and method.

Both are in `camelCase`. Two operations can suggest the same name, and then `fresh` gives the later
one a number: it searches `numbered name 0`, `numbered name 1`, … for the first name that is not
taken. As many tries as there are taken names are enough, since the numbered names differ from each
other.
-/

namespace SwaggerRequests

/-- The property of `params` that the parameter with this name is bound to. -/
def binding (name : String) : String := String.ofList (avoidLeadingDigit (camelCase name.toList))

/-- The name that an operation suggests for its function. An `id` that is blank counts as absent. -/
def functionName (method : Method) (path : String) (id : Option String) : String :=
  let words := match id.filter (!Unicode.isBlank ·) with
    | some id => id.toList
    | none => replaceRuns ' ' false path.toList ++ ' ' :: method.lowerName.toList
  String.ofList (avoidLeadingDigit (camelCase words))

/-- `name` with the number `n` at its end; the number zero is not written. -/
def numbered (name : String) : Nat → String
  | 0 => name
  | n + 1 => name ++ toString (n + 1)

/-- The first of the names `numbered name n`, `numbered name (n + 1)`, … that is not in `taken`.
Only `tries` of them are tested, and the next one is returned untested. -/
def freshFrom (taken : List String) (name : String) (n : Nat) : (tries : Nat) → String
  | 0 => numbered name n
  | tries + 1 =>
    if taken.contains (numbered name n) then freshFrom taken name (n + 1) tries else numbered name n

/-- `name` if it is not in `taken`, else `name` with the least number for which it is not. -/
def fresh (taken : List String) (name : String) : String := freshFrom taken name 0 taken.length

end SwaggerRequests
