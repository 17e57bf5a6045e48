/-!
# Paths

A path is a string in which slashes divide names. This module has the textual part of paths:

* `names`, the names between the slashes, without empty ones;
* `startsAtRoot` and `endsWithSlash`, which decide where a path starts and whether it has to be a
  directory;
* `parent?`, the path without its last name, as the program computes it from the text.

Empty names add nothing to a path, and neither does the name `.`, except at the start: `trimEnd`
removes both from the end of a path. How a path is followed in a file system is in `Files.System`.
-/

namespace SwaggerRequests.Path

/-- The names of a path in their order, without empty ones. `name` is the name that has been
started, with its last character first. -/
def namesFrom (name : List Char) : List Char → List String
  | [] => if name.isEmpty then [] else [String.ofList name.reverse]
  | '/' :: cs =>
    if name.isEmpty then namesFrom [] cs else String.ofList name.reverse :: namesFrom [] cs
  | c :: cs => namesFrom (c :: name) cs

/-- The names of `path` in their order, without empty ones. -/
def names (path : String) : List String := namesFrom [] path.toList

/-- The path starts at the root, with a slash, and not at `Place.home`. -/
def startsAtRoot (path : String) : Bool := path.toList.head? == some '/'

/-- The path ends with a slash. `FileSystem.find` then finds directories only. -/
def endsWithSlash (path : String) : Bool := path.toList.getLast? == some '/'

/-- Removes the slashes and the names `.` at the end of a path, which is given with its last
character first. The slash of the root is kept. -/
def trimEnd : List Char → List Char
  | ['/'] => ['/']
  | '/' :: cs => trimEnd cs
  | '.' :: '/' :: cs => trimEnd ('/' :: cs)
  | cs => cs

/-- The path without its last name. It is `none` for the root and the empty path, and empty for a
single name. -/
def parent? (path : String) : Option String :=
  match trimEnd path.toList.reverse with
  | [] | ['/'] => none
  | cs => some (String.ofList (trimEnd (cs.dropWhile (· != '/'))).reverse)

end SwaggerRequests.Path
