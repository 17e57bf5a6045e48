import SwaggerRequests.Model.Parameter

/-!
# Fragments

A fragment is the text by which the generated function handles one parameter. There is one for each
use: `Fragment.member`, the member of the type of `params`, and then by location `Fragment.entry`
for the query and the headers, `Fragment.replacement` for the path, `Fragment.formData` for form
data, and `Fragment.value` or `Fragment.entry` for the body.

The fragments refer to names that the generated function defines: `params`, from which
`Fragment.value` takes the value of the parameter, `url` and `data`. The name of a parameter is
written between single quotes as it is; only the text of comments is escaped (`commentText`).
-/

namespace SwaggerRequests

/-- Puts a backslash into every `*/` of a text, so that it does not end the comment that it is
written into. -/
def defuse : List Char → List Char
  | '*' :: '/' :: cs => '*' :: '\\' :: '/' :: defuse cs
  | c :: cs => c :: defuse cs
  | [] => []

/-- The text `s` as it is written into a comment. -/
def commentText (s : String) : String := String.ofList (defuse s.toList)

namespace Fragment

/-- The expression for the value of the parameter with the given `binding`. -/
def value (binding : String) : String := "params['" ++ binding ++ "']"

/-- The member of the type of `params` for a parameter, after a comment with its description. Only a
required parameter is a required member. -/
def member (p : Parameter) (binding type : String) : String :=
  "\n    /** " ++ commentText (p.description.getD "") ++ " */\n    " ++ binding ++
    (if p.required then "" else "?") ++ ":" ++ type ++ ","

/-- The entry `'name':value` of an object, from the name of the parameter to its `value`. -/
def entry (p : Parameter) (binding : String) : String := "'" ++ p.name ++ "':" ++ value binding

/-- The statements that append a parameter to `data`; of an array they append every item. -/
def formData (p : Parameter) (binding : String) : String :=
  "if(" ++ value binding ++ ")\x7b\n" ++
  "        if(Object.prototype.toString.call(" ++ value binding ++
    ") === '[object Array]')\x7b\n" ++
  "          for (const item of " ++ value binding ++ ") \x7b\n" ++
  "            data.append('" ++ p.name ++ "',item as any)\n" ++
  "          \x7d\n" ++
  "        \x7d else \x7b\n" ++
  "          data.append('" ++ p.name ++ "'," ++ value binding ++ " as any)\n" ++
  "        \x7d\n" ++
  "      \x7d\n"

/-- The statement that replaces the placeholder of a path parameter in `url`. -/
def replacement (p : Parameter) (binding : String) : String :=
  "url = url.replace('\x7b" ++ p.name ++ "\x7d'," ++ value binding ++ "+'')\n"

end Fragment

end SwaggerRequests
