import SwaggerRequests.Module.Function

/-!
# The module

The text of the generated TypeScript module. `moduleText` writes a `header`, with the imports and
the base path, and then the functions, each as a comment and a body (`RequestFunction.text`).
`generate` is the whole step from a document to the text.

The module imports from two others, which the `Options` name: a runtime that exports `request`,
`getConfigs`, `RequestConfig` and `RequestOptions`, and a module that exports the model classes. The
model classes are those of all functions, each once and in ascending order (`importsOf`).
-/

namespace SwaggerRequests

/-- The options of `generate`. -/
structure Options where
  /-- header parameters are emitted -/
  useHeaders : Bool
  /-- the module that the classes are imported from -/
  models : String
  /-- the module that `request` and the other names of the runtime are imported from -/
  runtime : String
  deriving DecidableEq, Repr

/-- The options if none is given. -/
def Options.default : Options := ⟨false, "./models", "./runtime"⟩

/-! ## Lines -/

/-- The lines of a text, with `line` for what has been read of the first one, in reverse. A line
ends with a line feed, or with a carriage return and a line feed. -/
def linesFrom (line : List Char) : List Char → List (List Char)
  | [] => if line.isEmpty then [] else [line.reverse]
  | '\n' :: cs =>
    let ended := match line with
      | '\r' :: rest => rest
      | line => line
    ended.reverse :: linesFrom [] cs
  | c :: cs => linesFrom (c :: line) cs

/-- The lines of `s`, without their ends. -/
def lines (s : String) : List String := (linesFrom [] s.toList).map String.ofList

/-- The text of the lines `ls`, with a line feed after each. -/
def unlines (ls : List String) : String := String.join (ls.map (· ++ "\n"))

/-! ## Imports -/

/-- Adds `s` to an ascending list, unless the list has it. -/
def insertAscending (s : String) : List String → List String
  | [] => [s]
  | t :: ts => if s < t then s :: t :: ts else if s = t then t :: ts else t :: insertAscending s ts

/-- The members of `ss` in ascending order, without duplicates. -/
def ascending (ss : List String) : List String := ss.foldr insertAscending []

/-- The imports of the bundles of `fs`, in ascending order. -/
def importsOf (fs : List RequestFunction) : List String :=
  ascending (fs.flatMap (·.bundle.imports))

/-! ## The text -/

/-- The lines before the functions: the import of the classes if there are any, the import of the
runtime, and `basePath`. -/
def header (imports : List String) (basePath : String) (options : Options) : List String :=
  ["/* eslint-disable */", "// generated by tsgenitor, do not edit"] ++
  (if imports.isEmpty then [] else
    ["import \x7b " ++ ", ".intercalate imports ++ " \x7d from '" ++ options.models ++ "';"]) ++
  ["import \x7b request, getConfigs, RequestConfig, RequestOptions \x7d from '" ++
      options.runtime ++ "';",
    "",
    "export const basePath = '" ++ basePath ++ "';"]

namespace RequestFunction

/-- The comment before a function, with the lines of `doc` written by `commentText`. -/
def comment (f : RequestFunction) : List String :=
  ["/**"] ++ (lines f.doc).map (" * " ++ commentText ·) ++ [" */"]

/-- The lines that set `configs.data`: to form data if there is any, otherwise to the body if there
is one. -/
def payload (b : Bundle) : List String :=
  if b.hasFormData then
    ["  let data = new FormData();"] ++ (lines b.formData).map ("  " ++ ·) ++
      ["  configs.data = data;"]
  else if b.hasBody then ["  configs.data = " ++ b.body ++ ";"]
  else []

/-- The lines of a function after its `comment`. -/
def body (f : RequestFunction) : List String :=
  let b := f.bundle
  ["export function " ++ f.name ++ "(params: \x7b" ++ b.signature ++
      "\n  \x7d = \x7b\x7d as any, options: RequestOptions = \x7b\x7d): Promise<any> \x7b",
    "  let url = basePath + '" ++ f.path ++ "';"] ++
  (lines b.replacements).map ("  " ++ ·) ++
  ["  const configs: RequestConfig = getConfigs('" ++ f.method.lowerName ++ "', '" ++
      f.contentType ++ "', url, options);"] ++
  (if b.query.isEmpty then [] else
    ["  configs.params = \x7b" ++ ",".intercalate b.query ++ "\x7d;"]) ++
  (if b.headers.isEmpty then [] else
    ["  configs.headers = \x7b...configs.headers, " ++ ",".intercalate b.headers ++ "\x7d;"]) ++
  payload b ++
  ["  return request(configs);", "\x7d"]

/-- The text of a function, its `comment` and its `body`. -/
def text (f : RequestFunction) : String := unlines (f.comment ++ f.body)

end RequestFunction

/-- The text of a module: the `header`, and the text of each function after an empty line. -/
def moduleText (fs : List RequestFunction) (basePath : String) (options : Options) : String :=
  unlines (header (importsOf fs) basePath options) ++ String.join (fs.map ("\n" ++ ·.text))

/-- The module for a document, with the functions that `requestFunctions` returns. -/
def generate (document : Document) (options : Options) : Logged FunctionError String := do
  let fs ← requestFunctions document options.useHeaders
  return moduleText fs (document.basePath.getD "") options

end SwaggerRequests
