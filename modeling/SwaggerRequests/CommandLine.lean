import SwaggerRequests.Program

/-!
# The command line

`CommandLine.run` is the program from its arguments to its `Outcome`. It takes one input, and
options in any order before and after it.

`parse` reads the arguments from left to right (`takeAll`). Each has one of four shapes
(`Shape.of`): a long option, a cluster of short ones, the escape `--`, after which all arguments are
inputs, or a plain value. The value of an option follows an equals sign, is the rest of its cluster
(`takeShort`), or is the next argument, which then has to be plain. The first argument that asks for
help or is not understood decides the outcome (`Refusal`).

With an output the module is written to it by `generateFile`; without one it is printed.
-/

namespace SwaggerRequests.CommandLine

/-- The options that take a value: `--output` or `-o`, `--models-module` and `--runtime-module`. -/
inductive Setting where
  | output
  | models
  | runtime
  deriving DecidableEq, Repr

namespace Setting

/-- The setting whose long option is `--` followed by the given name. -/
def ofName? : String → Option Setting
  | "output" => some .output
  | "models-module" => some .models
  | "runtime-module" => some .runtime
  | _ => none

end Setting

/-- The content of the arguments taken so far, with `none` for what has not been given. -/
structure Arguments where
  input : Option String
  output : Option String
  useHeaders : Bool
  models : Option String
  runtime : Option String
  deriving DecidableEq, Repr

namespace Arguments

/-- The content of no arguments. -/
def none : Arguments := ⟨.none, .none, false, .none, .none⟩

/-- The value of the setting in `a`, if it has been given. -/
def get (a : Arguments) : Setting → Option String
  | .output => a.output
  | .models => a.models
  | .runtime => a.runtime

/-- `a` with `value` for the setting `s`. -/
def set (a : Arguments) (s : Setting) (value : String) : Arguments :=
  match s with
  | .output => { a with output := some value }
  | .models => { a with models := some value }
  | .runtime => { a with runtime := some value }

/-- The `Config` of the arguments for the given input. The output is not a part of it. -/
def config (a : Arguments) (input : String) : Config := ⟨input, a.useHeaders, a.models, a.runtime⟩

end Arguments

/-- Why the arguments are not carried out, as an error of `parse`. -/
inductive Refusal where
  /-- `--help` or `-h` asks for the text `help` -/
  | help
  /-- the arguments are not understood -/
  | usage
  deriving DecidableEq, Repr

/-- Sets the value of `s`, and refuses a second value. The name of the output must not be empty. -/
def Arguments.give (a : Arguments) (s : Setting) (value : String) : Except Refusal Arguments :=
  if (a.get s).isSome || (s == .output && value.isEmpty) then .error .usage
  else .ok (a.set s value)

/-- Sets the input, and refuses a second or an empty one. -/
def Arguments.take (a : Arguments) (value : String) : Except Refusal Arguments :=
  if a.input.isSome || value.isEmpty then .error .usage else .ok { a with input := some value }

/-- Takes `--header-parameters`, and refuses it the second time. -/
def Arguments.withHeaders (a : Arguments) : Except Refusal Arguments :=
  if a.useHeaders then .error .usage else .ok { a with useHeaders := true }

/-- The shapes of an argument. -/
inductive Shape where
  /-- `--`, after which all arguments are inputs -/
  | escape
  /-- `--name` or `--name=value` -/
  | long (name : String) (value : Option String)
  /-- a hyphen followed by letters, such as `-o` -/
  | short (letters : List Char)
  /-- an input or the value of a `Setting` -/
  | plain
  deriving DecidableEq, Repr

/-- The shape of an argument. A single hyphen is `plain`. -/
def Shape.of (argument : String) : Shape :=
  match argument.toList with
  | ['-', '-'] => .escape
  | '-' :: '-' :: cs =>
    let name := String.ofList (cs.takeWhile (· != '='))
    match cs.dropWhile (· != '=') with
    | _ :: value => .long name (some (String.ofList value))
    | [] => .long name none
  | ['-'] => .plain
  | '-' :: cs => .short cs
  | _ => .plain

/-- The content of the arguments so far, and the `Setting` whose value is the next argument. -/
abbrev Progress := Arguments × Option Setting

/-- Takes the option `--name` with or without a value. A `Setting` without one waits for the next
argument. -/
def takeLong (a : Arguments) (name : String) (value : Option String) : Except Refusal Progress :=
  match name, value with
  | "help", none => .error .help
  | "header-parameters", none => return (← a.withHeaders, none)
  | name, value =>
    match Setting.ofName? name, value with
    | some s, some value => return (← a.give s value, none)
    | some s, none => .ok (a, some s)
    | none, _ => .error .usage

/-- Takes a cluster of letters. Everything behind the letter `o` is the name of the output. -/
def takeShort (a : Arguments) : List Char → Except Refusal Progress
  | 'h' :: _ => .error .help
  | ['o'] => .ok (a, some .output)
  | 'o' :: '=' :: value => return (← a.give .output (String.ofList value), none)
  | 'o' :: value => return (← a.give .output (String.ofList value), none)
  | _ => .error .usage

/-- Takes the arguments one after the other. The setting `waiting` gets its value from a plain
argument only, and after the escape every argument is plain. -/
def takeAll (a : Arguments) (waiting : Option Setting) (escaped : Bool) :
    List String → Except Refusal Arguments
  | [] => if waiting.isSome then .error .usage else .ok a
  | argument :: arguments =>
    match waiting, if escaped then Shape.plain else Shape.of argument with
    | some s, .plain => do takeAll (← a.give s argument) none false arguments
    | some _, _ => .error .usage
    | none, .plain => do takeAll (← a.take argument) none escaped arguments
    | none, .escape => takeAll a none true arguments
    | none, .long name value => do
      let (a, waiting) ← takeLong a name value
      takeAll a waiting false arguments
    | none, .short letters => do
      let (a, waiting) ← takeShort a letters
      takeAll a waiting false arguments

/-- The content of the arguments, from `takeAll`, and the input, which is required. -/
def parse (arguments : List String) : Except Refusal (Arguments × String) := do
  let a ← takeAll .none none false arguments
  match a.input with
  | some input => .ok (a, input)
  | none => .error .usage

/-- The text that is printed when help is asked for. -/
def help : String := unlines [
  "Generates TypeScript request functions from a Swagger 2.0 document",
  "",
  "Usage: tsgenitor [OPTIONS] <INPUT>",
  "",
  "Arguments:",
  "  <INPUT>  Swagger 2.0 document (YAML or JSON)",
  "",
  "Options:",
  "  -o, --output <OUTPUT>",
  "          Output file, the module is written to stdout if omitted",
  "      --header-parameters",
  "          Include \x60in: header\x60 parameters in the generated requests",
  "      --models-module <MODELS_MODULE>",
  "          Module the model classes are imported from [default: ./models]",
  "      --runtime-module <RUNTIME_MODULE>",
  "          Module providing the request runtime [default: ./runtime]",
  "  -h, --help",
  "          Print help"]

/-- How the program ends, as the value of `run`. -/
inductive Outcome where
  /-- the text was printed -/
  | printed (text : String)
  /-- `generateModule` or `generateFile` failed -/
  | failed (e : ProgramError)
  /-- the arguments are not understood -/
  | usage
  deriving DecidableEq, Repr

namespace Outcome

/-- The exit code, `0` only if the program did not fail. -/
def code : Outcome → UInt32
  | .printed _ => 0
  | .failed _ => 1
  | .usage => 2

/-- The text on standard output. -/
def output : Outcome → String
  | .printed text => text
  | _ => ""

/-- The message of the error on standard error, if the program `failed`. -/
def complaint? : Outcome → Option String
  | .failed e => some ("Error: " ++ e.message)
  | _ => none

/-- `printed` for a text, and `failed` for an error. -/
def ofResult : Except ProgramError String → Outcome
  | .ok text => .printed text
  | .error e => .failed e

end Outcome

/-- Runs the program with the given arguments: `generateFile` if they name an output, otherwise
`generateModule`, whose module is printed. -/
def run {m : Type → Type} [Monad m] [Files m] (arguments : List String) : m Outcome := do
  match parse arguments with
  | .error .help => return .printed help
  | .error .usage => return .usage
  | .ok (a, input) =>
    match a.output with
    | some output => do
      let done ← generateFile (a.config input) output
      return .ofResult (done.result.map fun _ => "")
    | none => return .ofResult (← generateModule (a.config input)).result

end SwaggerRequests.CommandLine
