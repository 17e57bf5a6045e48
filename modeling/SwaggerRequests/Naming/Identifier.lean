/-!
# Identifiers

Identifiers of the generated module consist of ASCII letters, digits, the underscore and the dollar
sign (`isIdentifierChar`) and do not start with a digit.

The main definition is `className`, the name of the model class that a reference points to. It is
the last segment of the reference (`lastSegment`), with one underscore for every run of characters
that no identifier has (`replaceRuns`), without underscores at the end (`dropUnderscores`) and not
starting with a digit (`avoidLeadingDigit`). `binding` and `functionName` use the last step as well.
-/

namespace SwaggerRequests

/-- A character that identifiers can have. -/
def isIdentifierChar (c : Char) : Bool := c.isAlphanum || c == '_' || c == '$'

/-- Writes `by_` for every run of characters that are not `isIdentifierChar`. `inRun` says that such
a run has already been replaced right before the text. -/
def replaceRuns (by_ : Char) (inRun : Bool) : List Char → List Char
  | [] => []
  | c :: cs =>
    if isIdentifierChar c then c :: replaceRuns by_ false cs
    else if inRun then replaceRuns by_ true cs
    else by_ :: replaceRuns by_ true cs

/-- Puts an underscore before a leading digit; the empty text becomes an underscore. -/
def avoidLeadingDigit : List Char → List Char
  | [] => ['_']
  | c :: cs => if c.isDigit then '_' :: c :: cs else c :: cs

/-- The text behind the last slash, all of it if there is none. -/
def lastSegment (cs : List Char) : List Char := (cs.reverse.takeWhile (· != '/')).reverse

/-- The text without the underscores at its end. -/
def dropUnderscores (cs : List Char) : List Char := (cs.reverse.dropWhile (· == '_')).reverse

/-- The name of the class that `reference` points to. -/
def className (reference : String) : String :=
  String.ofList <|
    avoidLeadingDigit (dropUnderscores (replaceRuns '_' false (lastSegment reference.toList)))

end SwaggerRequests
