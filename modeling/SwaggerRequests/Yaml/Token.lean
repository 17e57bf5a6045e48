import SwaggerRequests.Yaml.Tag
import SwaggerRequests.Yaml.Text

/-!
# Tokens

A `Token` is a `Word` of YAML with its place. The block structure of a document, which its text
shows by indentation only, has words of its own (`Word.blockSequenceStart`,
`Word.blockMappingStart`, `Word.blockEnd`), and so have the keys of mappings (`Word.key`). The lexer
in `Yaml.Token.Lexer` inserts them, so the grammar in `Yaml.Node.Grammar` does not look at columns.
-/

namespace SwaggerRequests.Yaml

/-- The styles of a `Word.scalar`. -/
inductive Style where
  | plain
  | singleQuoted
  | doubleQuoted
  | literal
  | folded
  deriving DecidableEq, Repr

/-- The words of YAML, which `Document.Reader` takes one by one. -/
inductive Word where
  | streamEnd
  | versionDirective (major minor : Nat)
  | tagDirective (handle : String) (expansion : Tag)
  | documentStart
  | documentEnd
  | blockSequenceStart
  | blockMappingStart
  | blockEnd
  | flowSequenceStart
  | flowSequenceEnd
  | flowMappingStart
  | flowMappingEnd
  | blockEntry
  | flowEntry
  | key
  | value
  | alias (name : String)
  | anchor (name : String)
  | tag (handle : String) (suffix : Tag)
  | scalar (text : String) (style : Style)
  deriving DecidableEq, Repr

/-- A `Word` with the place where it is written. -/
structure Token where
  word : Word
  /-- where the word starts -/
  start : Mark
  /-- the place behind the word -/
  stop : Mark

/-- The token of a word that is not written, at the place `m`. -/
def Token.empty (word : Word) (m : Mark) : Token := ⟨word, m, m⟩

end SwaggerRequests.Yaml
