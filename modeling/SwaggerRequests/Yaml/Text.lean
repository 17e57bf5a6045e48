/-!
# Located text

The lexer reads a list of `Glyph`s, characters with their place in the text. `locate` makes the
glyphs of a text and normalizes line breaks: a carriage return with a line feed is one glyph, and
every break that YAML does not tell apart is a line feed (`normalBreak`). The place that a reader
has reached is then the `Mark` of the first glyph that remains, so no reader counts lines or
columns.

A `Cursor` is the list of the glyphs that remain together with the end of the text.
`Cursor.octetsLeft` bounds the length of this list and serves as the bound of the loops of the
lexer. The other definitions are tests and loops over glyphs that several readers share: `atGap`,
`atLineEnd`, `spanChars`, `dropChars` and `atDivider`.
-/

namespace SwaggerRequests.Yaml

/-- A place in a text. All three numbers are zero at `Mark.start`. -/
structure Mark where
  /-- the octets of UTF-8 before the place -/
  index : Nat
  /-- the line breaks before the place -/
  line : Nat
  /-- the characters between the last line break and the place -/
  column : Nat
  deriving DecidableEq, Repr, Inhabited

/-- The place before the first character. -/
def Mark.start : Mark := ⟨0, 0, 0⟩

/-- The place behind the character `c`, which is not a line break. -/
def Mark.next (m : Mark) (c : Char) : Mark := ⟨m.index + c.utf8Size, m.line, m.column + 1⟩

/-- The place behind a line break of `size` octets. -/
def Mark.nextLine (m : Mark) (size : Nat) : Mark := ⟨m.index + size, m.line + 1, 0⟩

/-- A character or a line break of the text, and where it stands. -/
structure Glyph where
  char : Char
  mark : Mark
  deriving Repr

/-- The character ends a line: a line feed, a carriage return, or one of three characters of
Unicode. -/
def isBreak (c : Char) : Bool :=
  c == '\n' || c == '\r' || c == '\u0085' || c == '\u2028' || c == '\u2029'

/-- A space or a tab. -/
def isBlank (c : Char) : Bool := c == ' ' || c == '\t'

/-- The character that a line break is read as: a line feed, or itself for the separators of lines
and paragraphs, U+2028 and U+2029. -/
def normalBreak (c : Char) : Char :=
  if c == '\u2028' || c == '\u2029' then c else '\n'

/-- The character may occur in a document. -/
def isAllowed (c : Char) : Bool :=
  let n := c.toNat
  n == 0x09 || n == 0x0A || n == 0x0D || (0x20 ≤ n && n ≤ 0x7E) || n == 0x85 ||
  (0xA0 ≤ n && n ≤ 0xD7FF) || (0xE000 ≤ n && n ≤ 0xFFFD) || 0x10000 ≤ n

/-- The glyphs of a text that starts at `m`. -/
def locate (m : Mark) : List Char → List Glyph
  | [] => []
  | '\r' :: '\n' :: cs => ⟨'\n', m⟩ :: locate (m.nextLine 2) cs
  | c :: cs =>
    if isBreak c then ⟨normalBreak c, m⟩ :: locate (m.nextLine c.utf8Size) cs
    else ⟨c, m⟩ :: locate (m.next c) cs

/-- The place behind a text that starts at `m`. -/
def endMark (m : Mark) : List Char → Mark
  | [] => m
  | '\r' :: '\n' :: cs => endMark (m.nextLine 2) cs
  | c :: cs =>
    if isBreak c then endMark (m.nextLine c.utf8Size) cs else endMark (m.next c) cs

/-- The `Glyph`s that remain to be read. -/
structure Cursor where
  /-- the glyphs that remain -/
  rest : List Glyph
  /-- the `mark` at the end of the text -/
  stop : Mark

namespace Cursor

/-- The `Mark` of the first glyph that remains. -/
def mark (c : Cursor) : Mark :=
  match c.rest with
  | [] => c.stop
  | g :: _ => g.mark

/-- The number of octets that remain. It is at least the number of glyphs in `rest`. -/
def octetsLeft (c : Cursor) : Nat := c.stop.index - c.mark.index

/-- Leaves out `n` glyphs. -/
def drop (c : Cursor) (n : Nat) : Cursor := { c with rest := c.rest.drop n }

/-- The cursor of the same text at which `rest` remains. -/
def goto (c : Cursor) (rest : List Glyph) : Cursor := { c with rest }

end Cursor

/-- The next glyph is a blank or a line break, or there is none. -/
def atGap : List Glyph → Bool
  | [] => true
  | g :: _ => isBlank g.char || isBreak g.char

/-- The next glyph is a line break, or there is none. -/
def atLineEnd : List Glyph → Bool
  | [] => true
  | g :: _ => isBreak g.char

/-- The longest beginning of glyphs whose characters satisfy `p`, and the glyphs that remain. -/
def spanChars (p : Char → Bool) : List Glyph → List Char × List Glyph
  | [] => ([], [])
  | g :: gs =>
    if p g.char then
      let (taken, rest) := spanChars p gs
      (g.char :: taken, rest)
    else ([], g :: gs)

/-- The glyphs after the longest beginning whose characters satisfy `p`. -/
def dropChars (p : Char → Bool) (gs : List Glyph) : List Glyph := gs.dropWhile (p ·.char)

/-- A divider of documents comes next: three times the character `d` at the start of a line, and a
gap. -/
def atDivider (d : Char) : List Glyph → Bool
  | a :: b :: c :: gs =>
    a.mark.column == 0 && a.char == d && b.char == d && c.char == d && atGap gs
  | _ => false

/-- `atDivider` with hyphens, for the start of a document, or with dots, for its end. -/
def atAnyDivider (gs : List Glyph) : Bool := atDivider '-' gs || atDivider '.' gs

/-- The characters of names of anchors and handles: letters and digits of ASCII, `-` and `_`. -/
def isNameChar (c : Char) : Bool := c.isAlphanum || c == '_' || c == '-'

end SwaggerRequests.Yaml
