import SwaggerRequests.Yaml.Token.Block
import SwaggerRequests.Yaml.Token.Property

/-!
# From text to tokens

`tokens? text` is the list of the tokens of a text, or `none` if the text is not well-formed. The
state of the `Lexer` has, beside the tokens found so far, the indentations of the open block
collections, and two fields for *simple keys*: for every open flow collection, and outside of them,
the place where such a key may have started (`KeyStart`), and whether one may start at the place
reached.

A simple key is a node that is followed by a colon. When the colon is found, the word `Word.key`,
and if necessary the start of a block mapping, is inserted at the place where the key started. The
place is forgotten when the line ends or the key gets too long (`KeyStart.isStale`).

`Lexer.run` is the loop. Each round skips a gap (`skipGap`), closes the block collections that end
there (`Lexer.closeBlocks`) and reads one token (`Lexer.next`). At the end of the text
`Lexer.finish` closes everything that is open.
-/

namespace SwaggerRequests.Yaml

/-- A place where a simple key may have started. If a colon follows, `Word.key` is inserted
there. -/
structure KeyStart where
  /-- a key has to start here, since it is at the indentation of an open block collection -/
  required : Bool
  /-- the number of tokens before it -/
  before : Nat
  mark : Mark

/-- The key cannot reach to `m`: it ends on the line it starts on and has at most 1024 octets. -/
def KeyStart.isStale (k : KeyStart) (m : Mark) : Bool :=
  k.mark.line < m.line || k.mark.index + 1024 < m.index

/-- The state of the lexer between two tokens. -/
structure Lexer where
  /-- the tokens so far in reverse -/
  tokens : List Token
  /-- the number of tokens -/
  count : Nat
  /-- the indentations of the open block collections, the innermost first -/
  indents : List Nat
  /-- a possible `KeyStart` for each open flow collection and for the text outside of them, the
  innermost first -/
  keys : List (Option KeyStart)
  /-- a simple key may start at the place reached -/
  keyAllowed : Bool

namespace Lexer

/-- The state at the start of a text, where a simple key is allowed. -/
def initial : Lexer := ⟨[], 0, [], [none], true⟩

/-- The place reached is inside a flow collection. -/
def inFlow (l : Lexer) : Bool :=
  match l.keys with
  | _ :: _ :: _ => true
  | _ => false

/-- The least column of the content of the innermost block collection, from `indents`. -/
def margin (l : Lexer) : Nat :=
  match l.indents with
  | [] => 0
  | n :: _ => n + 1

/-- Inserts a token after the first `before` ones. -/
def insert (l : Lexer) (before : Nat) (t : Token) : Lexer :=
  { l with tokens := l.tokens.insertIdx (l.count - before) t, count := l.count + 1 }

/-- Adds the token `t` at the end. -/
def push (l : Lexer) (t : Token) : Lexer :=
  { l with tokens := t :: l.tokens, count := l.count + 1 }

/-- Adds the word `w` as a token from `start` to `stop`. -/
def add (l : Lexer) (w : Word) (start stop : Cursor) : Lexer := l.push ⟨w, start.mark, stop.mark⟩

/-- Sets `keyAllowed`. -/
def allowKey (l : Lexer) (b : Bool) : Lexer := { l with keyAllowed := b }

/-! ## Simple keys -/

/-- Removes the innermost `KeyStart`, and fails if it is `required`. -/
def dropKey (l : Lexer) : Option Lexer :=
  match l.keys with
  | some k :: ks => if k.required then none else some { l with keys := none :: ks }
  | _ => some l

/-- A simple key may start at `m`, if one is allowed. -/
def saveKey (l : Lexer) (m : Mark) : Option Lexer :=
  if l.keyAllowed then do
    let required := !l.inFlow && l.indents.head? == some m.column
    let l ← l.dropKey
    return { l with keys := some ⟨required, l.count, m⟩ :: l.keys.drop 1 }
  else some l

/-- Removes the innermost `KeyStart` if it `isStale` at `m`. Those around it are checked when they
become innermost. -/
def dropStaleKey (l : Lexer) (m : Mark) : Option Lexer :=
  match l.keys with
  | some k :: _ => if k.isStale m then l.dropKey else some l
  | _ => some l

/-! ## Indentation -/

/-- Opens a block collection at the column of `m`, unless one is open there. Its start is inserted
after the first `before` tokens. -/
def openBlock (l : Lexer) (w : Word) (m : Mark) (before : Nat) : Lexer :=
  if l.inFlow || l.indents.head?.any (m.column ≤ ·) then l
  else { l with indents := m.column :: l.indents }.insert before (.empty w m)

/-- Closes the `n` innermost block collections. -/
def closeInnermost (l : Lexer) (n : Nat) (m : Mark) : Lexer :=
  if l.inFlow then l
  else { l with
    indents := l.indents.drop n
    tokens := List.replicate n (.empty .blockEnd m) ++ l.tokens
    count := l.count + n }

/-- Closes the block collections to the right of `column`. -/
def closeBlocks (l : Lexer) (column : Nat) (m : Mark) : Lexer :=
  l.closeInnermost (l.indents.takeWhile (column < ·)).length m

/-- Closes all block collections at `m`. -/
def closeAllBlocks (l : Lexer) (m : Mark) : Lexer := l.closeInnermost l.indents.length m

end Lexer

/-! ## Between tokens -/

/-- Drops blanks, comments, line breaks, and a byte order mark at the start of a line. The boolean
in the result is the new `keyAllowed`; a tab is a blank only where no key may start. -/
def skipGap (inFlow : Bool) : Bool → (inComment : Bool) → List Glyph → Bool × List Glyph
  | keyAllowed, _, [] => (keyAllowed, [])
  | keyAllowed, inComment, g :: gs =>
    if isBreak g.char then skipGap inFlow (keyAllowed || !inFlow) false gs
    else if inComment then skipGap inFlow keyAllowed true gs
    else if g.char == ' ' || (g.char == '\t' && (inFlow || !keyAllowed)) ||
        (g.char == '\ufeff' && g.mark.column == 0) then
      skipGap inFlow keyAllowed false gs
    else if g.char == '#' then skipGap inFlow keyAllowed true gs
    else (keyAllowed, g :: gs)

/-! ## The next token -/

/-- The characters that cannot start a plain scalar, apart from the exceptions in `startsPlain`. -/
def isIndicator (c : Char) : Bool := "-?:,[]{}#&*!|>'\"%@\x60".toList.contains c

/-- The glyphs start a plain scalar. Of the indicators, `-` can start one if no blank follows, and
outside of flow collections `?` and `:` if no gap follows. -/
def startsPlain (inFlow : Bool) : List Glyph → Bool
  | [] => false
  | g :: gs =>
    !(isBlank g.char || isBreak g.char || isIndicator g.char) ||
    (g.char == '-' && !(gs.head?.any (isBlank ·.char))) ||
    (!inFlow && (g.char == '?' || g.char == ':') && !atGap gs)

namespace Lexer

/-- Reads the token at the cursor `c`, and returns the cursor behind it. -/
def next (l : Lexer) (c : Cursor) : Option (Lexer × Cursor) := do
  let g ← c.rest.head?
  let after := c.drop 1
  let gapAfter := atGap after.rest
  if g.mark.column == 0 && g.char == '%' then
    let l ← (l.closeAllBlocks g.mark).dropKey
    let (w, rest) ← directive c.rest
    return ((l.allowKey false).add w c (c.goto rest), c.goto rest)
  if atAnyDivider c.rest then
    let l ← (l.closeAllBlocks g.mark).dropKey
    let w := if g.char == '-' then Word.documentStart else .documentEnd
    return ((l.allowKey false).add w c (c.drop 3), c.drop 3)
  match g.char with
  | '[' => openFlow l .flowSequenceStart c
  | '{' => openFlow l .flowMappingStart c
  | ']' => closeFlow l .flowSequenceEnd c
  | '}' => closeFlow l .flowMappingEnd c
  | ',' =>
    let l ← l.dropKey
    return ((l.allowKey true).add .flowEntry c after, after)
  | _ =>
  if g.char == '-' && gapAfter then
    if !l.inFlow && !l.keyAllowed then none
    let l ← (l.openBlock .blockSequenceStart g.mark l.count).dropKey
    return ((l.allowKey true).add .blockEntry c after, after)
  if g.char == '?' && (l.inFlow || gapAfter) then
    if !l.inFlow && !l.keyAllowed then none
    let l ← (l.openBlock .blockMappingStart g.mark l.count).dropKey
    return ((l.allowKey !l.inFlow).add .key c after, after)
  if g.char == ':' && (l.inFlow || gapAfter) then
    match l.keys with
    | some k :: ks =>
      let l := { l with keys := none :: ks }.insert k.before (.empty .key k.mark)
      let l := l.openBlock .blockMappingStart k.mark k.before
      return ((l.allowKey false).add .value c after, after)
    | _ =>
      if !l.inFlow && !l.keyAllowed then none
      let l := l.openBlock .blockMappingStart g.mark l.count
      return ((l.allowKey !l.inFlow).add .value c after, after)
  match g.char with
  | '*' =>
    let l ← l.saveKey g.mark
    let (name, rest) ← anchorName after.rest
    return ((l.allowKey false).add (.alias name) c (c.goto rest), c.goto rest)
  | '&' =>
    let l ← l.saveKey g.mark
    let (name, rest) ← anchorName after.rest
    return ((l.allowKey false).add (.anchor name) c (c.goto rest), c.goto rest)
  | '!' =>
    let l ← l.saveKey g.mark
    let (w, rest) ← tag l.inFlow c.rest
    return ((l.allowKey false).add w c (c.goto rest), c.goto rest)
  | '\'' => quotedScalar l .singleQuoted c
  | '"' => quotedScalar l .doubleQuoted c
  | _ =>
  if !l.inFlow && (g.char == '|' || g.char == '>') then
    let style := if g.char == '|' then Style.literal else .folded
    let l ← l.dropKey
    let (text, stop) ← block style (l.indents.head?.getD 0) l.margin after
    return ((l.allowKey true).add (.scalar (String.ofList text) style) c stop, stop)
  if startsPlain l.inFlow c.rest then
    let l ← l.saveKey g.mark
    let p ← plain l.inFlow l.margin c
    let stop := c.goto p.rest
    return ((l.allowKey p.broken).add (.scalar (String.ofList p.text) .plain) c stop, stop)
  none
where
  /-- Enters a flow collection. -/
  openFlow (l : Lexer) (w : Word) (c : Cursor) : Option (Lexer × Cursor) := do
    let l ← l.saveKey c.mark
    return ({ l with keys := none :: l.keys, keyAllowed := true }.add w c (c.drop 1), c.drop 1)
  /-- Leaves a flow collection, if one is open. -/
  closeFlow (l : Lexer) (w : Word) (c : Cursor) : Option (Lexer × Cursor) := do
    let l ← l.dropKey
    let keys := if l.inFlow then l.keys.drop 1 else l.keys
    return ({ l with keys, keyAllowed := false }.add w c (c.drop 1), c.drop 1)
  /-- Reads a quoted scalar. -/
  quotedScalar (l : Lexer) (style : Style) (c : Cursor) : Option (Lexer × Cursor) := do
    let l ← l.saveKey c.mark
    let (text, stop) ← quoted style (c.drop 1)
    return ((l.allowKey false).add (.scalar (String.ofList text) style) c stop, stop)

/-- Closes all block collections at the end of the text and adds `Word.streamEnd`. A last line
without a break ends there as well. -/
def finish (l : Lexer) (m : Mark) : Option (List Token) := do
  let m := if m.column == 0 then m else { m with line := m.line + 1, column := 0 }
  let l ← (l.closeAllBlocks m).dropKey
  return (l.push (.empty .streamEnd m)).tokens.reverse

/-- Reads tokens with `next` up to the end of the text. Every round but the last takes a glyph, so
`Cursor.octetsLeft` bounds their number. -/
def run : Nat → Lexer → Cursor → Option (List Token)
  | 0, _, _ => none
  | rounds + 1, l, c => do
    let (keyAllowed, rest) := skipGap l.inFlow l.keyAllowed false c.rest
    let c := c.goto rest
    let l ← (l.allowKey keyAllowed).dropStaleKey c.mark
    let l := l.closeBlocks c.mark.column c.mark
    if c.rest.isEmpty then l.finish c.mark
    else
      let (l, c) ← l.next c
      run rounds l c

end Lexer

/-- The tokens of a text, the last of which is the end of the stream, or `none` if the text is not
well-formed. -/
def tokens? (text : String) : Option (List Token) :=
  let cs := text.toList
  if cs.all isAllowed then
    let c : Cursor := ⟨locate .start cs, endMark .start cs⟩
    Lexer.initial.run (c.octetsLeft + 1) c
  else none

end SwaggerRequests.Yaml
