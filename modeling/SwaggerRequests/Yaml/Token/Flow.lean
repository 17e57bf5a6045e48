import SwaggerRequests.Yaml.Token

/-!
# Flow scalars

Plain and quoted scalars can run over several lines. The text between two pieces of such a scalar is
a `Gap`: blanks, or line breaks with any indentation around them. A gap of blanks is kept as it is,
and a gap of line breaks is folded by `foldBreaks`: a single line feed becomes a space, and of
several line feeds the first is left out.

The readers of the three styles are `plain`, and `quoted` with `singlePiece` and `doublePiece`. Each
alternates between a piece and a gap (`plainFrom`, `quotedFrom`).

Every reader here returns the text that it read and the glyphs that remain, or `none` if the text is
not well-formed. A round of a loop takes at least one glyph, so `Cursor.octetsLeft` bounds the
rounds.
-/

namespace SwaggerRequests.Yaml

/-- The text for the line breaks of a gap: a single one is a space, and of several the first is
dropped. -/
def foldBreaks : List Char → List Char
  | ['\n'] => [' ']
  | '\n' :: more => more
  | breaks => breaks

/-- Reads the line breaks of a gap and the blanks between them. A tab to the left of `margin` is
refused. -/
def gapBreaks (margin : Nat) : List Glyph → Option (List Char × List Glyph)
  | [] => some ([], [])
  | g :: gs =>
    if isBreak g.char then do
      let (breaks, rest) ← gapBreaks margin gs
      some (g.char :: breaks, rest)
    else if isBlank g.char then
      if g.char == '\t' && g.mark.column < margin then none else gapBreaks margin gs
    else some ([], g :: gs)

/-- A gap between two pieces of a flow scalar: its text after `foldBreaks`, and whether it has a
line break. -/
structure Gap where
  text : List Char
  broken : Bool

/-- Reads blanks and line breaks up to the next piece. -/
def gap (margin : Nat) (gs : List Glyph) : Option (Gap × List Glyph) := do
  let (blanks, rest) := spanChars isBlank gs
  match rest with
  | [] => some (⟨blanks, false⟩, [])
  | g :: _ =>
    if isBreak g.char then
      let (breaks, rest) ← gapBreaks margin rest
      some (⟨foldBreaks breaks, true⟩, rest)
    else some (⟨blanks, false⟩, rest)

/-! ## Plain scalars -/

/-- The characters that end a plain scalar if `inFlow`. -/
def isFlowIndicator (c : Char) : Bool :=
  c == ',' || c == '[' || c == ']' || c == '{' || c == '}'

/-- Reads a piece of a plain scalar. It ends before a gap and before a colon with a gap behind it,
and if `inFlow` before one that `isFlowIndicator`. A colon right before an indicator is refused
there. -/
def plainPiece (inFlow : Bool) : List Glyph → Option (List Char × List Glyph)
  | [] => some ([], [])
  | g :: gs =>
    if isBlank g.char || isBreak g.char then some ([], g :: gs)
    else if inFlow && g.char == ':' &&
        (gs.head?.any fun n => isFlowIndicator n.char || n.char == '?') then none
    else if (g.char == ':' && atGap gs) || (inFlow && isFlowIndicator g.char) then
      some ([], g :: gs)
    else do
      let (piece, rest) ← plainPiece inFlow gs
      some (g.char :: piece, rest)

/-- The text of a plain scalar and the glyphs behind it. -/
structure Plain where
  text : List Char
  /-- a line break lies between the scalar and what remains -/
  broken : Bool
  rest : List Glyph

/-- Reads the rest of a plain scalar after the gap `before`. Outside of a flow collection the scalar
ends before a line that starts to the left of `margin`. -/
def plainFrom (inFlow : Bool) (margin : Nat) :
    Nat → (before : Gap) → List Glyph → Option Plain
  | 0, _, _ => none
  | rounds + 1, before, gs => do
    if atAnyDivider gs || (gs.head?.any (·.char == '#')) then
      return ⟨[], before.broken, gs⟩
    let (piece, rest) ← plainPiece inFlow gs
    let before' : Gap := if piece.isEmpty then before else ⟨[], false⟩
    let text := if piece.isEmpty then [] else before.text ++ piece
    if rest.isEmpty || !atGap rest then
      return ⟨text, before'.broken, rest⟩
    let (between, rest) ← gap margin rest
    if !inFlow && (rest.head?.any (·.mark.column < margin)) then
      return ⟨text, between.broken, rest⟩
    let tail ← plainFrom inFlow margin rounds between rest
    return { tail with text := text ++ tail.text }

/-- Reads a plain scalar: a `plainPiece` and what `plainFrom` finds behind it. -/
def plain (inFlow : Bool) (margin : Nat) (c : Cursor) : Option Plain :=
  plainFrom inFlow margin (c.octetsLeft + 1) ⟨[], false⟩ c.rest

/-! ## Quoted scalars -/

/-- What ends a piece of a quoted scalar. `quotedFrom` goes on from there. -/
inductive PieceEnd where
  | gap
  | quote
  /-- a backslash before a line break -/
  | escapedBreak

/-- Reads a piece of a scalar in single quotes. The escape `''` is a quote. -/
def singlePiece : List Glyph → List Char × PieceEnd × List Glyph
  | [] => ([], .gap, [])
  | [g] => if g.char == '\'' then ([], .quote, []) else
      if isBlank g.char || isBreak g.char then ([], .gap, [g]) else ([g.char], .gap, [])
  | g :: h :: gs =>
    if isBlank g.char || isBreak g.char then ([], .gap, g :: h :: gs)
    else if g.char == '\'' then
      if h.char == '\'' then
        let (piece, stop, rest) := singlePiece gs
        ('\'' :: piece, stop, rest)
      else ([], .quote, h :: gs)
    else
      let (piece, stop, rest) := singlePiece (h :: gs)
      (g.char :: piece, stop, rest)

/-- The character of the escape `\c`, if it is a single one. -/
def escape? : Char → Option Char
  | '0' => some '\x00'
  | 'a' => some '\x07'
  | 'b' => some '\x08'
  | 't' | '\t' => some '\t'
  | 'n' => some '\n'
  | 'v' => some '\x0b'
  | 'f' => some '\x0c'
  | 'r' => some '\r'
  | 'e' => some '\x1b'
  | ' ' => some ' '
  | '"' => some '"'
  | '/' => some '/'
  | '\\' => some '\\'
  | 'N' => some '\u0085'
  | '_' => some '\u00a0'
  | 'L' => some '\u2028'
  | 'P' => some '\u2029'
  | _ => none

/-- The number of hexadecimal digits of the escapes `\x`, `\u` and `\U`. -/
def escapeDigits? : Char → Option Nat
  | 'x' => some 2
  | 'u' => some 4
  | 'U' => some 8
  | _ => none

/-- The value of `c` as a hexadecimal digit. -/
def hexDigit? (c : Char) : Option Nat :=
  if c.isDigit then some (c.toNat - '0'.toNat)
  else if 'a' ≤ c ∧ c ≤ 'f' then some (c.toNat - 'a'.toNat + 10)
  else if 'A' ≤ c ∧ c ≤ 'F' then some (c.toNat - 'A'.toNat + 10)
  else none

/-- The value of the hexadecimal digits `cs`. -/
def hexValue? (cs : List Char) : Option Nat :=
  cs.foldlM (fun n c => (hexDigit? c).map (16 * n + ·)) 0

/-- The character with the code point `n`, unless `n` is a surrogate or too large. -/
def charOf? (n : Nat) : Option Char :=
  if h : n.isValidChar then some (Char.ofNatAux n h) else none

/-- Reads a piece of a scalar in double quotes, with its escapes (`escape?`, `escapeDigits?`). -/
def doublePiece : List Glyph → Option (List Char × PieceEnd × List Glyph)
  | [] => some ([], .gap, [])
  | g :: gs =>
    if isBlank g.char || isBreak g.char then some ([], .gap, g :: gs)
    else if g.char == '"' then some ([], .quote, gs)
    else if g.char == '\\' then
      match gs with
      | [] => none
      | e :: gs' =>
        if isBreak e.char then some ([], .escapedBreak, gs')
        else match escape? e.char with
          | some c => do
            let (piece, stop, rest) ← doublePiece gs'
            some (c :: piece, stop, rest)
          | none => do
            let n ← escapeDigits? e.char
            let digits := (gs'.take n).map (·.char)
            if digits.length < n then none else
            let c ← (hexValue? digits).bind charOf?
            let (piece, stop, rest) ← doublePiece (gs'.drop n)
            some (c :: piece, stop, rest)
    else do
      let (piece, stop, rest) ← doublePiece gs
      some (g.char :: piece, stop, rest)
termination_by gs => gs.length
decreasing_by all_goals (simp only [List.length_cons, List.length_drop]; omega)

/-- Reads the pieces and gaps of a quoted scalar up to its closing quote. The first argument bounds
the number of steps. -/
def quotedFrom (style : Style) : Nat → List Glyph → Option (List Char × List Glyph)
  | 0, _ => none
  | rounds + 1, gs => do
    if atAnyDivider gs then none
    let (piece, stop, rest) ←
      if style == .singleQuoted then some (singlePiece gs) else doublePiece gs
    match stop with
    | .quote => return (piece, rest)
    | .gap =>
      if rest.isEmpty then none
      let (between, rest) ← gap 0 rest
      let (tail, rest) ← quotedFrom style rounds rest
      return (piece ++ between.text ++ tail, rest)
    | .escapedBreak =>
      let (breaks, rest) ← gapBreaks 0 rest
      let (tail, rest) ← quotedFrom style rounds rest
      return (piece ++ breaks ++ tail, rest)

/-- Reads a scalar in the quotes of `style`, behind the opening one. -/
def quoted (style : Style) (c : Cursor) : Option (List Char × Cursor) := do
  let (text, rest) ← quotedFrom style (c.octetsLeft + 1) c.rest
  return (text, c.goto rest)

end SwaggerRequests.Yaml
