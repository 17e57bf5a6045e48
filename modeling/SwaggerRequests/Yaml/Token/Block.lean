import SwaggerRequests.Yaml.Token

/-!
# Block scalars

A block scalar has a header (`BlockHeader`) and lines at a common indentation. The header can give
the indentation, and otherwise the first line shows it. A literal scalar keeps its line breaks. In a
folded one a break between two lines that do not start with a blank becomes a space (`blockGlue`).
The `Chomping` of the header decides which of the breaks at the end are kept.

`block` reads the scalar after its indicator: the header (`blockHeader`), the empty lines and the
indentation before the first line (`blockLead`), and then line after line (`blockLines`).
-/

namespace SwaggerRequests.Yaml

/-- What a block scalar keeps of the line breaks at its end: nothing, the first, or all. The signs
are `-`, none and `+`. -/
inductive Chomping where
  | strip
  | clip
  | keep
  deriving DecidableEq

/-- The header of a block scalar, behind `|` or `>`. -/
structure BlockHeader where
  /-- what is kept of the breaks at the end -/
  chomping : Chomping
  /-- the indentation in relation to the collection around the scalar, if it is given -/
  increment : Option Nat

/-- Reads the sign of a header, `Chomping.clip` if there is none. -/
def chomping? : List Glyph → Option (Chomping × List Glyph)
  | g :: gs =>
    if g.char == '+' then some (.keep, gs) else if g.char == '-' then some (.strip, gs) else none
  | [] => none

/-- Reads the digit of a header if there is one. The digit `0` is refused. -/
def increment? : List Glyph → Option (Option Nat × List Glyph)
  | g :: gs =>
    if g.char == '0' then none
    else if g.char.isDigit then some (some (g.char.toNat - '0'.toNat), gs)
    else some (none, g :: gs)
  | [] => some (none, [])

/-- Reads a header: `chomping?` and `increment?` in either order, and the rest of the line. -/
def blockHeader (gs : List Glyph) : Option (BlockHeader × List Glyph) := do
  let (header, rest) ← match chomping? gs with
    | some (chomping, rest) => do
      let (increment, rest) ← increment? rest
      some (BlockHeader.mk chomping increment, rest)
    | none => do
      let (increment, rest) ← increment? gs
      match increment.bind fun _ => chomping? rest with
      | some (chomping, rest) => some (BlockHeader.mk chomping increment, rest)
      | none => some (BlockHeader.mk .clip increment, rest)
  let rest := dropChars isBlank rest
  let rest := if rest.head?.any (·.char == '#') then dropChars (!isBreak ·) rest else rest
  if atLineEnd rest then some (header, rest.drop 1) else none

/-- The empty lines and the indentation before a line of a block scalar. -/
structure BlockLead where
  /-- the line breaks of empty lines -/
  breaks : List Char
  /-- the greatest indentation so far, which sets the margin if the header gives none -/
  widest : Nat
  /-- the glyphs that remain -/
  rest : List Glyph

/-- Reads empty lines and the indentation of the line after them, which ends at `margin` if it is
given. A tab in the indentation is refused. -/
def blockLead (stop : Mark) (margin : Option Nat) (widest : Nat) :
    List Glyph → Option BlockLead
  | [] => some ⟨[], max widest stop.column, []⟩
  | g :: gs =>
    let inMargin := margin.all (g.mark.column < ·)
    if inMargin && g.char == ' ' then blockLead stop margin widest gs
    else if inMargin && g.char == '\t' then none
    else if isBreak g.char then do
      let lead ← blockLead stop margin (max widest g.mark.column) gs
      some { lead with breaks := g.char :: lead.breaks }
    else some ⟨[], max widest g.mark.column, g :: gs⟩

/-- The text of the line breaks between two lines, of which `first` ends the line before.
`afterBlank` and `beforeBlank` say whether the two lines start with a blank. -/
def blockGlue (style : Style) (afterBlank beforeBlank : Bool) (first : List Char)
    (more : List Char) : List Char :=
  if style == .folded && first == ['\n'] && !afterBlank && !beforeBlank then
    if more.isEmpty then [' '] else more
  else first ++ more

/-- Reads the lines of a block scalar. Before them there are the break `first` of the line before,
if there is one, and the breaks `more` of empty lines. -/
def blockLines (style : Style) (chomping : Chomping) (stop : Mark) (margin : Nat) :
    Nat → (afterBlank : Bool) → (first more : List Char) → List Glyph →
      Option (List Char × List Glyph)
  | 0, _, _, _, _ => none
  | rounds + 1, afterBlank, first, more, gs =>
    match gs with
    | [] => some (atEnd first more, [])
    | g :: _ =>
      if g.mark.column != margin then some (atEnd first more, gs)
      else do
        let startsBlank := isBlank g.char
        let glue := blockGlue style afterBlank startsBlank first more
        let (line, rest) := spanChars (!isBreak ·) gs
        let first' := (rest.head?.map (·.char)).toList
        let lead ← blockLead stop (some margin) 0 (rest.drop 1)
        let (tail, rest) ←
          blockLines style chomping stop margin rounds startsBlank first' lead.breaks lead.rest
        return (glue ++ line ++ tail, rest)
where
  /-- The breaks that stay at the end. -/
  atEnd (first more : List Char) : List Char :=
    match chomping with
    | .strip => []
    | .clip => first
    | .keep => first ++ more

/-- Reads a block scalar after its indicator. `indent` is the indentation of the block collection
around it, and `margin` the least column of the content of that collection. -/
def block (style : Style) (indent margin : Nat) (c : Cursor) :
    Option (List Char × Cursor) := do
  let (header, rest) ← blockHeader c.rest
  let given := header.increment.map (indent + ·)
  let lead ← blockLead c.stop given 0 rest
  let margin := given.getD (max (max lead.widest margin) 1)
  let (text, rest) ←
    blockLines style header.chomping c.stop margin (c.octetsLeft + 1) false [] lead.breaks lead.rest
  return (text, c.goto rest)

end SwaggerRequests.Yaml
