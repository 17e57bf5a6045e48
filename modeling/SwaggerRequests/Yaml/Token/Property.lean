import SwaggerRequests.Yaml.Token.Flow

/-!
# Properties and directives

This module reads what precedes a node, its anchor (`anchorName`) and its tag (`tag`), what precedes
a document, its directives (`directive`), and the names of aliases.

A tag is written verbatim in angle brackets, or as a handle and a suffix. Its octets are written as
characters or after percent signs (`tagOctets`); those after percent signs have to form characters
of UTF-8, which `owedAfter?` checks.

Every reader returns what it read and the glyphs that remain, or `none` if the text is not
well-formed.
-/

namespace SwaggerRequests.Yaml

/-! ## Anchors and aliases -/

/-- The characters that can follow the name of an anchor. A gap can follow as well. -/
def endsAnchor (c : Char) : Bool :=
  c == '?' || c == ':' || c == ',' || c == ']' || c == '}' || c == '%' || c == '@' || c == '\x60'

/-- Reads the name behind `&` or `*`. -/
def anchorName (gs : List Glyph) : Option (String × List Glyph) :=
  let (name, rest) := spanChars isNameChar gs
  if name.isEmpty || !(atGap rest || rest.head?.any (endsAnchor ·.char)) then none
  else some (String.ofList name, rest)

/-! ## Tags -/

/-- The characters of a tag that stand for themselves. If the tag is `bracketed`, these include `,`,
`[` and `]`. -/
def isTagChar (bracketed : Bool) (c : Char) : Bool :=
  isNameChar c || ";/?:@&=+$.!~*'()".toList.contains c || (bracketed && ",[]".toList.contains c)

/-- The octet of the escape `%` with two hexadecimal digits. -/
def octet? (high low : Char) : Option UInt8 := do
  let h ← hexDigit? high
  let l ← hexDigit? low
  some (UInt8.ofNat (16 * h + l))

/-- The number of octets that have to follow the octet `o`, where `owed` were due before it. The
first octet of a character determines how many follow. -/
def owedAfter? (owed : Nat) (o : UInt8) : Option Nat :=
  let n := o.toNat
  match owed with
  | owed + 1 => if n / 0x40 == 2 then some owed else none
  | 0 =>
    if n < 0x80 then some 0
    else if n / 0x20 == 6 then some 1
    else if n / 0x10 == 14 then some 2
    else if n / 0x08 == 30 then some 3
    else none

/-- Reads the octets of a tag. `owed` octets of an escaped character are still due
(`owedAfter?`). -/
def tagOctets (bracketed : Bool) : (owed : Nat) → List Glyph → Option (List UInt8 × List Glyph)
  | owed, [] => if owed == 0 then some ([], []) else none
  | owed, g :: gs =>
    if g.char == '%' then
      match gs with
      | high :: low :: gs => do
        let o ← octet? high.char low.char
        let owed ← owedAfter? owed o
        let (os, rest) ← tagOctets bracketed owed gs
        some (o :: os, rest)
      | _ => none
    else if owed != 0 then none
    else if isTagChar bracketed g.char then do
      let (os, rest) ← tagOctets bracketed 0 gs
      some (g.char.toUInt8 :: os, rest)
    else some ([], g :: gs)

/-- Reads the octets of a tag, of which there must be one or more. -/
def tagText (bracketed : Bool) (gs : List Glyph) : Option (Tag × List Glyph) := do
  let (os, rest) ← tagOctets bracketed 0 gs
  if os.isEmpty then none else some (.ofOctets os, rest)

/-- Reads `!`, a name, and another `!` if it follows. Without that one the name is the beginning of
a suffix (`shorthand`). -/
def tagHandle : List Glyph → Option (List Char × List Glyph)
  | g :: gs =>
    if g.char == '!' then
      let (name, rest) := spanChars isNameChar gs
      match rest with
      | h :: rest' =>
        if h.char == '!' then some ('!' :: name ++ ['!'], rest') else some ('!' :: name, rest)
      | [] => some ('!' :: name, [])
    else none
  | [] => none

/-- Reads a tag as a word with a handle and a suffix. A verbatim tag and the tag `!` have no
handle. -/
def tag (inFlow : Bool) (gs : List Glyph) : Option (Word × List Glyph) := do
  let (handle, suffix, rest) ←
    match gs with
    | _ :: g :: rest =>
      if g.char == '<' then do
        let (suffix, rest) ← tagText true rest
        match rest with
        | h :: rest => if h.char == '>' then some ("", suffix, rest) else none
        | [] => none
      else shorthand gs
    | _ => shorthand gs
  if atGap rest || (inFlow && rest.head?.any (·.char == ',')) then
    some (.tag handle suffix, rest)
  else none
where
  /-- A handle and a suffix behind it. -/
  shorthand (gs : List Glyph) : Option (String × Tag × List Glyph) := do
    let (handle, rest) ← tagHandle gs
    if 2 ≤ handle.length && handle.getLast? == some '!' then
      let (suffix, rest) ← tagText false rest
      some (String.ofList handle, suffix, rest)
    else
      let (more, rest) ← tagOctets false 0 rest
      let suffix := Tag.ofOctets ((handle.drop 1).map Char.toUInt8 ++ more)
      if suffix.isEmpty then some ("", .bare, rest) else some ("!", suffix, rest)

/-! ## Directives -/

/-- Reads a number of at most nine digits, a part of a version. -/
def shortNumber (gs : List Glyph) : Option (Nat × List Glyph) :=
  let (digits, rest) := spanChars Char.isDigit gs
  if digits.isEmpty || 9 < digits.length then none
  else some (digits.foldl (fun n d => 10 * n + (d.toNat - '0'.toNat)) 0, rest)

/-- Reads a directive, `%YAML` or `%TAG`, to the end of its line. -/
def directive (gs : List Glyph) : Option (Word × List Glyph) := do
  let (name, rest) := spanChars isNameChar (gs.drop 1)
  if name.isEmpty || !atGap rest then none
  let (word, rest) ←
    if name == "YAML".toList then do
      let (major, rest) ← shortNumber (dropChars isBlank rest)
      match rest with
      | g :: rest =>
        if g.char == '.' then do
          let (minor, rest) ← shortNumber rest
          some (Word.versionDirective major minor, rest)
        else none
      | [] => none
    else if name == "TAG".toList then do
      let (handle, rest) ← tagHandle (dropChars isBlank rest)
      if !(handle == ['!'] || (2 ≤ handle.length && handle.getLast? == some '!')) then none
      if !(rest.head?.any (isBlank ·.char)) then none
      let (text, rest) ← tagText true (dropChars isBlank rest)
      if !atGap rest then none
      some (Word.tagDirective (String.ofList handle) text, rest)
    else none
  let rest := dropChars isBlank rest
  let rest := if rest.head?.any (·.char == '#') then dropChars (!isBreak ·) rest else rest
  if atLineEnd rest then some (word, rest.drop 1) else none

end SwaggerRequests.Yaml
