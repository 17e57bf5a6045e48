import SwaggerRequests.Reading.Shape

/-!
# Reading data

The instance `Source Datum`: how the kinds of values are read from data. The kind of a datum is
known, so a reader that asks for another one fails with `Cause.wrongKind` (`Datum.refuse`).

A record can be written in two ways (`Datum.readRecord`): as a mapping whose keys are the names or
the positions of the fields (`Datum.readFields`, `Datum.fieldOf?`), or as a list of the contents in
the order of `Shape.fields` (`Datum.readElements`). In a mapping, fields with unknown names are left
out and a field that comes twice is an error.
-/

namespace SwaggerRequests.Reading

namespace Datum

/-- Fails with `Cause.wrongKind`, with what `Datum.found` says. -/
def refuse {α : Type} (d : Datum) (expected : Expected) : Reading α :=
  .refuse (.wrongKind d.found expected)

/-- The content of `Datum.text`. -/
def readText : Datum → Reading String
  | .text s => pure s
  | d => d.refuse .string

/-- The content of `Datum.boolean`. -/
def readFlag : Datum → Reading Bool
  | .boolean b => pure b
  | d => d.refuse .boolean

/-- The position of `name` among `names`. -/
def position (names : List String) (name : String) : Reading Nat :=
  match names.findIdx? (· == name) with
  | some i => pure i
  | none => .refuse (.unknownOption name names)

/-- The position of a name among `names`. It is written as a text, or as a mapping with one entry,
whose key is the name or its position and whose value is null. -/
def readChoice (names : List String) : Datum → Reading Nat
  | .text name => position names name
  | .mapping [(key, value)] => do
    let i ← match key with
      | .text name => position names name
      | .integer n =>
        if !n.negative && n.magnitude < names.length then pure n.magnitude
        else .refuse (.wrongValue (.integer n.value) .singleEntry)
      | d => d.refuse .fieldName
    match value with
    | .null => pure i
    | d => d.refuse .unit
  | .mapping _ => .refuse (.wrongValue .mapping .singleEntry)
  | d => d.refuse .stringOrMapping

/-- `none` for `Datum.null`, and what `read` returns for any other datum. -/
def readOptional {α : Type} (read : Datum → Reading α) : Datum → Reading (Option α)
  | .null => pure none
  | d => some <$> read d

/-- The items of `Datum.list`, each read by `read`. -/
def readItems {α : Type} (read : Datum → Reading α) : Datum → Reading (List α)
  | .list items => items.mapM read
  | d => d.refuse .sequence

/-- The entries of `Datum.mapping`, with texts as keys and the values read by `read`. -/
def readEntries {α : Type} (read : Datum → Reading α) : Datum → Reading (List (String × α))
  | .mapping entries => entries.mapM fun (key, value) => do
    let key ← readText key
    let value ← read value
    return (key, value)
  | d => d.refuse .mapping

/-- The field with the name or at the position that the key is, or `none` if there is no such
field. -/
def fieldOf? (S : Shape) : Datum → Reading (Option S.Field)
  | .text name => pure (S.field? name)
  | .integer n => if n.negative then refuse (.integer n) .fieldName else pure S.fields[n.magnitude]?
  | d => d.refuse .fieldName

/-- Reads the entries of a mapping into the draft `d`. -/
def readFields (S : Shape) (read : (f : S.Field) → Datum → Reading (S.Content f)) (d : S.Draft) :
    List (Datum × Datum) → Reading S.Draft
  | [] => pure d
  | (key, value) :: entries => do
    match ← fieldOf? S key with
    | none => readFields S read d entries
    | some f =>
      if (d f).isSome then .refuse (.duplicateField (S.label f)) else
        let c ← read f value
        readFields S read (d.set f c) entries

/-- Reads the items of a list into the draft `d`, one for each of the fields that remain. The list
may end before fields that are `Shape.omissible`; `length` is its length and `position` the number
of items read, for the error messages. -/
def readElements (S : Shape) (read : (f : S.Field) → Datum → Reading (S.Content f)) (length : Nat) :
    (position : Nat) → S.Draft → List S.Field → List Datum → Reading S.Draft
  | _, d, [], [] => pure d
  | _, _, [], _ :: _ => .refuse (.wrongLength length .fewerElements)
  | i, d, f :: fs, [] =>
    if S.omissible f then readElements S read length (i + 1) d fs []
    else .refuse (.wrongLength i S.expectedElements)
  | i, d, f :: fs, item :: items => do
    let c ← read f item
    readElements S read length (i + 1) (d.set f c) fs items

/-- A record of the shape `S`, built from the draft that `readFields` or `readElements` returns. -/
def readRecord {α : Type} (S : Shape) (read : (f : S.Field) → Datum → Reading (S.Content f))
    (build : S.Draft → Except Cause α) : Datum → Reading α
  | .mapping entries => do .ofExcept (build (← readFields S read .empty entries))
  | .list items => do
    .ofExcept (build (← readElements S read items.length 0 .empty S.fields items))
  | d => d.refuse S.expected

end Datum

instance : Source Datum where
  text := Datum.readText
  flag := Datum.readFlag
  choice := Datum.readChoice
  optional := Datum.readOptional
  items := Datum.readItems
  entries := Datum.readEntries
  record := Datum.readRecord
  datum := pure
  depth := Datum.depth

end SwaggerRequests.Reading
