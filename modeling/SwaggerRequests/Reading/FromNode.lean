import SwaggerRequests.Reading.Shape
import SwaggerRequests.Yaml.Resolution

/-!
# Reading nodes

The instance `Source Spot`: how the kinds of values are read from the nodes of a YAML document. A
`Spot` is a node together with the document, in which aliases are looked up, and the two limits of
reading: collections are nested at most `maxDepth` deep, and aliases are followed at most a hundred
times for every event of the document.

What a scalar means depends on the reader. A reader that asks for a text takes the text of every
scalar (`textAs`), and one that asks for a boolean or null decides by tag, style and text
(`readFlag`, `isNull`). The empty plain scalar is an empty collection where a collection is asked
for (`isAbsent`). Only `readDatum`, which asks for nothing in particular, and the error messages use
the meaning that a scalar has by itself, `resolveScalar`.

All readers first `follow` an alias and then let their node claim the failures
(`Reading.claimedAt`).
-/

namespace SwaggerRequests.Reading

open SwaggerRequests.Yaml

/-- A node of a document, with what remains of the limits. -/
structure Spot where
  /-- the document, in which aliases are looked up -/
  document : Yaml.Document
  /-- the number of aliases that `follow` may follow in all -/
  aliasLimit : Nat
  /-- the number of collections that `enter` may still enter -/
  depth : Nat
  /-- the node to read -/
  node : Node

namespace Spot

/-- The greatest depth of nested collections, the `depth` of the `root`. -/
def maxDepth : Nat := 128

/-- The root of a document. The limit for aliases is a hundred times the number of its nodes. -/
def root (d : Yaml.Document) : Spot := ⟨d, 100 * d.root.size, maxDepth, d.root⟩

/-- The node `n` of the same document, with the same `depth`. -/
def goto (s : Spot) (n : Node) : Spot := { s with node := n }

/-- The node that an alias points to, and any other node itself. It counts the alias and fails with
`Cause.tooManyAliases` beyond the limit. Anchored nodes are not aliases, so one step is enough. -/
def follow (s : Spot) : Reading Spot := do
  match s.node with
  | .alias m number =>
    modify (· + 1)
    if s.aliasLimit < (← get) then .refuse .tooManyAliases
    match s.document.anchor? number with
    | some n => return s.goto n
    | none => return s.goto (.empty m)
  | _ => return s

/-- Goes one collection deeper, or fails with `Cause.tooDeep`. -/
def enter (s : Spot) : Reading Spot :=
  match s.depth with
  | 0 => Reading.claimedAt s.node.mark (.refuse .tooDeep)
  | depth + 1 => pure { s with depth }

/-- Fails with `Cause.wrongKind`. What was found in a scalar is said by `resolveScalar`. -/
def refuse {α : Type} (s : Spot) (expected : Expected) : Reading α :=
  match s.node with
  | .scalar _ tag style text =>
    match resolveScalar tag style text with
    | .ok d => .refuse (.wrongKind (foundInDocument d) expected)
    | .error cause => .refuse cause
  | .sequence .. => .refuse (.wrongKind .sequence expected)
  | .mapping .. => .refuse (.wrongKind .mapping expected)
  | .alias .. => .refuse (.wrongKind .unit expected)

/-- The text of a scalar of any style and tag. Other nodes are refused, with `expected` in the
message. -/
def textAs (expected : Expected) (s : Spot) : Reading String := do
  let s ← s.follow
  Reading.claimedAt s.node.mark <|
    match s.node with
    | .scalar _ _ _ text => pure text
    | _ => s.refuse expected

/-- The scalar can mean a boolean: it is plain, or literal with the tag `!!bool`. -/
def mayBeFlag (tag : Option Tag) (style : Style) : Bool :=
  style == .plain || (style == .literal && tag.bind Tag.core? == some .bool)

/-- The boolean that `boolean?` finds in a scalar. -/
def readFlag (s : Spot) : Reading Bool := do
  let s ← s.follow
  Reading.claimedAt s.node.mark <|
    match s.node with
    | .scalar _ tag style text =>
      match if mayBeFlag tag style then boolean? text else none with
      | some b => pure b
      | none => s.refuse .boolean
    | _ => s.refuse .boolean

/-- The node is an empty plain scalar. It is read as an empty list, mapping or record. -/
def isAbsent : Node → Bool
  | .scalar _ _ .plain "" => true
  | _ => false

/-- Whether a node is null: a plain scalar whose text `isNullText`. Another text is an error with
the tag `!!null`, and a scalar with any other tag is not null. -/
def isNull : Node → Except Cause Bool
  | .scalar _ tag .plain text =>
    match tag with
    | none => .ok (text.isEmpty || isNullText text)
    | some tag =>
      if tag.core? == some .null then
        if isNullText text then .ok true else .error (.wrongValue (.text text) .null)
      else .ok false
  | _ => .ok false

/-- `none` if the node `isNull`, and what `read` returns for any other node. -/
def readOptional {α : Type} (read : Spot → Reading α) (s : Spot) : Reading (Option α) := do
  let s ← s.follow
  if ← .ofExcept (isNull s.node) then return none
  some <$> read s

/-- Reads each item of a sequence, from the index `i` on. -/
def eachItem {α : Type} (read : Spot → Reading α) (s : Spot) : Nat → List Node → Reading (List α)
  | _, [] => pure []
  | i, n :: ns => do
    let a ← Reading.within (.item i) (read (s.goto n))
    return a :: (← eachItem read s (i + 1) ns)

/-- The items of a sequence, each read by `read`. -/
def readItems {α : Type} (read : Spot → Reading α) (s : Spot) : Reading (List α) := do
  let s ← s.follow
  Reading.claimedAt s.node.mark do
    match s.node with
    | .sequence _ _ items => eachItem read (← s.enter) 0 items
    | n => if isAbsent n then pure [] else s.refuse .sequence

/-- The `Segment` for the value of an entry with the given key. -/
def segment : Node → Segment
  | .scalar _ _ _ text => .key text
  | _ => .unnamedKey

/-- Reads the key and the value of each entry of a mapping, with `readKey` and `read`. -/
def eachEntry {κ α : Type} (readKey : Spot → Reading κ) (read : Spot → Reading α) (s : Spot) :
    List (Node × Node) → Reading (List (κ × α))
  | [] => pure []
  | (k, v) :: entries => do
    let key ← readKey (s.goto k)
    let value ← Reading.within (segment k) (read (s.goto v))
    return (key, value) :: (← eachEntry readKey read s entries)

/-- The entries of a mapping, with texts as keys and the values read by `read`. -/
def readEntries {α : Type} (read : Spot → Reading α) (s : Spot) :
    Reading (List (String × α)) := do
  let s ← s.follow
  Reading.claimedAt s.node.mark do
    match s.node with
    | .mapping _ _ entries => eachEntry (textAs .string) read (← s.enter) entries
    | n => if isAbsent n then pure [] else s.refuse .mapping

/-- Reads the entries of a mapping into the draft `d`. Fields with unknown names are left out. -/
def readFields (S : Shape) (read : (f : S.Field) → Spot → Reading (S.Content f)) (s : Spot)
    (d : S.Draft) : List (Node × Node) → Reading S.Draft
  | [] => pure d
  | (k, v) :: entries => do
    match S.field? (← textAs .fieldName (s.goto k)) with
    | none => readFields S read s d entries
    | some f =>
      if (d f).isSome then .refuse (.duplicateField (S.label f)) else
        let c ← Reading.within (segment k) (read f (s.goto v))
        readFields S read s (d.set f c) entries

/-- A record of the shape `S`, built from the draft that `readFields` returns for a mapping. -/
def readRecord {α : Type} (S : Shape) (read : (f : S.Field) → Spot → Reading (S.Content f))
    (build : S.Draft → Except Cause α) (s : Spot) : Reading α := do
  let s ← s.follow
  Reading.claimedAt s.node.mark do
    match s.node with
    | .mapping _ _ entries =>
      .ofExcept (build (← readFields S read (← s.enter) .empty entries))
    | n => if isAbsent n then .ofExcept (build .empty) else s.refuse S.expected

/-- The position of a name among `names`. It is the text of a scalar, or the local tag of a node
that is null. An alias claims the failures that its node does not claim. -/
def readChoice (names : List String) (s : Spot) : Reading Nat :=
  match s.node with
  | .alias m _ => Reading.claimedAt m do choose (← s.follow)
  | _ => choose s
where
  /-- The position of a name. -/
  position (name : String) : Reading Nat :=
    match names.findIdx? (· == name) with
    | some i => pure i
    | none => .refuse (.unknownOption name names)
  /-- The position of the name that a node is. An unknown name is not the fault of the node whose
  tag it is. -/
  choose (s : Spot) : Reading Nat :=
    match s.node.tag.bind Tag.localName? with
    | some name => do
      let i ← position name
      Reading.claimedAt s.node.mark <|
        match s.node with
        | .scalar _ _ style text =>
          if style == .plain && (text.isEmpty || isNullText text) then pure i
          else .refuse (.wrongValue (.text text) .null)
        | _ => s.refuse .unit
    | none =>
      Reading.claimedAt s.node.mark <|
        match s.node with
        | .scalar _ _ _ text => position text
        | _ => s.refuse .tag

/-! ## Nodes that nothing is known about -/

/-- What `readDatum` is asked for. -/
inductive Purpose where
  /-- for `Descriptor.read`, so the node may not have a local tag -/
  | variant
  /-- for a value of its own, so its mappings may not have equal keys -/
  | value
  deriving DecidableEq

/-- The integer is outside of 64 bits, so a `Datum` cannot hold it. -/
def isWide (n : Numeral) : Bool :=
  if n.negative then 1 <<< 63 < n.magnitude else 1 <<< 64 ≤ n.magnitude

/-- The datum that `resolveScalar` returns for a scalar, unless it is an integer that `isWide`. -/
def scalarDatum (tag : Option Tag) (style : Style) (text : String) : Reading Datum := do
  match ← .ofExcept (resolveScalar tag style text) with
  | .integer n =>
    if isWide n then .refuse (.wrongKind (.integer n.value) .anyValue) else return .integer n
  | d => return d

/-- Fails with `Cause.duplicateEntry` if two keys of a mapping are the `same`, when the purpose is
`Purpose.value`. -/
def checkKeys (purpose : Purpose) (entries : List (Datum × Datum)) : Reading Unit :=
  if purpose == .value && !distinct entries then .refuse .duplicateEntry else pure ()
where
  /-- No key occurs twice. -/
  distinct : List (Datum × Datum) → Bool
    | [] => true
    | (k, _) :: es => es.all (fun (l, _) => !k.same l) && distinct es

/-- The datum of a node, with its tag if it has a local one. The first argument bounds the depth of
the recursion (`Cause.tooDeep`). -/
def readDatum (purpose : Purpose) : Nat → Spot → Reading Datum
  | 0, _ => .refuse .tooDeep
  | n + 1, s => do
    let s ← s.follow
    Reading.claimedAt s.node.mark do
      let localTag := s.node.tag.bind Tag.localName?
      if localTag.isSome && purpose == .variant then .refuse .localTag
      let content ← match s.node with
        | .scalar _ tag style text =>
          scalarDatum (if localTag.isSome then none else tag) style text
        | .sequence _ _ items => Datum.list <$> eachItem (readDatum purpose n) (← s.enter) 0 items
        | .mapping _ _ entries => do
          let entries ←
            eachEntry (readDatum purpose n) (readDatum purpose n) (← s.enter) entries
          checkKeys purpose entries
          pure (Datum.mapping entries)
        | .alias .. => pure Datum.null
      return match localTag with
        | some tag => .tagged tag content
        | none => content

end Spot

instance : Source Spot where
  text := Spot.textAs .string
  flag := Spot.readFlag
  choice := Spot.readChoice
  optional := Spot.readOptional
  items := Spot.readItems
  entries := Spot.readEntries
  record := Spot.readRecord
  datum s := Spot.readDatum .variant (s.depth + 1) s
  depth := Spot.depth

end SwaggerRequests.Reading
