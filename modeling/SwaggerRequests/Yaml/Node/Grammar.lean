import SwaggerRequests.Yaml.Node
import SwaggerRequests.Yaml.Token.Lexer

/-!
# From tokens to a document

`Document.ofTokens?` reads the tree of a document from its tokens, by recursive descent in the monad
`Reader`, and `Document.parse?` from its text.

The mutual functions follow the grammar. `Reader.node` reads a node: an alias, or an anchor and a
tag (`Reader.properties`) and then the content (`Reader.contentAt`), which is a scalar or one of the
block and flow collections. `Reader.single` reads a stream of one document with its directives. Each
round takes a token or goes to a smaller part of the grammar, so the bound on the rounds is a small
multiple of the number of tokens.

An anchor gets as its number the count of anchor names known when its node starts (`nameAnchor`). A
name that is used again therefore shares its number with the next new name, and of the nodes with
one number the last one to start counts.
-/

namespace SwaggerRequests.Yaml

namespace Document

/-- A node with an anchor. -/
structure Anchored where
  /-- the number in the `Node.alias` that refers to it -/
  number : Nat
  /-- how many anchors come before it -/
  order : Nat
  node : Node

/-- The state of a `Reader`. -/
structure State where
  /-- the tokens that remain -/
  rest : List Token
  /-- the declared handles of tags with their expansions -/
  handles : List (String × Tag)
  /-- the names of the anchors so far, with the number of the last anchor of each name -/
  names : List (String × Nat)
  /-- the number of anchors so far -/
  order : Nat
  /-- the anchored nodes that have been read -/
  anchored : List Anchored

/-- A reader of tokens, which fails if they are not well-formed. -/
abbrev Reader := StateT State Option

namespace Reader

/-- The next token. It fails behind `Word.streamEnd`. -/
def peek : Reader Token := fun s => s.rest.head?.map (·, s)

/-- Drops the next token. -/
def skip : Reader Unit := modify fun s => { s with rest := s.rest.drop 1 }

/-- The number and the order of the anchor `name` at a node that starts here. -/
def nameAnchor (name : String) : Reader (Nat × Nat) :=
  modifyGet fun s =>
    let number := s.names.length
    let names := (name, number) :: s.names.filter (·.1 != name)
    ((number, s.order), { s with names, order := s.order + 1 })

/-- Adds a node to `State.anchored`. -/
def putAnchored (a : Anchored) : Reader Unit :=
  modify fun s => { s with anchored := a :: s.anchored }

/-- The number of the last anchor `name`. -/
def anchorNumber (name : String) : Reader Nat := do (← get).names.lookup name

/-- The tag for a handle and a suffix. A tag without a handle is `suffix` itself. -/
def expandTag (handle : String) (suffix : Tag) : Reader Tag := do
  if handle.isEmpty then return suffix
  let expansion ← (← get).handles.lookup handle
  return expansion.append suffix

/-- The anchor and the tag before a node, in either order. The tag is expanded by `expandTag`. -/
def properties : Reader (Option String × Option Tag) := do
  match (← peek).word with
  | .anchor name =>
    skip
    match (← peek).word with
    | .tag handle suffix => skip; return (some name, some (← expandTag handle suffix))
    | _ => return (some name, none)
  | .tag handle suffix =>
    skip
    match (← peek).word with
    | .anchor name => skip; return (some name, some (← expandTag handle suffix))
    | _ => return (none, some (← expandTag handle suffix))
  | _ => return (none, none)

/-- The words after which a key or a value of a block mapping is empty: `Word.key`, `Word.value` and
`Word.blockEnd`. -/
def endsBlockPart : Word → Bool
  | .key | .value | .blockEnd => true
  | _ => false

mutual

/-- Reads a node. Block collections are refused unless `inBlock`, and a block sequence without a
start of its own unless `indentless`. -/
def node : Nat → (inBlock indentless : Bool) → Reader Node
  | 0, _, _ => failure
  | n + 1, inBlock, indentless => do
    let first ← peek
    if let .alias name := first.word then
      skip
      return .alias first.start (← anchorNumber name)
    let (anchor, tag) ← properties
    let placed ← anchor.mapM nameAnchor
    let content ← contentAt n inBlock indentless first.start anchor tag
    if let some (number, order) := placed then
      putAnchored ⟨number, order, content⟩
    return content

/-- Reads a node after its `properties`. -/
def contentAt : Nat → (inBlock indentless : Bool) → Mark → (anchor : Option String) →
    (tag : Option Tag) → Reader Node
  | 0, _, _, _, _, _ => failure
  | n + 1, inBlock, indentless, start, anchor, tag => do
    match (← peek).word with
    | .scalar text style =>
      skip
      return .scalar start tag style text
    | .flowSequenceStart => skip; return .sequence start tag (← flowItems n true)
    | .flowMappingStart => skip; return .mapping start tag (← flowEntries n true)
    | .blockEntry =>
      if indentless then return .sequence start tag (← indentlessItems n)
      else bare start anchor tag
    | .blockSequenceStart =>
      if inBlock then
        skip
        return .sequence start tag (← blockItems n)
      else bare start anchor tag
    | .blockMappingStart =>
      if inBlock then
        skip
        return .mapping start tag (← blockEntries n)
      else bare start anchor tag
    | _ => bare start anchor tag

/-- The empty scalar of a node without content. It needs an anchor or a tag. -/
def bare (start : Mark) (anchor : Option String) (tag : Option Tag) : Reader Node :=
  if anchor.isSome || tag.isSome then return .scalar start tag .plain "" else failure

/-- Reads the items of a block sequence up to `Word.blockEnd`. -/
def blockItems : Nat → Reader (List Node)
  | 0 => failure
  | n + 1 => do
    let t ← peek
    match t.word with
    | .blockEntry =>
      skip
      let item ← match (← peek).word with
        | .blockEntry | .blockEnd => pure (Node.empty t.stop)
        | _ => node n true false
      return item :: (← blockItems n)
    | .blockEnd => skip; return []
    | _ => failure

/-- Reads the items of a block sequence that has no `Word.blockSequenceStart`, because it is not
indented. -/
def indentlessItems : Nat → Reader (List Node)
  | 0 => failure
  | n + 1 => do
    let t ← peek
    match t.word with
    | .blockEntry =>
      skip
      let next := (← peek).word
      let item ←
        if next == .blockEntry || endsBlockPart next then pure (Node.empty t.stop)
        else node n true false
      return item :: (← indentlessItems n)
    | _ => return []

/-- Reads the entries of a block mapping up to `Word.blockEnd`. -/
def blockEntries : Nat → Reader (List (Node × Node))
  | 0 => failure
  | n + 1 => do
    let t ← peek
    match t.word with
    | .key =>
      skip
      let key ← blockPart n t
      let v ← peek
      let value ←
        if v.word == .value then do
          skip
          blockPart n v
        else pure (Node.empty v.start)
      return (key, value) :: (← blockEntries n)
    | .blockEnd => skip; return []
    | _ => failure

/-- Reads the key or value after the token `indicator`, which is `Word.key` or `Word.value`. -/
def blockPart : Nat → Token → Reader Node
  | 0, _ => failure
  | n + 1, indicator => do
    if endsBlockPart (← peek).word then return Node.empty indicator.stop
    else node n true true

/-- Reads the items of a flow sequence up to `Word.flowSequenceEnd`. An item with `Word.key` is a
mapping of one entry. -/
def flowItems : Nat → (first : Bool) → Reader (List Node)
  | 0, _ => failure
  | n + 1, first => do
    if (← peek).word == .flowSequenceEnd then
      skip
      return []
    unless first do
      if (← peek).word == .flowEntry then skip else failure
    let t ← peek
    match t.word with
    | .flowSequenceEnd => skip; return []
    | .key =>
      skip
      let k ← peek
      let key ← match k.word with
        | .value | .flowEntry | .flowSequenceEnd => do
          skip
          pure (Node.empty k.stop)
        | _ => node n false false
      let value ← flowValue n
      return .mapping t.start none [(key, value)] :: (← flowItems n false)
    | _ =>
      let item ← node n false false
      return item :: (← flowItems n false)

/-- Reads the entries of a flow mapping up to `Word.flowMappingEnd`. -/
def flowEntries : Nat → (first : Bool) → Reader (List (Node × Node))
  | 0, _ => failure
  | n + 1, first => do
    if (← peek).word == .flowMappingEnd then
      skip
      return []
    unless first do
      if (← peek).word == .flowEntry then skip else failure
    match (← peek).word with
    | .flowMappingEnd => skip; return []
    | .key =>
      skip
      let k ← peek
      let key ← match k.word with
        | .value | .flowEntry | .flowMappingEnd => pure (Node.empty k.start)
        | _ => node n false false
      let value ← flowValue n
      return (key, value) :: (← flowEntries n false)
    | _ =>
      let key ← node n false false
      let value := Node.empty (← peek).start
      return (key, value) :: (← flowEntries n false)

/-- Reads the value of an entry of a flow collection. Without `Word.value` it is empty. -/
def flowValue : Nat → Reader Node
  | 0 => failure
  | n + 1 => do
    let t ← peek
    if t.word == .value then
      skip
      let v ← peek
      match v.word with
      | .flowEntry | .flowMappingEnd | .flowSequenceEnd => return Node.empty v.start
      | _ => node n false false
    else return Node.empty t.start

end

/-- Reads the directives before a document. A second version is refused (`versioned`), and so is a
second declaration of a handle. -/
def directives : Nat → (versioned : Bool) → Reader Unit
  | 0, _ => failure
  | n + 1, versioned => do
    match (← peek).word with
    | .versionDirective major minor =>
      if versioned || major != 1 || (minor != 1 && minor != 2) then failure
      skip
      directives n true
    | .tagDirective handle expansion =>
      if ((← get).handles.lookup handle).isSome then failure
      modify fun s => { s with handles := (handle, expansion) :: s.handles }
      skip
      directives n versioned
    | _ => return

/-- The handles `!` and `!!`, which a document may declare differently. -/
def defaultHandles : List (String × Tag) := [("!", .bare), ("!!", .coreBeginning)]

/-- Reads a document that starts with `directives` or with `Word.documentStart`. -/
def announced (n : Nat) : Reader Node := do
  directives n false
  modify fun s => { s with handles := s.handles ++ defaultHandles }
  if (← peek).word != .documentStart then failure
  skip
  let t ← peek
  match t.word with
  | .versionDirective .. | .tagDirective .. | .documentStart | .documentEnd | .streamEnd =>
    return Node.empty t.start
  | _ => node n true false

/-- Drops all `Word.documentEnd`. -/
def documentEnds : Nat → Reader Unit
  | 0 => failure
  | n + 1 => do
    if (← peek).word == .documentEnd then
      skip
      documentEnds n

/-- Reads a stream with one document. If there is none, the root is empty. -/
def single (n : Nat) : Reader Node := do
  let t ← peek
  let root ← match t.word with
    | .streamEnd => return Node.empty t.start
    | .versionDirective .. | .tagDirective .. | .documentStart => announced n
    | _ =>
      modify fun s => { s with handles := defaultHandles }
      node n true false
  documentEnds n
  if (← peek).word == .streamEnd then return root else failure

end Reader

/-- The document with the tokens `ts`, by `Reader.single`. -/
def ofTokens? (ts : List Token) : Option Document := do
  let (root, s) ← Reader.single (4 * ts.length + 4) ⟨ts, [], [], 0, []⟩
  let newestFirst := s.anchored.mergeSort fun a b => b.order ≤ a.order
  return ⟨root, newestFirst.map fun a => (a.number, a.node)⟩

/-- The only document of a text, or `none` if the text is not well-formed or has several
documents. -/
def parse? (text : String) : Option Document := tokens? text >>= ofTokens?

end Document

end SwaggerRequests.Yaml
