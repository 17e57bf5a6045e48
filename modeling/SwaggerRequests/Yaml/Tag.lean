/-!
# Tags

A `Tag` is the type annotation of a node. It is a sequence of octets and not a text, because a
percent sign in a tag can stand for any octet.

Two kinds of tags have a meaning for the program. The tags of `CoreTag` demand a kind of scalar
(`Tag.core?`, `resolveScalar`). Local tags start with an exclamation mark, and their name
(`Tag.localName?`) chooses among the options of a field or makes a datum `Datum.tagged`.
-/

namespace SwaggerRequests.Yaml

/-- A tag, as the list of its octets. `localName?` decodes them. -/
structure Tag where
  octets : List UInt8
  deriving DecidableEq, Repr

/-- The core tags that `resolveScalar` treats specially. -/
inductive CoreTag where
  | null
  | bool
  | int
  | float
  deriving DecidableEq, Repr

namespace Tag

/-- The tag with the UTF-8 octets of `s`. -/
def ofString (s : String) : Tag := ⟨s.toList.flatMap String.utf8EncodeChar⟩

/-- The tag with the octets `os` up to the first zero. -/
def ofOctets (os : List UInt8) : Tag := ⟨os.takeWhile (· != 0)⟩

/-- The octets of `t` and then those of `u`. -/
def append (t u : Tag) : Tag := ⟨t.octets ++ u.octets⟩

/-- The tag has no octets. -/
def isEmpty (t : Tag) : Bool := t.octets.isEmpty

/-- The common beginning of the core tags, the expansion of the handle `!!`. -/
def coreBeginning : Tag := ofString "tag:yaml.org,2002:"

/-- The core tag with the name `name`, behind `coreBeginning`. -/
def ofCoreName (name : String) : Tag := coreBeginning.append (ofString name)

/-- The `CoreTag` that the tag is, if it is one. -/
def core? (t : Tag) : Option CoreTag :=
  if t == ofCoreName "null" then some .null
  else if t == ofCoreName "bool" then some .bool
  else if t == ofCoreName "int" then some .int
  else if t == ofCoreName "float" then some .float
  else none

/-- The octet of the exclamation mark. -/
def mark : UInt8 := '!'.toUInt8

/-- The tag `!`. -/
def bare : Tag := ⟨[mark]⟩

/-- The first octet is `mark`. -/
def isLocal (t : Tag) : Bool := t.octets.head? == some mark

/-- The name of a local tag: the text behind the exclamation mark, or the mark itself in the tag
`!`. A tag whose octets are not UTF-8 has no name. -/
def localName? (t : Tag) : Option String :=
  match t.octets with
  | [] => none
  | o :: name =>
    if o == mark then String.fromUTF8? ⟨(if name.isEmpty then [o] else name).toArray⟩ else none

end Tag

end SwaggerRequests.Yaml
