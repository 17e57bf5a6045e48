import SwaggerRequests.Yaml.Token

/-!
# Nodes

A `Document` is a tree of nodes and the list of its anchored nodes. The leaves of the tree are
scalars, whose text is kept as it is written, and aliases, which refer to an anchored node by a
number. What a scalar means is decided later, by `Yaml.Resolution` and by the reader of the node
(`Spot`).

`Node.size` counts the events of a document. It bounds how many aliases may be followed when the
document is read (`Spot.root`).
-/

namespace SwaggerRequests.Yaml

/-- A node of a `Document`, with the `Mark` where it starts. -/
inductive Node where
  | scalar (mark : Mark) (tag : Option Tag) (style : Style) (text : String)
  | sequence (mark : Mark) (tag : Option Tag) (items : List Node)
  | mapping (mark : Mark) (tag : Option Tag) (entries : List (Node × Node))
  | alias (mark : Mark) (anchor : Nat)
  deriving Inhabited

namespace Node

/-- The node that stands for nothing written, at the place `m`. -/
def empty (m : Mark) : Node := .scalar m none .plain ""

/-- The `Mark` where a node starts. -/
def mark : Node → Mark
  | .scalar m _ _ _ | .sequence m _ _ | .mapping m _ _ | .alias m _ => m

/-- The tag of a node, `none` for an alias. -/
def tag : Node → Option Tag
  | .scalar _ t _ _ | .sequence _ t _ | .mapping _ t _ => t
  | .alias _ _ => none

mutual
/-- The number of events of a node: one for a scalar or an alias, and two more than those of its
content for a collection. -/
def size : Node → Nat
  | .scalar .. | .alias .. => 1
  | .sequence _ _ items => sizeItems items + 2
  | .mapping _ _ entries => sizeEntries entries + 2
/-- The sum of `size` over the items of a sequence. -/
def sizeItems : List Node → Nat
  | [] => 0
  | n :: ns => n.size + sizeItems ns
/-- The sum of `size` over the keys and values of a mapping. -/
def sizeEntries : List (Node × Node) → Nat
  | [] => 0
  | (k, v) :: es => k.size + v.size + sizeEntries es
end

end Node

/-- A document: its root, and the anchored nodes that `Node.alias` refers to. -/
structure Document where
  root : Node
  /-- the anchored nodes by their numbers; `anchor?` takes the first with a number -/
  anchors : List (Nat × Node)

/-- The anchored node with the number `n`. -/
def Document.anchor? (d : Document) (n : Nat) : Option Node := d.anchors.lookup n

end SwaggerRequests.Yaml
