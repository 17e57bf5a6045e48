/-!
# Ordered maps

`Entries α` is a map from strings that keeps the order in which its keys first came. `Entries.put`
sets the value of a key: a key that is already there takes the new value and keeps its position, a
new one goes to the end. `Entries.collect` builds a map from a list of pairs in this way.

The paths, definitions and shared parameters of a document and the properties of a schema are such
maps, and the descriptors of an operation are put into one to keep the last declaration of each name
(`keptByName`).
-/

namespace SwaggerRequests

/-- A map from strings, as the list of its entries in their order. -/
abbrev Entries (α : Type) := List (String × α)

namespace Entries

variable {α : Type}

/-- Sets the value of `key`, in its position if the map has it and at the end if not. -/
def put (key : String) (value : α) : Entries α → Entries α
  | [] => [(key, value)]
  | (k, v) :: es => if k = key then (key, value) :: es else (k, v) :: put key value es

/-- The map after each pair is added with `put`. -/
def collect (pairs : List (String × α)) : Entries α :=
  pairs.foldl (fun es (key, value) => es.put key value) []

end Entries

end SwaggerRequests
