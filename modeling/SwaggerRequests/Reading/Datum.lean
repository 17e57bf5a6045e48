import SwaggerRequests.Reading.Cause

/-!
# Data

A `Datum` is a value whose kind is known. A node of a YAML document becomes a datum when it is read
without an expectation, as the version and the descriptors of a parameter list are
(`Spot.readDatum`). Descriptors are then read from the datum, because they are tried as a reference
first and as a parameter second (`Descriptor.ofDatum?`).

`Datum.same` is the equality of data that mappings compare their keys by: the order of entries does
not matter, and a number equals no integer. `Datum.depth` bounds the recursion of the readers, and
`Datum.found` is the datum in an error message.
-/

namespace SwaggerRequests.Reading

/-- An integer as a sign and a magnitude, so that `-0` is not `0`. -/
structure Numeral where
  negative : Bool
  magnitude : Nat
  deriving DecidableEq, Repr, Inhabited

/-- The integer with the given sign and magnitude. -/
def Numeral.value (n : Numeral) : Int := if n.negative then -n.magnitude else n.magnitude

/-- A value of a known kind. The entries of a mapping keep their order and may have equal keys. -/
inductive Datum where
  | null
  | boolean (b : Bool)
  | integer (n : Numeral)
  | number (x : Decimal.Binary)
  | text (s : String)
  | list (items : List Datum)
  | mapping (entries : List (Datum × Datum))
  /-- a value with the local tag `!tag` -/
  | tagged (tag : String) (content : Datum)
  deriving Inhabited

namespace Datum

/-- The name of a local tag, without one more exclamation mark at its start if something follows it.
`Datum.same` compares tags by this, so a mark that is written twice counts once. -/
def unmarked (tag : String) : List Char :=
  match tag.toList with
  | '!' :: c :: cs => c :: cs
  | cs => cs

mutual
/-- Equality of data, where `Datum.mapping` is equal in any order of the entries, and tags are
compared with `unmarked`. -/
def same : Datum → Datum → Bool
  | .null, .null => true
  | .boolean b, .boolean c => b == c
  | .integer m, .integer n => m.value == n.value
  | .number x, .number y => x.same y
  | .text s, .text t => s == t
  | .list xs, .list ys => sameItems xs ys
  | .mapping es, .mapping fs => es.length == fs.length && entriesIn es fs
  | .tagged t d, .tagged u e => unmarked t == unmarked u && d.same e
  | _, _ => false
/-- Equality of lists of data, item by item. -/
def sameItems : List Datum → List Datum → Bool
  | [], [] => true
  | x :: xs, y :: ys => x.same y && sameItems xs ys
  | _, _ => false
/-- Every entry of the first mapping is `same` as one of the second. -/
def entriesIn : List (Datum × Datum) → List (Datum × Datum) → Bool
  | [], _ => true
  | (k, v) :: es, fs => fs.any (fun (l, w) => k.same l && v.same w) && entriesIn es fs
end

mutual
/-- How deep `Datum.list` and `Datum.mapping` are nested, `0` for a leaf. -/
def depth : Datum → Nat
  | .list xs => depthItems xs + 1
  | .mapping es => depthEntries es + 1
  | .tagged _ d => d.depth
  | _ => 0
/-- The greatest `depth` of an item. -/
def depthItems : List Datum → Nat
  | [] => 0
  | x :: xs => max x.depth (depthItems xs)
/-- The greatest `depth` of the value of an entry. -/
def depthEntries : List (Datum × Datum) → Nat
  | [] => 0
  | (_, v) :: es => max v.depth (depthEntries es)
end

/-- The datum as a `Found`, for error messages. -/
def found : Datum → Found
  | .null => .null
  | .boolean b => .boolean b
  | .integer n => .integer n.value
  | .number x => .number x
  | .text s => .text s
  | .list _ => .sequence
  | .mapping _ => .mapping
  | .tagged _ d => d.found

end Datum

end SwaggerRequests.Reading
