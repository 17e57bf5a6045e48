import SwaggerRequests.Load
import SwaggerRequests.Proofs.Spellings
import SwaggerRequests.Proofs.Writing

/-!
# Documents are read back

`Document.read` is a left inverse of writing. `Document.WrittenAs` relates a document to the data
that it may be written as, and `Document.read_of_writtenAs` states that

* every document with distinct keys is written as some datum,
* `Document.read` of any such datum is the document,
* `Document.read` of any YAML document that spells such a datum (`Node.Spells`) is the document.

The second and the third are `undoes_read` from `Writing`, at the two instances of `LawfulSource`.
The first is proved here, along the definition of the model: `Distinct` says for each kind of record
that the maps in it have distinct keys, and `Distinct.writes` that the record can be written. For
schemas the bound of `WrittenWithin` is taken from `sizeOf`.

`Document.load_of_writtenAs` extends this to texts. A text that parses as such a YAML document and
declares an accepted version, `VersionDeclaration.WrittenAs`, is loaded as the document. The version
is read from the same datum with a layout of its own.
-/

namespace SwaggerRequests

open Reading

/-! ## Maps with distinct keys

A map with a key twice cannot be written, since `Layout.Writes` and `Form.map` ask for distinct
keys. -/

/-- The keys are distinct, and every value is `inside`. -/
def Entries.Distinct {α : Type} (inside : α → Prop) (es : Entries α) : Prop :=
  es.keys.Nodup ∧ ∀ e ∈ es, inside e.2

namespace Schema

/-- The properties of the schema have distinct names, and the schemas in `items` and `properties`
are `Distinct`. -/
inductive Distinct : Schema → Prop
  | mk {s : Schema} (items : ∀ t ∈ s.items, Distinct t) (names : (Entries.keys s.properties).Nodup)
    (properties : ∀ p ∈ s.properties, Distinct p.2) : Distinct s

theorem sizeOf_items_lt {s t : Schema} (h : t ∈ s.items) : sizeOf t < sizeOf s := by
  obtain ⟨_, _, _, items, _, _, _⟩ := s
  obtain rfl : items = some t := h
  simp only [mk.sizeOf_spec, Option.some.sizeOf_spec]
  omega

theorem sizeOf_property_lt {s : Schema} {p : String × Schema} (h : p ∈ s.properties) :
    sizeOf p.2 < sizeOf s := by
  obtain ⟨_, _, _, _, properties, _, _⟩ := s
  obtain ⟨k, t⟩ := p
  have hmem := List.sizeOf_lt_of_mem h
  simp only [mk.sizeOf_spec, Prod.mk.sizeOf_spec] at hmem ⊢
  omega

/-- A schema can be written within any bound above its size. The induction is on the bound, and the
schemas inside are smaller. The size serves as the bound because `WrittenWithin` decreases by one in
each schema inside. -/
theorem writes_writtenWithin {n : Nat} {s : Schema} (hs : s.Distinct) (hn : sizeOf s < n) :
    Form.Writes (WrittenWithin n) s := by
  induction n generalizing s with
  | zero => exact absurd hn (Nat.not_lt_zero _)
  | succ n ih =>
    obtain ⟨hitems, hnames, hproperties⟩ := hs
    apply Layout.writes_record named_shape
    intro f
    cases f with
    | items =>
      refine Form.writes_optional fun t ht => ih (hitems t ht) ?_
      exact Nat.lt_of_lt_of_le (sizeOf_items_lt ht) (Nat.le_of_lt_succ hn)
    | properties =>
      refine Form.writes_map hnames fun p hp => ih (hproperties p hp) ?_
      exact Nat.lt_of_lt_of_le (sizeOf_property_lt hp) (Nat.le_of_lt_succ hn)
    | required => exact Form.writes_items fun s _ => Form.writes_text s
    | _ => exact Form.writes_optional fun s _ => Form.writes_text s

/-- A schema with distinct names can be written. -/
theorem Distinct.writes {s : Schema} (hs : s.Distinct) : Form.Writes WrittenAs s := by
  obtain ⟨d, hd⟩ := writes_writtenWithin hs (Nat.lt_succ_self _)
  exact ⟨d, _, hd⟩

end Schema

/-- The schemas in `schema` and `items` are `Distinct`. -/
def Parameter.Distinct (p : Parameter) : Prop :=
  (∀ s ∈ p.schema, s.Distinct) ∧ ∀ s ∈ p.items, s.Distinct

/-- Every field of such a parameter can be written. -/
theorem Parameter.Distinct.writes_form {p : Parameter} (hp : p.Distinct) (f : shape.Field) :
    (layout.form f).Writes (p.content f) := by
  cases f with
  | name => exact Form.writes_text _
  | location => exact ⟨_, rfl⟩
  | required => exact Form.writes_flag _
  | schema => exact Form.writes_optional fun s hs => (hp.1 s hs).writes
  | items => exact Form.writes_optional fun s hs => (hp.2 s hs).writes
  | _ => exact Form.writes_optional fun s _ => Form.writes_text s

/-- The parameter is `Distinct` if the descriptor is inline. -/
def Descriptor.Distinct : Descriptor → Prop
  | .reference _ _ => True
  | .inline p => p.Distinct

/-- A descriptor can be written, as a reference or as a mapping without `$ref`. The mapping is
written by `Layout.exists_writes` with keys that are labels, and `$ref` is not the label of a field
of a parameter. -/
theorem Descriptor.Distinct.writes {r : Descriptor} (hr : r.Distinct) :
    Form.Writes WrittenAs r := by
  cases r with
  | reference target name =>
    have hforms : ∀ f, (referenceLayout.form f).Writes (referenceContent target name f) := by
      rintro (_ | _)
      · exact Form.writes_text target
      · exact Form.writes_optional fun s _ => Form.writes_text s
    obtain ⟨es, hes, -⟩ := Layout.exists_writes named_referenceShape hforms
    exact ⟨_, es, rfl, hes⟩
  | inline p =>
    obtain ⟨es, hes, hkeys⟩ := Layout.exists_writes Parameter.named_shape hr.writes_form
    refine ⟨_, es, rfl, hes, fun htarget => ?_⟩
    obtain ⟨f, hf⟩ := hkeys _ htarget
    cases f <;> exact absurd hf (by decide)

/-- The descriptors of the operation are `Distinct`. -/
def Operation.Distinct (o : Operation) : Prop := ∀ r ∈ o.parameters, r.Distinct

theorem Operation.Distinct.writes {o : Operation} (ho : o.Distinct) : Form.Writes WrittenAs o := by
  apply Layout.writes_record named_shape
  intro f
  cases f with
  | tags => exact Form.writes_items fun s _ => Form.writes_text s
  | consumes => exact Form.writes_items fun s _ => Form.writes_text s
  | parameters => exact Form.writes_items fun r hr => (ho r hr).writes
  | deprecated => exact Form.writes_flag _
  | _ => exact Form.writes_optional fun s _ => Form.writes_text s

/-- The operations and the shared descriptors of the path are `Distinct`. -/
def PathItem.Distinct (item : PathItem) : Prop :=
  (∀ m, ∀ o ∈ item.operation? m, o.Distinct) ∧ ∀ r ∈ item.parameters, r.Distinct

theorem PathItem.Distinct.writes {item : PathItem} (h : item.Distinct) :
    Form.Writes WrittenAs item := by
  apply Layout.writes_record named_shape
  rintro (m | _)
  · exact Form.writes_optional fun o ho => (h.1 m o ho).writes
  · exact Form.writes_items fun r hr => (h.2 r hr).writes

theorem Info.writes (info : Info) : Form.Writes WrittenAs info :=
  Layout.writes_record named_shape fun _ => Form.writes_optional fun s _ => Form.writes_text s

/-- All maps of a document have distinct keys, at every depth. -/
structure Document.Distinct (s : Document) : Prop where
  /-- the paths, and the schemas in their operations -/
  paths : s.paths.Distinct PathItem.Distinct
  /-- the definitions, and the properties in them -/
  definitions : s.definitions.Distinct Schema.Distinct
  /-- the shared parameters, and the properties in them -/
  parameters : s.parameters.Distinct Parameter.Distinct

/-- A document with distinct keys can be written. -/
theorem Document.Distinct.writes {s : Document} (hs : s.Distinct) : Form.Writes WrittenAs s := by
  apply Layout.writes_record named_shape
  intro f
  cases f with
  | info => exact s.info.writes
  | basePath => exact Form.writes_optional fun s _ => Form.writes_text s
  | consumes => exact Form.writes_items fun s _ => Form.writes_text s
  | paths => exact Form.writes_map hs.paths.1 fun e he => (hs.paths.2 e he).writes
  | definitions =>
    exact Form.writes_map hs.definitions.1 fun e he => (hs.definitions.2 e he).writes
  | parameters =>
    exact Form.writes_map hs.parameters.1 fun e he =>
      Layout.writes_record Parameter.named_shape (hs.parameters.2 e he).writes_form

/-! ## Reading what is written

The theorem, and a document with an inline parameter, a reference, an unknown key and an explicit
null. -/

namespace Document

/-- **Reading undoes writing.** A document with distinct keys can be written. Let `d` be a datum
that it is written as.

* `read d` is the document.
* `read` of every YAML document whose root spells `d`, nested at most `Spot.maxDepth` deep, is the
  document.

In `d` the fields of a record may be in any order, a field with its default may be present or left
out, and there may be other keys. -/
theorem read_of_writtenAs {s : Document} (hs : s.Distinct) :
    (∃ d, s.WrittenAs d) ∧
    ∀ d, s.WrittenAs d →
      (read d).outcome = .ok s ∧
      ∀ yaml : Yaml.Document, yaml.root.Spells Spot.maxDepth d →
        (read (Spot.root yaml)).outcome = .ok s := by
  refine ⟨hs.writes, fun d hd => ⟨?_, fun yaml hyaml => ?_⟩⟩
  · rw [undoes_read s d hd d rfl]
    rfl
  · rw [undoes_read s d hd (Spot.root yaml) hyaml]
    rfl

/-- An inline parameter with a schema and a reference with a name. -/
def tagAndLimit : List Descriptor :=
  let items : Schema := { Schema.any with type := "string" }
  [.inline ⟨"tag", .query, false, none, none, none, none, some items⟩,
    .reference "limit" (some "size")]

/-- A path whose `get` operation has the descriptors `tagAndLimit`. -/
def taggedPets : PathItem where
  operation? m := if m = .get then some { Operation.empty with parameters := tagAndLimit } else none
  parameters := []

/-- A datum that `tagAndLimit` is written as, with an unknown key. -/
def tagAndLimitTree : Datum := .list [
  .ofEntries [("in", .text "query"), ("x", .integer ⟨false, 5⟩), ("name", .text "tag"),
    ("items", .ofEntries [("type", .text "string")])],
  .ofEntries [("name", .text "size"), ("$ref", .text "limit")]]

/-- A datum that the document with the path `taggedPets` is written as. The field `summary` is
null. -/
def taggedPetsTree : Datum := .ofEntries [
  ("paths", .ofEntries [("/pets", .ofEntries [
    ("get", .ofEntries [("parameters", tagAndLimitTree), ("summary", .null)])])]),
  ("swagger", .text "2.0")]

theorem tagAndLimit_distinct : ∀ r ∈ tagAndLimit, r.Distinct := by
  have hitems : Schema.Distinct { Schema.any with type := "string" } :=
    .mk nofun List.nodup_nil nofun
  refine List.forall_mem_cons.mpr ⟨⟨nofun, ?_⟩, List.forall_mem_singleton.mpr trivial⟩
  rintro s ⟨⟩
  exact hitems

theorem taggedPets_distinct : Distinct { empty with paths := [("/pets", taggedPets)] } := by
  have hpets : taggedPets.Distinct := by
    refine ⟨fun m o ho => ?_, nofun⟩
    cases m <;> cases ho
    exact tagAndLimit_distinct
  exact ⟨⟨by decide, List.forall_mem_singleton.mpr hpets⟩, ⟨by decide, nofun⟩, ⟨by decide, nofun⟩⟩

theorem tagAndLimit_writtenAs : Form.items Descriptor.WrittenAs tagAndLimit tagAndLimitTree := by
  have hitems : Schema.WrittenAs { Schema.any with type := "string" }
      (.ofEntries [("type", .text "string")]) := by
    refine ⟨1, _, rfl, by decide, fun f => ?_⟩
    cases f <;> rfl
  refine ⟨_, rfl, .cons ⟨_, rfl, ⟨by decide, fun f => ?_⟩, by decide⟩
    (.cons ⟨_, rfl, by decide, fun f => ?_⟩ .nil)⟩
  · cases f <;> first | rfl | exact hitems
  · cases f <;> rfl

theorem taggedPets_writtenAs :
    WrittenAs { empty with paths := [("/pets", taggedPets)] } taggedPetsTree := by
  have hget : Operation.WrittenAs { Operation.empty with parameters := tagAndLimit }
      (.ofEntries [("parameters", tagAndLimitTree), ("summary", .null)]) := by
    refine ⟨_, rfl, by decide, fun f => ?_⟩
    cases f <;> first | rfl | exact tagAndLimit_writtenAs
  have hpets : PathItem.WrittenAs taggedPets (.ofEntries [
      ("get", .ofEntries [("parameters", tagAndLimitTree), ("summary", .null)])]) := by
    refine ⟨_, rfl, by decide, ?_⟩
    rintro (m | _)
    · cases m <;> first | rfl | exact hget
    · rfl
  refine ⟨_, rfl, by decide, fun f => ?_⟩
  cases f <;> first | rfl | exact ⟨_, rfl, by decide, .cons ⟨rfl, hpets⟩ .nil⟩

/-- A YAML document that spells `taggedPetsTree`. The marks of its nodes are all the same, since
they do not matter. -/
def taggedPetsYaml : Yaml.Document :=
  let m : Yaml.Mark := ⟨0, 0, 0⟩
  let plain := Yaml.Node.scalar m none .plain
  let mapping (entries : List (String × Yaml.Node)) : Yaml.Node :=
    .mapping m none (entries.map fun e => (plain e.1, e.2))
  let tag := mapping [("in", plain "query"), ("x", plain "5"), ("name", plain "tag"),
    ("items", mapping [("type", plain "string")])]
  let limit := mapping [("name", plain "size"), ("$ref", plain "limit")]
  let get := mapping [("parameters", .sequence m none [tag, limit]), ("summary", plain "~")]
  ⟨mapping [("paths", mapping [("/pets", mapping [("get", get)])]),
    ("swagger", .scalar m none .singleQuoted "2.0")], []⟩

theorem taggedPetsYaml_spells : taggedPetsYaml.root.Spells Spot.maxDepth taggedPetsTree := by
  simp only [taggedPetsYaml, taggedPetsTree, tagAndLimitTree, Datum.ofEntries, List.map_cons,
    List.map_nil, Spot.maxDepth, Yaml.Node.Spells, List.forall₂_cons]
  and_intros
  all_goals first
    | exact .nil
    | rfl
    | exact fun _ h => by cases h <;> rfl

theorem read_of_writtenAs_taggedPets :
    (read taggedPetsTree).outcome = .ok { empty with paths := [("/pets", taggedPets)] } ∧
    (read (Spot.root taggedPetsYaml)).outcome =
      .ok { empty with paths := [("/pets", taggedPets)] } := by
  obtain ⟨-, hread⟩ := read_of_writtenAs taggedPets_distinct
  obtain ⟨htree, hyaml⟩ := hread taggedPetsTree taggedPets_writtenAs
  exact ⟨htree, hyaml taggedPetsYaml taggedPetsYaml_spells⟩

end Document

/-! ## The declared version

The version is read from the same datum as the document, by `VersionDeclaration.read`. -/

namespace VersionDeclaration

/-- The content of each field of the declaration. -/
def content (v : VersionDeclaration) : Field → Option String
  | .swagger => v.swagger
  | .openapi => v.openapi

/-- The layout of version declarations. The datum of a version is a leaf, and `ofDatum?` says which
version it declares: texts and numbers declare one, other leaves declare none. -/
def layout : Layout shape where
  form _ := fun version d => d.depth = 0 ∧ ofDatum? d = version
  default? _ := some none

/-- The declaration is written as the datum. -/
def WrittenAs : Form VersionDeclaration := layout.record content

theorem named_shape : shape.Named := by
  intro f
  cases f <;> rfl

theorem ofDraft_eq {v : VersionDeclaration} {d : shape.Draft}
    (h : ∀ f, (d f).or (layout.default? f) = some (v.content f)) : ofDraft d = v := by
  obtain ⟨swagger, openapi⟩ := v
  unfold ofDraft
  congr 1
  · exact join_of_or (h .swagger)
  · exact join_of_or (h .openapi)

/-- `readVersion` returns what `ofDatum?` says about a leaf. -/
theorem undoes_readVersion :
    Undoes readVersion fun version d => d.depth = 0 ∧ ofDatum? d = version := by
  rintro version d ⟨hleaf, hversion⟩ s hs
  have hread : Finds (Spot.readDatum .value (s.depth + 1)) d d := by
    intro s hs
    obtain ⟨m, style, text, hnode, hmeans⟩ := Yaml.Node.Spells.of_leaf hs hleaf
    exact Spot.readDatum_of_means .value hnode hmeans
  rcases eq_or_ne d .null with rfl | hne
  · rw [readVersion, Spot.readOptional_of_shows_null s hs, pure_bind, ← hversion]
    rfl
  · rw [readVersion, Spot.readOptional_of_shows hne hread s hs, pure_bind, ← hversion]
    rfl

theorem undoes_read : Undoes read WrittenAs :=
  Undoes.record named_shape (fun _ => undoes_readVersion) fun _ _ h =>
    congrArg Except.ok (ofDraft_eq h)

end VersionDeclaration

namespace Document

/-- `Document.load` returns the document from a text that parses as a YAML document of it, if the
datum also declares a version that `VersionDeclaration.check` accepts. The version is read from the
root first, and ignores the other keys of the document. -/
theorem load_of_writtenAs {s : Document} {d : Datum} {text : String} {yaml : Yaml.Document}
    {version : VersionDeclaration} (h : s.WrittenAs d)
    (htext : Yaml.Document.parse? text = some yaml) (hyaml : yaml.root.Spells Spot.maxDepth d)
    (hversion : version.WrittenAs d) (hcheck : version.check = .ok ()) : load text = .ok s := by
  have hdeclares : VersionDeclaration.read (Spot.root yaml) = pure version :=
    VersionDeclaration.undoes_read version d hversion (Spot.root yaml) hyaml
  have hread : read (Spot.root yaml) = pure s := undoes_read s d h (Spot.root yaml) hyaml
  rw [load, htext]
  simp only [hdeclares, hread]
  change (do version.check.mapError LoadError.undeclared; _) = _
  rw [hcheck]
  rfl

end Document

end SwaggerRequests
