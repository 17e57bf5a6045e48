import SwaggerRequests.Proofs.TopLevelNames

/-!
# Names in type expressions

`Typing` computes the type of a parameter as a text, together with the imports. To speak of the
names in a type, this module repeats the computation with type expressions: `Schema.expression?`
returns a `TypeExpression`, whose `text` is what `Schema.text?` returns (`Schema.map_expression?`),
and whose `atoms` are the names in it.

An atom has one of three origins (`Schema.namedBy_atoms`, `Parameter.namedBy_atoms`):

* it is one of the `primitiveNames`, which need no import,
* it is the class of a consulted reference, which is imported,
* it is a type that is not among the `knownTypes` of Swagger. `primitiveType` passes such a type on
  unchanged, and nothing imports it (`PassesOn`).

The third kind is the only gap: `imports_complete_iff` states that the imports of a bundle, or of a
module, cover all names in its types exactly if they cover the types of this kind.
`import_missing_guidParameter` is a parameter for which an import is missing.

The proofs are inductions along `Schema.expression?_inv`, which says that a schema with an
expression is written out as an object or typed by its `leaf`.
-/

namespace SwaggerRequests

/-! ## Expressions

The syntax of types, its text and its names. -/

/-- The key of a member of an object type. -/
structure MemberKey where
  /-- the name of the property -/
  name : String
  /-- no question mark is written behind the name -/
  required : Bool

/-- A type of a parameter: a name, an array or an object. -/
inductive TypeExpression where
  /-- a primitive, a class or an unknown type -/
  | name (word : String)
  /-- an array of items -/
  | array (item : TypeExpression)
  /-- an object with its members, in the order of the properties -/
  | object (members : List (MemberKey × TypeExpression))

/-- The key as it is written: the name in quotes, with a question mark unless it is required. -/
def MemberKey.text (key : MemberKey) : String :=
  "'" ++ key.name ++ "'" ++ (if key.required then "" else "?")

mutual
/-- The type as it is written. `Typing.objectType` puts the members together. -/
def TypeExpression.text : TypeExpression → String
  | .name word => word
  | .array item => item.text ++ "[]"
  | .object members => Typing.objectType (memberTexts members)
/-- The texts of the members of an object type. -/
def memberTexts : List (MemberKey × TypeExpression) → List String
  | [] => []
  | (key, type) :: members => (key.text ++ ":" ++ type.text) :: memberTexts members
end

mutual
/-- The names in the type, from left to right. -/
def TypeExpression.atoms : TypeExpression → List String
  | .name word => [word]
  | .array item => item.atoms
  | .object members => memberAtoms members
/-- The names in the types of the members. Their keys are not included. -/
def memberAtoms : List (MemberKey × TypeExpression) → List String
  | [] => []
  | (_, type) :: members => type.atoms ++ memberAtoms members
end

/-! ## The expression of a schema

The definitions follow `Schema.text?` and `Parameter.text?` branch by branch. -/

/-- The expression of `primitiveType type format`. An array without items is an array of `any`. -/
def primitiveExpression (type format : Option String) : TypeExpression :=
  if type = some "array" then .array (.name "any") else .name (primitiveType type format)

/-- The expression of `Schema.itemText`: the class of the reference, or the primitive type. -/
def Schema.itemExpression (s : Schema) : TypeExpression :=
  match s.reference with
  | some reference => .name (className reference)
  | none => primitiveExpression s.type s.format

mutual
/-- The expression of `Schema.text?`, if the schema has a type. -/
def Schema.expression? : Schema → Option TypeExpression
  | ⟨reference, type, format, items, properties, required, _⟩ =>
    match items, reference with
    | some items, _ =>
      some (if type == some "array" then .array items.itemExpression else items.itemExpression)
    | none, some reference => some (.name (className reference))
    | none, none =>
      match type with
      | none => none
      | some type =>
        if type == "object" && !properties.isEmpty then
          (memberExpressions? required properties).map .object
        else some (primitiveExpression (some type) format)
/-- The members for a list of properties, if each of them has a type. -/
def memberExpressions? (required : List String) :
    List (String × Schema) → Option (List (MemberKey × TypeExpression))
  | [] => some []
  | (name, schema) :: properties =>
    schema.expression?.bind fun type =>
      (memberExpressions? required properties).map ((⟨name, required.contains name⟩, type) :: ·)
end

/-- The expression of `Parameter.text?`. -/
def Parameter.expression? (p : Parameter) : Option TypeExpression :=
  match p.schema, p.items with
  | some schema, _ => schema.expression?
  | none, some items => some (.array items.itemExpression)
  | none, none => some (primitiveExpression p.type p.format)

/-- The text of the expression of a primitive is `primitiveType`. -/
theorem text_primitiveExpression (type format : Option String) :
    (primitiveExpression type format).text = primitiveType type format := by
  rw [primitiveExpression]
  split
  · rename_i h
    rw [h, TypeExpression.text, TypeExpression.text]
    rfl
  · rw [TypeExpression.text]

theorem Schema.text_itemExpression (s : Schema) : s.itemExpression.text = s.itemText := by
  unfold itemExpression itemText
  rcases s.reference with _ | reference
  · exact text_primitiveExpression s.type s.format
  · rw [TypeExpression.text]

/-- The texts of the members are `memberTexts?`, if this is so for the type of each property. -/
theorem map_memberExpressions? {required : List String} {properties : List (String × Schema)}
    (h : ∀ p ∈ properties, p.2.expression?.map TypeExpression.text = p.2.text?) :
    (memberExpressions? required properties).map memberTexts =
      memberTexts? required properties := by
  induction properties with
  | nil =>
    rw [memberExpressions?, memberTexts?, Option.map_some, memberTexts]
  | cons p properties ih =>
    obtain ⟨name, schema⟩ := p
    obtain ⟨hhead, htail⟩ := List.forall_mem_cons.mp h
    rw [memberExpressions?, memberTexts?, ← hhead, ← ih htail]
    rcases schema.expression? with _ | type
    · rfl
    · rcases memberExpressions? required properties with _ | members
      · rfl
      · change some (memberTexts ((⟨name, required.contains name⟩, type) :: members)) =
          some (Typing.member required name type.text :: memberTexts members)
        rw [memberTexts]
        rfl

/-- The text of the expression of a schema is `Schema.text?`. The induction is `Schema.induction`,
with `map_memberExpressions?` for the properties. -/
theorem Schema.map_expression? (s : Schema) :
    s.expression?.map TypeExpression.text = s.text? := by
  induction s using Schema.induction with
  | node s ih =>
    obtain ⟨reference, type, format, items, properties, required, description⟩ := s
    rcases items with _ | items
    · rcases reference with _ | reference
      · rcases type with _ | type
        · rw [expression?, text?]
          rfl
        · rw [expression?, text?]
          split
          · rw [← map_memberExpressions? ih, Option.map_map, Option.map_map]
            refine congrArg (Option.map · _) (funext fun members => ?_)
            rw [Function.comp_apply, TypeExpression.text]
            rfl
          · exact congrArg some (text_primitiveExpression (some type) format)
      · rw [expression?, text?, Option.map_some, TypeExpression.text]
    · rw [expression?, text?, Option.map_some, ← text_itemExpression]
      split
      · rw [TypeExpression.text]
      · rfl

/-- The text of the expression of a parameter is `Parameter.text?`. -/
theorem Parameter.map_expression? (p : Parameter) :
    p.expression?.map TypeExpression.text = p.text? := by
  unfold expression? text?
  rcases p.schema with _ | schema
  · rcases p.items with _ | items
    · exact congrArg some (text_primitiveExpression p.type p.format)
    · change some (TypeExpression.array items.itemExpression).text = some (items.itemText ++ "[]")
      rw [TypeExpression.text, items.text_itemExpression]
  · exact schema.map_expression?

/-- The schema of the items if there are items, otherwise the schema itself. -/
def Schema.leaf (s : Schema) : Schema := s.items.getD s

/-- The expression is an object if the schema is `WrittenOut`, otherwise the `itemExpression` of its
`leaf` or an array of it. -/
theorem Schema.expression?_inv {s : Schema} {type : TypeExpression}
    (h : s.expression? = some type) :
    (s.WrittenOut ∧ ∃ members, memberExpressions? s.required s.properties = some members ∧
      type = .object members) ∨
    (¬ s.WrittenOut ∧ (type = s.leaf.itemExpression ∨ type = .array s.leaf.itemExpression)) := by
  obtain ⟨reference, own, format, items, properties, required, description⟩ := s
  -- the branches of `Schema.expression?`: items, a reference, a type
  rcases items with _ | items
  · rcases reference with _ | reference
    · rcases own with _ | own
      · rw [expression?] at h
        cases h
      · rw [expression?] at h
        split at h
        · rename_i hobject
          obtain ⟨members, hmembers, rfl⟩ := Option.map_eq_some_iff.mp h
          obtain ⟨rfl, hproperties⟩ : own = "object" ∧ properties ≠ [] := by simpa using hobject
          exact Or.inl ⟨⟨rfl, rfl, rfl, hproperties⟩, members, hmembers, rfl⟩
        · rename_i hobject
          refine Or.inr ⟨?_, Or.inl (Option.some.inj h).symm⟩
          rintro ⟨-, -, htype, hproperties⟩
          exact hobject (by simpa using ⟨Option.some.inj htype, hproperties⟩)
    · rw [expression?] at h
      refine Or.inr ⟨?_, Or.inl (Option.some.inj h).symm⟩
      rintro ⟨-, hreference, -⟩
      cases hreference
  · rw [expression?] at h
    refine Or.inr ⟨?_, ?_⟩
    · rintro ⟨hitems, -⟩
      cases hitems
    · obtain rfl := Option.some.inj h
      split
      · exact Or.inr rfl
      · exact Or.inl rfl

/-! ## Where names come from

The predicates for the three origins, on schemas and parameters. -/

/-- The names that `primitiveType` uses for the types of Swagger. -/
def primitiveNames : List String := ["any", "number", "boolean", "string"]

/-- The types that `primitiveType` translates. The empty type is treated as if there were none. -/
def knownTypes : List String :=
  ["", "integer", "number", "boolean", "string", "file", "object", "array"]

namespace Schema

/-- The `type` of the schema, which is ignored if there is a reference. -/
def ownType? (s : Schema) : Option String := if s.reference.isSome then none else s.type

/-- The type that decides the expression of the schema: that of the items if there are items. -/
def tag? (s : Schema) : Option String :=
  match s.items with
  | some items => items.ownType?
  | none => s.ownType?

/-- The schema, or one inside it that its type is made of, has a `tag?` that is not a known type. -/
def PassesOn (s : Schema) (name : String) : Prop :=
  ∃ t, Relation.ReflTransGen Inside s t ∧ t.tag? = some name ∧ name ∉ knownTypes

/-- The schema itself contributes `name`, as the class of its reference or as an unknown type. -/
def GoesBy (s : Schema) (name : String) : Prop :=
  (∃ reference, s.target? = some reference ∧ className reference = name) ∨
    (s.tag? = some name ∧ name ∉ knownTypes)

/-- The schema, or one inside it that its type is made of, `GoesBy` the name. -/
def Names (s : Schema) (name : String) : Prop :=
  ∃ t, Relation.ReflTransGen Inside s t ∧ t.GoesBy name

end Schema

namespace Parameter

/-- The type that decides the expression of a parameter without a schema. -/
def tag? (p : Parameter) : Option String :=
  match p.items with
  | some items => items.ownType?
  | none => p.type

/-- The type of the parameter has `name` as an unknown type, in its schema or in its own fields. -/
def PassesOn (p : Parameter) (name : String) : Prop :=
  (∃ s, p.schema = some s ∧ s.PassesOn name) ∨
    (p.schema = none ∧ p.tag? = some name ∧ name ∉ knownTypes)

/-- `name` is one of the `atoms` in the type of the parameter. -/
def Mentions (p : Parameter) (name : String) : Prop :=
  ∃ type, p.expression? = some type ∧ name ∈ type.atoms

end Parameter

/-- Every name with `P` is among `words`, and every word is primitive or has `P`. -/
def NamedBy (words : List String) (P : String → Prop) : Prop :=
  ∀ name, (P name → name ∈ words) ∧ (name ∈ words → name ∈ primitiveNames ∨ P name)

variable {words words' : List String} {P Q : String → Prop}

theorem NamedBy.congr (h : NamedBy words P) (hPQ : ∀ name, P name ↔ Q name) : NamedBy words Q :=
  (funext fun name => propext (hPQ name) : P = Q) ▸ h

/-- The words of two lists are named by the disjunction. -/
theorem NamedBy.append (h : NamedBy words P) (h' : NamedBy words' Q) :
    NamedBy (words ++ words') fun name => P name ∨ Q name := by
  intro name
  rw [List.mem_append]
  refine ⟨?_, ?_⟩
  · exact Or.imp (h name).1 (h' name).1
  · rintro (hname | hname)
    · exact ((h name).2 hname).imp_right Or.inl
    · exact ((h' name).2 hname).imp_right Or.inr

/-- A single word is named by `P` if it is primitive or has `P`, and no other name has `P`. -/
theorem namedBy_singleton {name : String} (hname : name ∈ primitiveNames ∨ P name)
    (hP : ∀ name', P name' → name' = name) : NamedBy [name] P := by
  intro name'
  rw [List.mem_singleton]
  refine ⟨hP name', ?_⟩
  rintro rfl
  exact hname

/-! ## Names of a schema

The atoms of each kind of expression, up to `Parameter.namedBy_atoms`. -/

/-- `primitiveType` translates each of the `knownTypes`, apart from arrays, to one of the
`primitiveNames`. -/
theorem primitiveType_of_known {type : String} (h : type ∈ knownTypes) (harray : type ≠ "array")
    (format : Option String) : primitiveType (some type) format ∈ primitiveNames := by
  have hcases : type = "" ∨ type = "integer" ∨ type = "number" ∨ type = "boolean" ∨
      type = "string" ∨ type = "file" ∨ type = "object" ∨ type = "array" := by
    simpa [knownTypes] using h
  rcases hcases with rfl | rfl | rfl | rfl | rfl | rfl | rfl | rfl
  case inr.inr.inr.inr.inl =>
    rw [primitiveType]
    split <;> decide
  case inr.inr.inr.inr.inr.inr.inr => exact absurd rfl harray
  all_goals simp [primitiveType, primitiveNames]

/-- `primitiveType` returns an unknown type unchanged. -/
theorem primitiveType_of_unknown {type : String} (h : type ∉ knownTypes)
    (format : Option String) : primitiveType (some type) format = type := by
  unfold primitiveType
  split <;> simp_all [knownTypes]

/-- The atoms of `primitiveExpression type format` are primitive, or `type` itself if it is
unknown. -/
theorem namedBy_primitiveExpression (type format : Option String) :
    NamedBy (primitiveExpression type format).atoms
      fun name => type = some name ∧ name ∉ knownTypes := by
  rw [primitiveExpression]
  -- an array without items is an array of `any`; every other type is a single name
  split
  · rename_i harray
    rw [TypeExpression.atoms, TypeExpression.atoms]
    refine namedBy_singleton (Or.inl (List.mem_cons_self ..)) ?_
    rintro name ⟨htype, hname⟩
    rw [harray] at htype
    exact absurd (Option.some.inj htype ▸ by decide) hname
  · rename_i harray
    rw [TypeExpression.atoms]
    rcases type with _ | type
    · refine namedBy_singleton (Or.inl (List.mem_cons_self ..)) ?_
      rintro name ⟨htype, -⟩
      cases htype
    · by_cases h : type ∈ knownTypes
      · have harray' : type ≠ "array" := fun h => harray (congrArg some h)
        refine namedBy_singleton (Or.inl (primitiveType_of_known h harray' format)) ?_
        rintro name ⟨htype, hname⟩
        exact absurd (Option.some.inj htype ▸ h) hname
      · rw [primitiveType_of_unknown h]
        refine namedBy_singleton (Or.inr ⟨rfl, h⟩) ?_
        rintro name ⟨htype, -⟩
        exact (Option.some.inj htype).symm

namespace Schema

/-- The atoms of `itemExpression` are primitive, the class of the reference, or an unknown type. -/
theorem namedBy_itemExpression (s : Schema) :
    NamedBy s.itemExpression.atoms fun name =>
      (∃ reference, s.reference = some reference ∧ className reference = name) ∨
        (s.ownType? = some name ∧ name ∉ knownTypes) := by
  unfold itemExpression ownType?
  rcases s.reference with _ | reference
  · exact (namedBy_primitiveExpression s.type s.format).congr fun name => by simp
  · rw [TypeExpression.atoms]
    refine namedBy_singleton (Or.inr (Or.inl ⟨reference, rfl, rfl⟩)) ?_
    rintro name (⟨r, hr, rfl⟩ | ⟨htype, -⟩)
    · rw [Option.some.inj hr]
    · cases htype

/-- The names of a schema are those that it `GoesBy`, and those of its properties if it is
`WrittenOut`. The first step of a path along `Inside` leads from a written-out object to one of its
properties. -/
theorem names_iff {s : Schema} {name : String} :
    s.Names name ↔ s.GoesBy name ∨ (s.WrittenOut ∧ ∃ p ∈ s.properties, p.2.Names name) :=
  exists_inside_iff

/-- The names of a schema are the classes of the references that it `Consults`, and the types that
it `PassesOn`. `GoesBy` is a disjunction, so a path to it is a path to one of the two parts. -/
theorem names_iff_consults_or_passesOn {s : Schema} {name : String} :
    s.Names name ↔
      (∃ reference, s.Consults reference ∧ className reference = name) ∨ s.PassesOn name := by
  refine ⟨?_, ?_⟩
  · rintro ⟨t, hst, ⟨reference, htarget, hname⟩ | htag⟩
    · exact Or.inl ⟨reference, ⟨t, hst, htarget⟩, hname⟩
    · exact Or.inr ⟨t, hst, htag⟩
  · rintro (⟨reference, ⟨t, hst, htarget⟩, hname⟩ | ⟨t, hst, htag⟩)
    · exact ⟨t, hst, Or.inl ⟨reference, htarget, hname⟩⟩
    · exact ⟨t, hst, Or.inr htag⟩

/-- The atoms of the members are the names of the properties, if this is so for the type of each
property. -/
theorem namedBy_memberAtoms {required : List String} {properties : List (String × Schema)}
    {members : List (MemberKey × TypeExpression)}
    (h : ∀ p ∈ properties, ∀ type, p.2.expression? = some type → NamedBy type.atoms p.2.Names)
    (hmembers : memberExpressions? required properties = some members) :
    NamedBy (memberAtoms members) fun name => ∃ p ∈ properties, p.2.Names name := by
  induction properties generalizing members with
  | nil =>
    rw [memberExpressions?] at hmembers
    obtain rfl := Option.some.inj hmembers
    rw [memberAtoms]
    simp [NamedBy]
  | cons p properties ih =>
    obtain ⟨name, schema⟩ := p
    obtain ⟨hhead, htail⟩ := List.forall_mem_cons.mp h
    rw [memberExpressions?, Option.bind_eq_some_iff] at hmembers
    obtain ⟨type, htype, hmembers⟩ := hmembers
    obtain ⟨members', hmembers', rfl⟩ := Option.map_eq_some_iff.mp hmembers
    rw [memberAtoms]
    refine ((hhead type htype).append (ih htail hmembers')).congr fun name => ?_
    rw [List.exists_mem_cons_iff]

/-- The atoms of the `leaf` of a schema are what the schema `GoesBy`. -/
theorem namedBy_leaf (s : Schema) : NamedBy s.leaf.itemExpression.atoms s.GoesBy := by
  refine s.leaf.namedBy_itemExpression.congr fun name => ?_
  unfold leaf GoesBy target? tag?
  rcases s.items with _ | items <;> rfl

/-- A schema that is `WrittenOut` has neither items nor a reference, and its type is `object`, which
is known. -/
theorem WrittenOut.not_goesBy {s : Schema} (h : s.WrittenOut) (name : String) :
    ¬ s.GoesBy name := by
  obtain ⟨hitems, hreference, htype, -⟩ := h
  rintro (⟨reference, htarget, -⟩ | ⟨htag, hname⟩)
  · rw [target?, hitems] at htarget
    rw [hreference] at htarget
    cases htarget
  · rw [tag?, hitems] at htag
    have hobject : some "object" = some name := by
      rw [← htag, ownType?, hreference, htype]
      rfl
    exact absurd (Option.some.inj hobject ▸ by decide) hname

/-- The atoms in the type of a schema are primitive or its `Names`. The induction is on the schema
and its properties. -/
theorem namedBy_atoms (s : Schema) :
    ∀ type, s.expression? = some type → NamedBy type.atoms s.Names := by
  induction s using Schema.induction with
  | node s ih =>
    intro type h
    rcases expression?_inv h with ⟨hs, members, hmembers, rfl⟩ | ⟨hs, htype⟩
    · rw [TypeExpression.atoms]
      refine (namedBy_memberAtoms ih hmembers).congr fun name => ?_
      rw [names_iff]
      exact ⟨fun hinside => Or.inr ⟨hs, hinside⟩, fun hname =>
        (hname.resolve_left (hs.not_goesBy name)).2⟩
    · have hatoms : type.atoms = s.leaf.itemExpression.atoms := by
        rcases htype with rfl | rfl
        · rfl
        · rw [TypeExpression.atoms]
      rw [hatoms]
      refine s.namedBy_leaf.congr fun name => ?_
      rw [names_iff]
      exact ⟨Or.inl, fun hname => hname.resolve_right fun hinside => hs hinside.1⟩

end Schema

/-- The atoms in the type of a parameter are primitive, classes of references that it `Consults`, or
types that it `PassesOn`. A parameter without a schema is typed by its items or by its own type,
without recursion. -/
theorem Parameter.namedBy_atoms {p : Parameter} {type : TypeExpression}
    (h : p.expression? = some type) :
    NamedBy type.atoms fun name =>
      (∃ reference, p.Consults reference ∧ className reference = name) ∨ p.PassesOn name := by
  obtain ⟨name, location, required, description, own, format, schema, items⟩ := p
  rcases schema with _ | schema
  · rcases items with _ | items
    · obtain rfl := Option.some.inj h
      refine (namedBy_primitiveExpression own format).congr fun name => ?_
      simp [Consults, PassesOn, tag?]
    · obtain rfl := Option.some.inj h
      rw [TypeExpression.atoms]
      refine items.namedBy_itemExpression.congr fun name => ?_
      simp [Consults, PassesOn, tag?]
  · refine (schema.namedBy_atoms type h).congr fun name => ?_
    rw [Schema.names_iff_consults_or_passesOn]
    simp [Consults, PassesOn]

/-! ## Names of a bundle

The names in the types of the emitted parameters, and the theorem about the imports. -/

/-- An emitted parameter `Mentions` the name. -/
def IsMentioned (ds : List Descriptor) (useHeaders : Bool) (document : Document) (name : String) :
    Prop :=
  ∃ d p, IsEmitted ds useHeaders document d p ∧ p.Mentions name

/-- An emitted parameter `PassesOn` the name. -/
def IsPassedOn (ds : List Descriptor) (useHeaders : Bool) (document : Document) (name : String) :
    Prop :=
  ∃ d p, IsEmitted ds useHeaders document d p ∧ p.PassesOn name

variable {ds : List Descriptor} {useHeaders : Bool} {document : Document} {name : String}

/-- The type of a `TypedParameter` is the text of an expression. -/
theorem TypedParameter.exists_expression (t : TypedParameter) :
    ∃ type, t.parameter.expression? = some type ∧ type.text = t.type :=
  Option.map_eq_some_iff.mp (t.parameter.map_expression?.trans t.text?_eq)

/-- The imports and the names that are passed on are mentioned, and every name that is mentioned is
one of these or primitive. Each emitted parameter has an expression, because the bundle is the image
of typed parameters. -/
theorem namedBy_isMentioned {b : Bundle} (h : (bundle ds useHeaders document).result = .ok b) :
    (name ∈ b.imports → IsMentioned ds useHeaders document name) ∧
    (IsPassedOn ds useHeaders document name → IsMentioned ds useHeaders document name) ∧
    (IsMentioned ds useHeaders document name →
      name ∈ primitiveNames ∨ name ∈ b.imports ∨ IsPassedOn ds useHeaders document name) := by
  have hexpression : ∀ d p, IsEmitted ds useHeaders document d p →
      ∃ type, p.expression? = some type := by
    intro d p hp
    obtain ⟨typed, rfl, hemitted⟩ := exists_image_of_bundle h
    obtain ⟨t, -, rfl⟩ := List.mem_map.mp ((hemitted p).mpr ⟨d, hp⟩)
    obtain ⟨type, htype, -⟩ := t.exists_expression
    exact ⟨type, htype⟩
  refine ⟨?_, ?_, ?_⟩
  · intro hname
    obtain ⟨d, p, reference, hp, hconsults⟩ := (mem_imports_iff h).mp hname
    obtain ⟨type, htype⟩ := hexpression d p hp
    exact ⟨d, p, hp, type, htype,
      (Parameter.namedBy_atoms htype name).1 (Or.inl ⟨reference, hconsults⟩)⟩
  · rintro ⟨d, p, hp, hpasses⟩
    obtain ⟨type, htype⟩ := hexpression d p hp
    exact ⟨d, p, hp, type, htype, (Parameter.namedBy_atoms htype name).1 (Or.inr hpasses)⟩
  · rintro ⟨d, p, hp, type, htype, hname⟩
    rcases (Parameter.namedBy_atoms htype name).2 hname with
      hprimitive | ⟨reference, hconsults⟩ | hpasses
    · exact Or.inl hprimitive
    · exact Or.inr (Or.inl ((mem_imports_iff h).mpr ⟨d, p, reference, hp, hconsults⟩))
    · exact Or.inr (Or.inr ⟨d, p, hp, hpasses⟩)

/-- **Complete imports.** A bundle is the image of its emitted parameters, and the type of each of
them is the text of an expression. Moreover:

* Every import is a name in one of these types (`IsMentioned`).
* Every name in these types is primitive, imported, or an unknown type (`IsPassedOn`).
* The imports cover all names that are not primitive exactly if they cover the unknown types.

For the module of a document the same holds for `importsOf fs`, the imports of all functions
together. -/
theorem imports_complete_iff (document : Document) (options : Options) :
    (∀ ds b, (bundle ds options.useHeaders document).result = .ok b →
      ∃ typed : List TypedParameter, b = Bundle.image typed ∧
        (∀ p, p ∈ typed.map TypedParameter.parameter ↔
          ∃ d, IsEmitted ds options.useHeaders document d p) ∧
        (∀ t ∈ typed, ∃ type, t.parameter.expression? = some type ∧ type.text = t.type) ∧
        (∀ name ∈ b.imports, IsMentioned ds options.useHeaders document name) ∧
        (∀ name, IsMentioned ds options.useHeaders document name →
          name ∈ primitiveNames ∨ name ∈ b.imports ∨
            IsPassedOn ds options.useHeaders document name) ∧
        ((∀ name, IsMentioned ds options.useHeaders document name →
            name ∈ primitiveNames ∨ name ∈ b.imports) ↔
          ∀ name, IsPassedOn ds options.useHeaders document name →
            name ∈ primitiveNames ∨ name ∈ b.imports)) ∧
    ∀ text, (generate document options).result = .ok text →
      ∃ fs, (requestFunctions document options.useHeaders).result = .ok fs ∧
        text = unlines (headerOpening ++
            (if (importsOf fs).isEmpty then [] else [importLine (importsOf fs) options.models]) ++
            [importLine runtimeNames options.runtime, "",
              "export const basePath = '" ++ document.basePath.getD "" ++ "';"]) ++
          functionTexts fs ∧
        ((∀ e ∈ document.endpoints, ∀ name,
            IsMentioned e.descriptors options.useHeaders document name →
              name ∈ primitiveNames ∨ name ∈ importsOf fs) ↔
          ∀ e ∈ document.endpoints, ∀ name,
            IsPassedOn e.descriptors options.useHeaders document name →
              name ∈ primitiveNames ∨ name ∈ importsOf fs) := by
  refine ⟨?_, ?_⟩
  · intro ds b hb
    obtain ⟨typed, himage, hemitted⟩ := exists_image_of_bundle hb
    refine ⟨typed, himage, hemitted, fun t _ => t.exists_expression,
      fun name => (namedBy_isMentioned hb).1, fun name => (namedBy_isMentioned hb).2.2, ?_, ?_⟩
    · intro hclosed name hpassed
      exact hclosed name ((namedBy_isMentioned hb).2.1 hpassed)
    · intro hclosed name hmentioned
      rcases (namedBy_isMentioned hb).2.2 hmentioned with hname | hname | hpassed
      · exact Or.inl hname
      · exact Or.inr hname
      · exact hclosed name hpassed
  · intro text htext
    obtain ⟨fs, hfs, htext⟩ := generate_ok_inv htext
    have hbundle := outcome_of_requestFunctionsFrom_ok hfs
    refine ⟨fs, hfs, htext, ?_, ?_⟩
    · intro hclosed e he name hpassed
      obtain ⟨b, hb⟩ := hbundle e he
      exact hclosed e he name ((namedBy_isMentioned hb).2.1 hpassed)
    · intro hclosed e he name hmentioned
      obtain ⟨b, hb⟩ := hbundle e he
      rcases (namedBy_isMentioned hb).2.2 hmentioned with hname | hname | hpassed
      · exact Or.inl hname
      · exact Or.inr ((mem_importsOf_iff hfs).mpr ⟨e, he, (mem_imports_iff hb).mp hname⟩)
      · exact hclosed e he name hpassed

/-- A body with a reference to `Pet`, a property whose type is `Pet`, and one of type `any`. -/
def pageParameter : Parameter :=
  let pets : Schema :=
    { Schema.any with
      type := some "array"
      items := some { Schema.any with reference := some "#/definitions/Pet" } }
  let page : Schema :=
    { Schema.any with
      type := some "object"
      properties := [("pets", pets), ("owner", { Schema.any with type := some "Pet" }),
        ("note", { Schema.any with type := some "any" })]
      required := ["pets"] }
  ⟨"page", .body, true, none, none, none, some page, none⟩

/-- A document with the operation `PUT /pages`, which has `pageParameter`. -/
def petPages : Document :=
  { Document.empty with
    paths := [("/pages", {
      operation? := fun
        | .put => some { Operation.empty with parameters := [.inline pageParameter] }
        | _ => none
      parameters := [] })] }

/-- The imports for `petPages` are complete, since the unknown type `Pet` is a class that is
imported as well. -/
theorem imports_complete_petPages :
    (∃ b, (bundle [.inline pageParameter] false petPages).result = .ok b ∧
      b.signature = "\n    /**  */\n    page:\x7b'pets':Pet[];'owner'?:Pet;'note'?:any\x7d," ∧
      b.imports = ["Pet"] ∧
      ∀ name, IsMentioned [.inline pageParameter] false petPages name →
        name ∈ primitiveNames ∨ name ∈ b.imports) ∧
    ∃ text fs, (generate petPages .default).result = .ok text ∧
      (requestFunctions petPages false).result = .ok fs ∧ importsOf fs = ["Pet"] ∧
      ∀ e ∈ petPages.endpoints, ∀ name, IsMentioned e.descriptors false petPages name →
        name ∈ primitiveNames ∨ name ∈ importsOf fs := by
  -- these are all names in the type, so every name that is passed on is one of them
  have hmentioned : ∀ name, IsMentioned [.inline pageParameter] false petPages name →
      name ∈ ["Pet", "Pet", "any"] := by
    rintro name ⟨d, p, hp, type, htype, hname⟩
    have hresolved : (keptDescriptors [.inline pageParameter]).mapM (Descriptor.resolve petPages) =
        .ok [pageParameter] := rfl
    obtain rfl := List.mem_singleton.mp (hp.mem_resolved hresolved)
    obtain rfl := Option.some.inj htype
    exact hname
  have hnames : ∀ name ∈ ["Pet", "Pet", "any"], name ∈ primitiveNames ∨ name ∈ ["Pet"] := by
    decide
  obtain ⟨hbundles, hmodules⟩ := imports_complete_iff petPages .default
  refine ⟨?_, ?_⟩
  · obtain ⟨b, hb, hsignature, himports⟩ :
        ∃ b, (bundle [.inline pageParameter] false petPages).result = .ok b ∧
          b.signature =
            "\n    /**  */\n    page:\x7b'pets':Pet[];'owner'?:Pet;'note'?:any\x7d," ∧
          b.imports = ["Pet"] := by
      refine ⟨_, rfl, ?_, ?_⟩ <;> decide +kernel
    obtain ⟨-, -, -, -, -, -, hiff⟩ := hbundles _ b hb
    refine ⟨b, hb, hsignature, himports, hiff.mpr fun name hpassed => ?_⟩
    rw [himports]
    exact hnames name (hmentioned name ((namedBy_isMentioned hb).2.1 hpassed))
  · obtain ⟨text, htext⟩ : ∃ text, (generate petPages .default).result = .ok text := ⟨_, rfl⟩
    obtain ⟨fs, hfs, -, hiff⟩ := hmodules text htext
    have himports : importsOf fs = ["Pet"] := by
      obtain rfl := Except.ok.inj hfs
      decide +kernel
    refine ⟨text, fs, htext, hfs, himports, hiff.mpr fun e he name hpassed => ?_⟩
    rw [himports]
    obtain rfl := List.mem_singleton.mp he
    obtain ⟨b, hb⟩ := outcome_of_requestFunctionsFrom_ok hfs _ he
    exact hnames name (hmentioned name ((namedBy_isMentioned hb).2.1 hpassed))

/-- A parameter with the type `Guid`. -/
def guidParameter : Parameter := ⟨"id", .query, false, none, some "Guid", none, none, none⟩

/-- The type `Guid` is in the signature, and it is neither primitive nor imported. -/
theorem import_missing_guidParameter :
    ∃ b, (bundle [.inline guidParameter] false Document.empty).result = .ok b ∧
      b.signature = "\n    /**  */\n    id?:Guid," ∧ b.imports = [] ∧
      ∃ d p, IsEmitted [.inline guidParameter] false Document.empty d p ∧ p.Mentions "Guid" ∧
        "Guid" ∉ primitiveNames ∧ "Guid" ∉ b.imports := by
  refine ⟨_, rfl, ?_, rfl, ?_⟩
  · decide +kernel
  · have hresolved : (keptDescriptors [.inline guidParameter]).mapM
        (Descriptor.resolve Document.empty) = .ok [guidParameter] := rfl
    have hused : guidParameter.location ≠ .header := by decide
    obtain ⟨d, hp⟩ := exists_isEmitted hresolved (List.mem_singleton.mpr rfl) fun _ => hused
    refine ⟨d, guidParameter, hp, ⟨.name "Guid", rfl, List.mem_cons_self ..⟩, by decide, ?_⟩
    exact List.not_mem_nil

end SwaggerRequests
