import SwaggerRequests.Request.Typing
import SwaggerRequests.Proofs.Entries
import Mathlib.Logic.Relation

/-!
# The result of typing

`Typing.schemaType` computes the type of a schema, adds classes to the imports and can fail. It is
the combination of two functions without a state, both by recursion on the schema:

* `Schema.text?`, the type, or `none` if there is none; it does not depend on the imports;
* `Schema.consulted`, the list of the references that the type is made of.

`Typing.schemaType_run` states this: if there is a type, it is returned and the classes of the
consulted references are added to the imports in their order. All other facts about typing follow
from the two functions, and `Typing.parameterType_run` is the same for parameters.

Both functions go into the properties of a schema only, so `Schema.induction` has one case, with the
hypothesis for the properties. `Schema.Untypable` characterizes the schemas without a type: one of
the schemas inside is `Schema.Bare`, where `Schema.Inside` is the relation to the properties of an
object and `Relation.ReflTransGen` its closure.
-/

namespace SwaggerRequests

/-! ## Imports

`importAll` adds classes one after the other. On the empty list it is `List.eraseDups`. -/

/-- The imports after all `names` have been added by `addImport`. -/
def importAll (imports names : List String) : List String := names.foldl addImport imports

theorem importAll_append (imports as bs : List String) :
    importAll imports (as ++ bs) = importAll (importAll imports as) bs :=
  List.foldl_append

theorem addImport_of_mem {imports : List String} {name : String} (h : name ∈ imports) :
    addImport imports name = imports :=
  if_pos (List.contains_iff_mem.mpr h)

theorem addImport_of_not_mem {imports : List String} {name : String} (h : name ∉ imports) :
    addImport imports name = imports ++ [name] :=
  if_neg fun hc => h (List.contains_iff_mem.mp hc)

theorem mem_addImport {imports : List String} {name k : String} :
    k ∈ addImport imports name ↔ k ∈ imports ∨ k = name := by
  by_cases h : name ∈ imports
  · rw [addImport_of_mem h]
    exact ⟨Or.inl, fun hk => hk.elim id fun hk => hk ▸ h⟩
  · rw [addImport_of_not_mem h, List.mem_append, List.mem_singleton]

theorem mem_importAll {imports names : List String} {k : String} :
    k ∈ importAll imports names ↔ k ∈ imports ∨ k ∈ names := by
  induction names generalizing imports with
  | nil => simp [importAll]
  | cons name names ih =>
    change k ∈ importAll (addImport imports name) names ↔ _
    rw [ih, mem_addImport, List.mem_cons, or_assoc]

/-- Adding a class again does not change the imports, so repetitions in `names` can be removed. -/
theorem importAll_eraseDups (imports names : List String) :
    importAll imports names.eraseDups = importAll imports names := by
  induction names using List.reverseRecOn with
  | nil => rfl
  | append_singleton names name ih =>
    rw [Entries.eraseDups_concat, importAll_append]
    by_cases h : name ∈ names
    · have hmem : name ∈ importAll imports names := mem_importAll.mpr (Or.inr h)
      rw [if_pos h, ih]
      exact (addImport_of_mem hmem).symm
    · rw [if_neg h, importAll_append, ih]

/-- The imports are the added classes, each at its first place. -/
theorem importAll_nil (names : List String) : importAll [] names = names.eraseDups := by
  induction names using List.reverseRecOn with
  | nil => rfl
  | append_singleton names name ih =>
    rw [Entries.eraseDups_concat, importAll_append, ih]
    change addImport names.eraseDups name = _
    by_cases h : name ∈ names
    · rw [if_pos h, addImport_of_mem (List.mem_eraseDups.mpr h)]
    · rw [if_neg h, addImport_of_not_mem (fun hmem => h (List.mem_eraseDups.mp hmem))]

/-! ## Texts and references

The type and the consulted references of a schema, of the properties of an object, and of a
parameter. -/

/-- Induction along the properties of schemas. The reference and the items of a schema are not
recursive positions for typing. -/
theorem Schema.induction {motive : Schema → Prop}
    (node : ∀ s : Schema, (∀ p ∈ s.properties, motive p.2) → motive s) (s : Schema) : motive s :=
  @Schema.rec motive (fun _ => True) (fun ps => ∀ p ∈ ps, motive p.2) (fun p => motive p.2)
    (fun reference type format items properties required description _ hproperties =>
      node ⟨reference, type, format, items, properties, required, description⟩ hproperties)
    trivial (fun _ _ => trivial)
    (fun _ hp => absurd hp List.not_mem_nil)
    (fun _ _ hhead htail _ hp => (List.mem_cons.mp hp).elim (fun h => h ▸ hhead) (htail _))
    (fun _ _ h => h) s

/-- The type of a schema as the item of an array. -/
def Schema.itemText (s : Schema) : String :=
  match s.reference with
  | some reference => className reference
  | none => primitiveType s.type s.format

mutual
/-- The type of a schema, if it has one. -/
def Schema.text? : Schema → Option String
  | ⟨reference, type, format, items, properties, required, _⟩ =>
    match items, reference with
    | some items, _ =>
      some (if type == some "array" then items.itemText ++ "[]" else items.itemText)
    | none, some reference => some (className reference)
    | none, none =>
      match type with
      | none => none
      | some type =>
        if type == "object" && !properties.isEmpty then
          (memberTexts? required properties).map Typing.objectType
        else some (primitiveType (some type) format)
/-- The members of an object type, if all of them have a type. -/
def memberTexts? (required : List String) : List (String × Schema) → Option (List String)
  | [] => some []
  | (name, schema) :: properties =>
    schema.text?.bind fun type =>
      (memberTexts? required properties).map (Typing.member required name type :: ·)
end

mutual
/-- The references that the type of a schema is made of: that of its items if it has items, else its
own, else those of the properties of an object. -/
def Schema.consulted : Schema → List String
  | ⟨reference, type, _, items, properties, _, _⟩ =>
    match items, reference with
    | some items, _ => items.reference.toList
    | none, some reference => [reference]
    | none, none =>
      if type == some "object" && !properties.isEmpty then consultedBelow properties else []
/-- The references that the types of the properties are made of. -/
def consultedBelow : List (String × Schema) → List String
  | [] => []
  | (_, schema) :: properties => schema.consulted ++ consultedBelow properties
end

/-- The type of a parameter, if it has one. -/
def Parameter.text? (p : Parameter) : Option String :=
  match p.schema, p.items with
  | some schema, _ => schema.text?
  | none, some items => some (items.itemText ++ "[]")
  | none, none => some (primitiveType p.type p.format)

/-- The references that the type of a parameter is made of. -/
def Parameter.consulted (p : Parameter) : List String :=
  match p.schema, p.items with
  | some schema, _ => schema.consulted
  | none, some items => items.reference.toList
  | none, none => []

namespace Typing

@[simp] theorem bind_run {α β : Type} (x : Typing α) (f : α → Typing β) (imports : List String) :
    (x >>= f).run imports = x.run imports >>= fun r => (f r.1).run r.2 := rfl

/-- The outcome of a computation of a type that is `none` or `some a`: the error for `parameter`, or
`a` and the imports with the classes of `references`. -/
def outcome {α : Type} (parameter : String) (imports : List String) (references : List String) :
    Option α → Except RequestError (α × List String)
  | some a => .ok (a, importAll imports (references.map className))
  | none => .error (.untypable parameter)

theorem classType_run (reference : String) (imports : List String) :
    (classType reference).run imports =
      .ok (className reference, importAll imports [className reference]) := rfl

theorem itemType_run (items : Schema) (imports : List String) :
    (itemType items).run imports =
      .ok (items.itemText, importAll imports (items.reference.toList.map className)) := by
  unfold itemType Schema.itemText
  rcases items.reference with _ | reference <;> rfl

/-- `memberTypes` is the combination of `memberTexts?` and `consultedBelow`, if `schemaType` of each
property is one. Each member is typed with the imports of those before it. -/
theorem memberTypes_run {parameter : String} {required : List String}
    {properties : List (String × Schema)}
    (h : ∀ p ∈ properties, ∀ imports, (schemaType parameter p.2).run imports =
      outcome parameter imports p.2.consulted p.2.text?) (imports : List String) :
    (memberTypes parameter required properties).run imports =
      outcome parameter imports (consultedBelow properties) (memberTexts? required properties) := by
  induction properties generalizing imports with
  | nil =>
    rw [memberTypes, memberTexts?, consultedBelow]
    rfl
  | cons p properties ih =>
    obtain ⟨name, schema⟩ := p
    have hhead := h (name, schema) (List.mem_cons_self ..) imports
    have htail := ih fun p hp => h p (List.mem_cons_of_mem _ hp)
    rw [memberTypes, memberTexts?, consultedBelow, bind_run, hhead]
    -- if the first property has no type, the others are not typed
    rcases schema.text? with _ | type
    · rfl
    · change (memberTypes parameter required properties >>= fun types =>
        pure (member required name type :: types)).run (importAll imports _) = _
      rw [bind_run, htail]
      rcases memberTexts? required properties with _ | types
      · rfl
      · change Except.ok (_, importAll (importAll imports _) _) = Except.ok (_, importAll imports _)
        rw [List.map_append, importAll_append]

/-- **Typing as two functions.** Whatever has been imported, the outcome of `schemaType` is given by
`Schema.text?` and `Schema.consulted`. The induction is `Schema.induction`. -/
theorem schemaType_run (parameter : String) (s : Schema) (imports : List String) :
    (schemaType parameter s).run imports = outcome parameter imports s.consulted s.text? := by
  induction s using Schema.induction generalizing imports with
  | node s ih =>
    obtain ⟨reference, type, format, items, properties, required, description⟩ := s
    -- the branches of `schemaType`: items, a reference, a type
    rcases items with _ | items
    · rcases reference with _ | reference
      · rcases type with _ | type
        · rw [schemaType, Schema.text?]
          rfl
        · rw [schemaType, Schema.text?, Schema.consulted, Option.some_beq_some]
          by_cases h : (type == "object" && !properties.isEmpty) = true
          · rw [if_pos h, if_pos h, if_pos h, bind_run, memberTypes_run ih]
            rcases memberTexts? required properties with _ | types <;> rfl
          · rw [if_neg h, if_neg h, if_neg h]
            rfl
      · rw [schemaType, Schema.text?, Schema.consulted, classType_run]
        rfl
    · rw [schemaType, Schema.text?, Schema.consulted, bind_run, itemType_run]
      rfl

/-- The outcome of `parameterType` is given by `Parameter.text?` and `Parameter.consulted`. -/
theorem parameterType_run (p : Parameter) (imports : List String) :
    (parameterType p).run imports = outcome p.name imports p.consulted p.text? := by
  unfold parameterType Parameter.text? Parameter.consulted
  rcases p.schema with _ | schema
  · rcases p.items with _ | items
    · rfl
    · change (itemType items >>= fun item => pure (item ++ "[]")).run imports = _
      rw [bind_run, itemType_run]
      rfl
  · exact schemaType_run p.name schema imports

end Typing

/-! ## Schemas without a type

`Schema.text?` is `none` exactly if the walk through the written-out objects reaches a schema that
does not determine a type. -/

namespace Schema

/-- The schema has none of the three fields that determine a type. -/
def Bare (s : Schema) : Prop := s.items = none ∧ s.reference = none ∧ s.type = none

/-- The type of the schema is written out property by property. -/
def WrittenOut (s : Schema) : Prop :=
  s.items = none ∧ s.reference = none ∧ s.type = some "object" ∧ s.properties ≠ []

/-- `t` is the schema of a property of `s`, and `s` is `WrittenOut`. -/
def Inside (s t : Schema) : Prop := s.WrittenOut ∧ ∃ name, (name, t) ∈ s.properties

/-- Some schema in the closure of `Inside` satisfies `P` exactly if `s` does, or one in the closure
for a property does. This is the unfolding that all inductions along schemas use. -/
theorem exists_inside_iff {P : Schema → Prop} {s : Schema} :
    (∃ t, Relation.ReflTransGen Inside s t ∧ P t) ↔
      P s ∨ (s.WrittenOut ∧ ∃ p ∈ s.properties, ∃ t, Relation.ReflTransGen Inside p.2 t ∧ P t) := by
  refine ⟨?_, ?_⟩
  · rintro ⟨t, hst, ht⟩
    rcases Relation.ReflTransGen.cases_head hst with rfl | ⟨u, ⟨hs, name, hu⟩, hut⟩
    · exact Or.inl ht
    · exact Or.inr ⟨hs, (name, u), hu, t, hut, ht⟩
  · rintro (hs | ⟨hs, ⟨name, u⟩, hu, t, hut, ht⟩)
    · exact ⟨s, Relation.ReflTransGen.refl, hs⟩
    · exact ⟨t, Relation.ReflTransGen.head ⟨hs, name, hu⟩ hut, ht⟩

/-- Some schema inside, perhaps the schema itself, is `Bare`. -/
def Untypable (s : Schema) : Prop := ∃ t, Relation.ReflTransGen Inside s t ∧ t.Bare

/-- A schema is `Untypable` if it is `Bare` or a property of it is `Untypable`. -/
theorem untypable_iff {s : Schema} :
    s.Untypable ↔ s.Bare ∨ (s.WrittenOut ∧ ∃ p ∈ s.properties, p.2.Untypable) :=
  exists_inside_iff

/-- An `Untypable` schema has neither items nor a reference. -/
theorem Untypable.unreferenced {s : Schema} (h : s.Untypable) :
    s.items = none ∧ s.reference = none := by
  rcases untypable_iff.mp h with ⟨hitems, hreference, -⟩ | ⟨⟨hitems, hreference, -⟩, -⟩
  · exact ⟨hitems, hreference⟩
  · exact ⟨hitems, hreference⟩

theorem memberTexts?_eq_none_iff {required : List String} {properties : List (String × Schema)} :
    memberTexts? required properties = none ↔ ∃ p ∈ properties, p.2.text? = none := by
  induction properties with
  | nil => simp [memberTexts?]
  | cons p properties ih =>
    obtain ⟨name, schema⟩ := p
    rw [memberTexts?, List.exists_mem_cons_iff, ← ih]
    rcases schema.text? with _ | type
    · simp
    · simp

/-- `Schema.text?` is `none` exactly for the `Untypable` schemas. The induction is
`Schema.induction`, with the cases of `Schema.text?`: items, a reference, a type, and nothing of
these. -/
theorem text?_eq_none_iff (s : Schema) : s.text? = none ↔ s.Untypable := by
  induction s using Schema.induction with
  | node s ih =>
    obtain ⟨reference, type, format, items, properties, required, description⟩ := s
    rcases items with _ | items
    · rcases reference with _ | reference
      · rw [untypable_iff]
        rcases type with _ | type
        · rw [text?]
          exact ⟨fun _ => Or.inl ⟨rfl, rfl, rfl⟩, fun _ => rfl⟩
        · rw [text?]
          by_cases h : (type == "object" && !properties.isEmpty) = true
          · obtain ⟨htype, hproperties⟩ : type = "object" ∧ properties ≠ [] := by simpa using h
            rw [if_pos h, Option.map_eq_none_iff, memberTexts?_eq_none_iff]
            refine ⟨?_, ?_⟩
            · rintro ⟨p, hp, hnone⟩
              exact Or.inr ⟨⟨rfl, rfl, congrArg some htype, hproperties⟩, p, hp,
                (ih p hp).mp hnone⟩
            · rintro (⟨-, -, htype'⟩ | ⟨-, p, hp, hbad⟩)
              · cases htype'
              · exact ⟨p, hp, (ih p hp).mpr hbad⟩
          · rw [if_neg h]
            refine ⟨fun h => (by cases h), ?_⟩
            rintro (⟨-, -, htype⟩ | ⟨⟨-, -, htype, hproperties⟩, -⟩)
            · cases htype
            · refine absurd ?_ h
              simpa using ⟨Option.some.inj htype, hproperties⟩
      · rw [text?]
        exact ⟨fun h => (by cases h), fun h => (by cases h.unreferenced.2)⟩
    · rw [text?]
      exact ⟨fun h => (by cases h), fun h => (by cases h.unreferenced.1)⟩

end Schema

/-- The parameter has a schema that is `Untypable`. -/
def Parameter.Untypable (p : Parameter) : Prop := ∃ s, p.schema = some s ∧ s.Untypable

/-- `Parameter.text?` is `none` exactly for the `Untypable` parameters. Without a schema there is
always a type. -/
theorem Parameter.text?_eq_none_iff (p : Parameter) : p.text? = none ↔ p.Untypable := by
  unfold text? Untypable
  rcases p.schema with _ | schema
  · rcases p.items with _ | items <;> simp
  · simp [Schema.text?_eq_none_iff]

end SwaggerRequests
