import SwaggerRequests.Proofs.Bundle

/-!
# What a bundle imports

`b.imports` for a bundle `b`. During emission the imports accumulate over all parameters and into
all properties. The result is described in two ways:

* as a list: the classes of the references in `Parameter.consulted`, over the emitted parameters,
  each at its first place (`Bundle.imports_ofParameters`);
* as a set: the classes of the references that some emitted parameter `Consults`, where
  `Parameter.Consults` is a relation without recursion and `IsEmitted` characterizes the emitted
  parameters by their descriptors (`mem_imports_iff`).

The type of a parameter does not depend on what has been imported before it, and only missing
classes are added (`Typing.parameterType_run_append`).
-/

namespace SwaggerRequests

/-! ## Imports that grow

`importAll` on a list that is not empty, and with it the frame property of typing. -/

/-- `importAll imports names` appends the names that are not in `imports`, each once.
`List.eraseDups` keeps first places, which is the order in which `addImport` adds the names. -/
theorem importAll_eq_append (imports names : List String) :
    importAll imports names = imports ++ names.eraseDups.filter (· ∉ imports) := by
  induction names using List.reverseRecOn with
  | nil => simp [importAll]
  | append_singleton names name ih =>
    have hstep : importAll imports (names ++ [name]) = addImport (importAll imports names) name :=
      importAll_append imports names [name]
    rw [hstep, Entries.eraseDups_concat]
    by_cases hmem : name ∈ importAll imports names
    · rw [addImport_of_mem hmem, ih]
      rcases mem_importAll.mp hmem with h | h
      · by_cases h' : name ∈ names
        · rw [if_pos h']
        · simp [h', h]
      · rw [if_pos h]
    · have hnot := not_or.mp (mt mem_importAll.mpr hmem)
      rw [addImport_of_not_mem hmem, ih, if_neg hnot.2]
      simp [hnot.1]

/-- `Typing.parameterType p` has the same type for all earlier `imports`, and appends those of the
imports that it has alone that are not there. This follows from `Typing.parameterType_run`, since
both sides are given by the same text and references. -/
theorem Typing.parameterType_run_append (p : Parameter) (imports : List String) :
    (Typing.parameterType p).run imports =
      ((Typing.parameterType p).run []).map fun (type, own) =>
        (type, imports ++ own.filter (· ∉ imports)) := by
  rw [parameterType_run, parameterType_run]
  rcases p.text? with _ | type
  · rfl
  · change Except.ok (type, importAll imports _) = Except.ok (type, imports ++ _)
    rw [importAll_eq_append, importAll_nil]

/-- The imports of typed parameters are the classes of `Parameter.consulted`, as far as `importAll`
is concerned. -/
theorem importAll_flatMap_imports (imports : List String) (ts : List TypedParameter) :
    importAll imports (ts.flatMap TypedParameter.imports) =
      importAll imports
        (((ts.map TypedParameter.parameter).flatMap Parameter.consulted).map className) := by
  induction ts generalizing imports with
  | nil => rfl
  | cons t ts ih =>
    rw [List.flatMap_cons, List.map_cons, List.flatMap_cons, List.map_append, importAll_append,
      importAll_append, t.importAll_imports, ih]

/-! ## References that are consulted

The relational form of `Schema.consulted` and `Parameter.consulted`. -/

/-- The reference that decides the type of the schema: that of its items if it has items. -/
def Schema.target? (s : Schema) : Option String :=
  match s.items with
  | some items => items.reference
  | none => s.reference

/-- The schema, or one inside, is typed by `reference`. The way inside leads through written-out
objects only, and so never past items or a reference. -/
def Schema.Consults (s : Schema) (reference : String) : Prop :=
  ∃ t, Relation.ReflTransGen Inside s t ∧ t.target? = some reference

/-- The schema of the parameter `Consults` the reference or, without a schema, its items have it. -/
def Parameter.Consults (p : Parameter) (reference : String) : Prop :=
  (∃ s, p.schema = some s ∧ s.Consults reference) ∨
    (p.schema = none ∧ ∃ items, p.items = some items ∧ items.reference = some reference)

namespace Schema

variable {reference : String}

/-- A schema consults its `target?` and, if it is `WrittenOut`, what its properties consult. -/
theorem consults_iff {s : Schema} :
    s.Consults reference ↔ s.target? = some reference ∨
      (s.WrittenOut ∧ ∃ p ∈ s.properties, p.2.Consults reference) :=
  exists_inside_iff

theorem mem_consultedBelow_iff {properties : List (String × Schema)} :
    reference ∈ consultedBelow properties ↔ ∃ p ∈ properties, reference ∈ p.2.consulted := by
  induction properties with
  | nil => simp [consultedBelow]
  | cons p properties ih =>
    obtain ⟨name, schema⟩ := p
    rw [consultedBelow, List.mem_append, ih, List.exists_mem_cons_iff]

/-- `Schema.consulted` lists the references that the schema `Consults`. The induction is
`Schema.induction`, with `consults_iff` and `mem_consultedBelow_iff` for the properties. -/
theorem mem_consulted_iff (s : Schema) : reference ∈ s.consulted ↔ s.Consults reference := by
  induction s using Schema.induction with
  | node s ih =>
    obtain ⟨own, type, format, items, properties, required, description⟩ := s
    rw [consults_iff]
    -- the branches of `Schema.consulted`: items, a reference, properties
    rcases items with _ | items
    · rcases own with _ | own
      · rw [consulted]
        by_cases h : (type == some "object" && !properties.isEmpty) = true
        · have hwritten :
              WrittenOut ⟨none, type, format, none, properties, required, description⟩ := by
            simpa [WrittenOut] using h
          rw [if_pos h, mem_consultedBelow_iff]
          refine ⟨?_, ?_⟩
          · rintro ⟨p, hp, hmem⟩
            exact Or.inr ⟨hwritten, p, hp, (ih p hp).mp hmem⟩
          · rintro (hhere | ⟨-, p, hp, hinside⟩)
            · cases hhere
            · exact ⟨p, hp, (ih p hp).mpr hinside⟩
        · rw [if_neg h]
          refine ⟨fun hmem => absurd hmem List.not_mem_nil, ?_⟩
          rintro (hhere | ⟨⟨-, -, htype, hproperties⟩, -⟩)
          · cases hhere
          · refine absurd ?_ h
            simpa using ⟨htype, hproperties⟩
      · rw [consulted, List.mem_singleton]
        refine ⟨fun hmem => Or.inl (congrArg some hmem.symm), ?_⟩
        rintro (hhere | ⟨⟨-, hreference, -⟩, -⟩)
        · exact (Option.some.inj hhere).symm
        · cases hreference
    · rw [consulted, Option.mem_toList]
      refine ⟨Or.inl, ?_⟩
      rintro (hhere | ⟨⟨hitems, -⟩, -⟩)
      · exact hhere
      · cases hitems

end Schema

/-- `Parameter.consulted` lists the references that the parameter `Consults`. -/
theorem Parameter.mem_consulted_iff {p : Parameter} {reference : String} :
    reference ∈ p.consulted ↔ p.Consults reference := by
  unfold consulted Consults
  rcases p.schema with _ | schema
  · rcases p.items with _ | items <;> simp
  · simp [Schema.mem_consulted_iff]

/-! ## Parameters that are emitted

`IsEmitted` states for one descriptor and one parameter what `emitted` computes for the whole
list. -/

/-- The parameter `p` is emitted for the descriptor `d`. -/
structure IsEmitted (ds : List Descriptor) (useHeaders : Bool) (document : Document)
    (d : Descriptor) (p : Parameter) : Prop where
  /-- `d` is the last declaration of its name in `ds` -/
  last : ∃ i, IsLastDeclaration ds (d, i)
  /-- the name of `d` is not that of an element -/
  counts : ¬ NamesElement d.name
  /-- `d` resolves to `p` -/
  resolves : Resolves document d p
  /-- `p` is not a header, unless `useHeaders` -/
  used : useHeaders = false → p.location ≠ .header

variable {ds : List Descriptor} {useHeaders : Bool} {document : Document}

theorem mem_emitted_iff {ps : List Parameter} {p : Parameter} :
    p ∈ emitted useHeaders ps ↔ p ∈ ps ∧ (useHeaders = false → p.location ≠ .header) := by
  rw [emitted, List.mem_filter]
  cases useHeaders <;> simp

/-- The emitted ones among the resolved parameters are those that satisfy `IsEmitted` for some
descriptor. The descriptor is the one at the same position of `keptDescriptors ds`. -/
theorem mem_emitted_resolved_iff {resolved : List Parameter} {p : Parameter}
    (h : List.Forall₂ (Resolves document) (keptDescriptors ds) resolved) :
    p ∈ emitted useHeaders resolved ↔ ∃ d, IsEmitted ds useHeaders document d p := by
  rw [mem_emitted_iff, mem_resolved_iff h]
  refine ⟨?_, ?_⟩
  · rintro ⟨⟨d, hd, hresolves⟩, hused⟩
    obtain ⟨hlast, hcounts⟩ := mem_keptDescriptors_iff.mp hd
    exact ⟨d, hlast, hcounts, hresolves, hused⟩
  · rintro ⟨d, hd⟩
    exact ⟨⟨d, mem_keptDescriptors_iff.mpr ⟨hd.last, hd.counts⟩, hd.resolves⟩, hd.used⟩

/-- `IsEmitted` parameters are among those that `keptDescriptors ds` resolve to. -/
theorem IsEmitted.mem_resolved {d : Descriptor} {p : Parameter} {resolved : List Parameter}
    (hp : IsEmitted ds useHeaders document d p)
    (h : (keptDescriptors ds).mapM (Descriptor.resolve document) = .ok resolved) :
    p ∈ resolved :=
  (mem_resolved_iff (mapM_resolve_eq_ok_iff.mp h)).mpr
    ⟨d, mem_keptDescriptors_iff.mpr ⟨hp.last, hp.counts⟩, hp.resolves⟩

/-- A parameter among those that `keptDescriptors ds` resolve to `IsEmitted`, unless it is a header
that is left out. -/
theorem exists_isEmitted {p : Parameter} {resolved : List Parameter}
    (h : (keptDescriptors ds).mapM (Descriptor.resolve document) = .ok resolved)
    (hp : p ∈ resolved) (hused : useHeaders = false → p.location ≠ .header) :
    ∃ d, IsEmitted ds useHeaders document d p :=
  (mem_emitted_resolved_iff (mapM_resolve_eq_ok_iff.mp h)).mp (mem_emitted_iff.mpr ⟨hp, hused⟩)

/-- A bundle is the image of typed parameters that are exactly those that satisfy `IsEmitted`. Most
theorems about bundles begin with this decomposition. -/
theorem exists_image_of_bundle {b : Bundle}
    (h : (bundle ds useHeaders document).result = .ok b) :
    ∃ typed : List TypedParameter, b = Bundle.image typed ∧
      ∀ p, p ∈ typed.map TypedParameter.parameter ↔ ∃ d, IsEmitted ds useHeaders document d p := by
  obtain ⟨resolved, hresolved, h⟩ := bundle_eq_ok_iff.mp h
  obtain ⟨typed, htyped, hb⟩ := Bundle.ofParameters_eq_ok_iff.mp h
  refine ⟨typed, hb, fun p => ?_⟩
  rw [htyped, mem_emitted_resolved_iff hresolved]

/-- A string parameter `name` at `location`, without a schema. -/
def textAt (location : Location) (name : String) : Parameter :=
  ⟨name, location, false, none, some "string", none, none, none⟩

/-! ## The imports of a bundle

The two descriptions of `b.imports`, and the theorem. -/

/-- The imports of a bundle are the classes of `Parameter.consulted`, without duplicates. -/
theorem Bundle.imports_ofParameters {ps : List Parameter} {b : Bundle}
    (h : Bundle.ofParameters ps = .ok b) :
    b.imports = ((ps.flatMap Parameter.consulted).map className).eraseDups := by
  obtain ⟨typed, rfl, rfl⟩ := Bundle.ofParameters_eq_ok_iff.mp h
  rw [← importAll_nil, ← importAll_flatMap_imports, importAll_nil]
  rfl

/-- A class is imported exactly if an emitted parameter `Consults` a reference to it. It is
`Bundle.imports_ofParameters` for membership, with `mem_consulted_iff` and
`mem_emitted_resolved_iff`. -/
theorem mem_imports_iff {b : Bundle} (h : (bundle ds useHeaders document).result = .ok b)
    {name : String} :
    name ∈ b.imports ↔ ∃ d p reference, IsEmitted ds useHeaders document d p ∧
      p.Consults reference ∧ className reference = name := by
  obtain ⟨typed, rfl, hemitted⟩ := exists_image_of_bundle h
  have himports : name ∈ (Bundle.image typed).imports ↔
      ∃ t ∈ typed, ∃ reference, t.parameter.Consults reference ∧ className reference = name := by
    simp only [Bundle.image, List.mem_eraseDups, List.mem_flatMap, TypedParameter.imports_eq,
      List.mem_map, Parameter.mem_consulted_iff]
  rw [himports]
  refine ⟨?_, ?_⟩
  · rintro ⟨t, ht, reference, hconsults, hname⟩
    obtain ⟨d, hd⟩ := (hemitted t.parameter).mp (List.mem_map_of_mem ht)
    exact ⟨d, t.parameter, reference, hd, hconsults, hname⟩
  · rintro ⟨d, p, reference, hd, hconsults, hname⟩
    obtain ⟨t, ht, rfl⟩ := List.mem_map.mp ((hemitted p).mpr ⟨d, hd⟩)
    exact ⟨t, ht, reference, hconsults, hname⟩

/-- **Imports.** The imports of a bundle are the classes of `Parameter.consulted`, over the emitted
parameters in their order and each at its first place. So they have no repetition, and a class is
among them exactly if some parameter that `IsEmitted` also `Consults` a reference to it. Typing a
parameter gives the same type whatever has been imported before, and adds the classes that are
missing. -/
theorem bundle_imports_eq_consulted (ds : List Descriptor) (useHeaders : Bool)
    (document : Document) :
    (∀ b, (bundle ds useHeaders document).result = .ok b →
      (∃ resolved, List.Forall₂ (Resolves document) (keptDescriptors ds) resolved ∧
        b.imports = (((emitted useHeaders resolved).flatMap Parameter.consulted).map
          className).eraseDups) ∧
      b.imports.Nodup ∧
      ∀ name, name ∈ b.imports ↔ ∃ d p reference, IsEmitted ds useHeaders document d p ∧
        p.Consults reference ∧ className reference = name) ∧
    ∀ (p : Parameter) (imports : List String),
      (Typing.parameterType p).run imports =
        ((Typing.parameterType p).run []).map fun (type, own) =>
          (type, imports ++ own.filter (· ∉ imports)) := by
  refine ⟨?_, Typing.parameterType_run_append⟩
  intro b hb
  obtain ⟨resolved, hresolved, hb⟩ := bundle_eq_ok_iff.mp hb
  have himports := Bundle.imports_ofParameters hb
  refine ⟨⟨resolved, hresolved, himports⟩, ?_, ?_⟩
  · rw [himports]
    exact Entries.nodup_eraseDups _
  · intro name
    rw [himports, List.mem_eraseDups, List.mem_map]
    simp only [List.mem_flatMap, mem_emitted_resolved_iff hresolved, Parameter.mem_consulted_iff]
    refine ⟨?_, ?_⟩
    · rintro ⟨reference, ⟨p, ⟨d, hd⟩, hconsults⟩, hname⟩
      exact ⟨d, p, reference, hd, hconsults, hname⟩
    · rintro ⟨d, p, reference, hd, hconsults, hname⟩
      exact ⟨reference, ⟨p, ⟨d, hd⟩, hconsults⟩, hname⟩

/-- Four parameters, of which only the last is emitted: it replaces the first, `lines[0].id` is the
name of an element, and `X-Trace` is a header. -/
def orderParameters : List Descriptor :=
  let pointer (reference : String) : Schema := { Schema.any with reference := some reference }
  let object (properties : List (String × Schema)) : Schema :=
    { Schema.any with type := some "object", properties }
  let parameter (name : String) (location : Location) (schema : Schema) : Descriptor :=
    .inline ⟨name, location, true, none, none, none, some schema, none⟩
  [parameter "order" .body (pointer "#/definitions/OldOrder"),
    parameter "lines[0].id" .query (pointer "#/definitions/Id"),
    parameter "X-Trace" .header (pointer "#/definitions/Trace"),
    parameter "order" .body (object [
      ("lines", { pointer "#/definitions/Lines" with
        items := some (pointer "#/definitions/Line<Item>") }),
      ("owner", object [("pet", pointer "#/definitions/Pet"), ("note", pointer "Line Item")])])]

/-- In `orderParameters` items count before the reference beside them, two references lead to one
class, and parameters that are not emitted import nothing. -/
theorem bundle_imports_orderParameters :
    ∃ b, (bundle orderParameters false Document.empty).result = .ok b ∧
      b.imports = ["Line_Item", "Pet"] ∧ b.imports.Nodup := by
  obtain ⟨b, hb, himports⟩ : ∃ b, (bundle orderParameters false Document.empty).result = .ok b ∧
      b.imports = ["Line_Item", "Pet"] := by
    refine ⟨_, rfl, ?_⟩
    decide +kernel
  exact ⟨b, hb, himports,
    ((bundle_imports_eq_consulted orderParameters false Document.empty).1 b hb).2.1⟩

end SwaggerRequests
