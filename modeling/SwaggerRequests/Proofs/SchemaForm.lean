import SwaggerRequests.Proofs.Imports

/-!
# Types in a schema and without one

A parameter has its type in one of three ways: in `schema`, in the items of an array, `items`, or in
`type` with `format`. `Typing.parameterType` has a branch for each. The branches agree: a parameter
of the second or third kind can be rewritten with a schema (`Parameter.Rewritten`), in a list of
descriptors or among the shared parameters, and `bundle` returns and reports the same.

The proof does not compare a list with its rewriting directly. `Parameter.inSchemaForm` puts every
type into a schema and removes the other fields, and a parameter and its rewriting have the same
image under it (`Parameter.Rewritten.inSchemaForm_eq`). So it is enough that `bundle` does not
change when one list is put into this form (`bundle_inSchemaForm`), and this is proved step by step
along the definition of `bundle`.
-/

namespace SwaggerRequests

/-! ## The form

The normal form, for parameters, descriptors and documents. -/

/-- The schema for the type of the parameter, whether it is in `schema`, in `items` or in `type`. -/
def Parameter.schemaForm (p : Parameter) : Option Schema :=
  match p.schema, p.items with
  | some schema, _ => some schema
  | none, some items => some { Schema.any with type := some "array", items := some items }
  | none, none => p.type.map fun type => { Schema.any with type := some type, format := p.format }

/-- The parameter with its type in `schema` only. -/
def Parameter.inSchemaForm (p : Parameter) : Parameter :=
  { p with type := none, format := none, schema := p.schemaForm, items := none }

/-- `Parameter.inSchemaForm` for an inline parameter. References stay as they are. -/
def Descriptor.inSchemaForm : Descriptor → Descriptor
  | .inline p => .inline p.inSchemaForm
  | .reference target name => .reference target name

/-- The document with its shared parameters in the form. -/
def Document.inSchemaForm (document : Document) : Document :=
  { document with parameters := document.parameters.mapValues Parameter.inSchemaForm }

/-! ## Types

The type and the consulted references of a parameter are those of its form, so typing and emission
are the same. -/

namespace Parameter

/-- A schema with `type` and `format` only has the type of the primitive. -/
theorem text?_typeSchema (type : String) (format : Option String) :
    Schema.text? { Schema.any with type := some type, format } =
      some (primitiveType (some type) format) := by
  rw [Schema.any, Schema.text?]
  exact if_neg (by simp)

theorem consulted_typeSchema (type : String) (format : Option String) :
    Schema.consulted { Schema.any with type := some type, format } = [] := by
  rw [Schema.any, Schema.consulted]
  exact if_neg (by simp)

/-- `Parameter.text?` is the same in the form. The cases are those of `Parameter.schemaForm`. -/
theorem text?_inSchemaForm (p : Parameter) : p.inSchemaForm.text? = p.text? := by
  obtain ⟨name, location, required, description, type, format, schema, items⟩ := p
  rcases schema with _ | schema
  · rcases items with _ | items
    · rcases type with _ | type
      · rfl
      · exact text?_typeSchema type format
    · change Schema.text? { Schema.any with type := some "array", items := some items } = _
      rw [Schema.any, Schema.text?]
      rfl
  · rfl

/-- `Parameter.consulted` is the same in the form. -/
theorem consulted_inSchemaForm (p : Parameter) : p.inSchemaForm.consulted = p.consulted := by
  obtain ⟨name, location, required, description, type, format, schema, items⟩ := p
  rcases schema with _ | schema
  · rcases items with _ | items
    · rcases type with _ | type
      · rfl
      · exact consulted_typeSchema type format
    · change Schema.consulted { Schema.any with type := some "array", items := some items } = _
      rw [Schema.any, Schema.consulted]
      rfl
  · rfl

end Parameter

theorem Typing.parameterType_inSchemaForm (p : Parameter) (imports : List String) :
    (parameterType p.inSchemaForm).run imports = (parameterType p).run imports := by
  rw [parameterType_run, parameterType_run, p.text?_inSchemaForm, p.consulted_inSchemaForm]
  rfl

/-- `Emission.addAll` is the same for parameters in the form, since the other fields are not
changed. -/
theorem Emission.addAll_inSchemaForm (useHeaders merged : Bool) (e : Emission)
    (ps : List Parameter) :
    addAll useHeaders merged e (ps.map Parameter.inSchemaForm) =
      addAll useHeaders merged e ps := by
  induction ps generalizing e with
  | nil => rfl
  | cons p ps ih =>
    rw [List.map_cons, addAll, addAll, Typing.parameterType_inSchemaForm]
    simp only [ih]
    rfl

/-- `assemble` is the same for parameters in the form. -/
theorem assemble_inSchemaForm (useHeaders : Bool) (ps : List Parameter) :
    assemble useHeaders (ps.map Parameter.inSchemaForm) = assemble useHeaders ps := by
  have hnames : (ps.map Parameter.inSchemaForm).map (·.name) = ps.map (·.name) := List.map_map
  have hbodies : severalBodies (ps.map Parameter.inSchemaForm) = severalBodies ps := by
    rw [severalBodies, List.countP_map]
    rfl
  rw [assemble, assemble, hnames, hbodies, Emission.addAll_inSchemaForm]

/-! ## Descriptors

Choosing and resolving commute with the form. -/

theorem Descriptor.name_inSchemaForm (d : Descriptor) : d.inSchemaForm.name = d.name := by
  cases d with
  | inline p => rfl
  | reference target name => rfl

/-- `keptDescriptors` commutes with the form, which does not change names. -/
theorem keptDescriptors_inSchemaForm (ds : List Descriptor) :
    keptDescriptors (ds.map Descriptor.inSchemaForm) =
      (keptDescriptors ds).map Descriptor.inSchemaForm := by
  rw [keptDescriptors, keptByName_map]
  simp only [Descriptor.name_inSchemaForm, keptDescriptors, Entries.mapValues, List.map_map]
  rfl

/-- `Descriptor.resolve` commutes with the form, if the document is in the form as well. -/
theorem Descriptor.resolve_inSchemaForm (document : Document) (d : Descriptor) :
    d.inSchemaForm.resolve document.inSchemaForm =
      (d.resolve document).map Parameter.inSchemaForm := by
  cases d with
  | inline p => rfl
  | reference target name =>
    have hlookup : document.inSchemaForm.parameterAt? target =
        (document.parameterAt? target).map Parameter.inSchemaForm := by
      rw [Document.parameterAt?, Document.parameterAt?]
      rcases behind? parameterRegistry target with _ | key
      · rfl
      · exact Entries.lookup_map_key (fun _ => Parameter.inSchemaForm) document.parameters key
    rw [inSchemaForm, resolve, resolve, hlookup]
    rcases document.parameterAt? target with _ | p <;> rfl

/-- `Descriptor.resolve` for the members of a list commutes with the form. -/
theorem mapM_resolve_inSchemaForm (document : Document) (ds : List Descriptor) :
    (ds.map Descriptor.inSchemaForm).mapM (Descriptor.resolve document.inSchemaForm) =
      (ds.mapM (Descriptor.resolve document)).map (List.map Parameter.inSchemaForm) := by
  induction ds with
  | nil => rfl
  | cons d ds ih =>
    rw [List.map_cons, List.mapM_cons, List.mapM_cons, ih, d.resolve_inSchemaForm]
    rcases d.resolve document with e | p
    · rfl
    · rcases ds.mapM (Descriptor.resolve document) with e | ps <;> rfl

/-- `bundle`, with its events, is the same for descriptors and a document in the form. -/
theorem bundle_inSchemaForm (ds : List Descriptor) (useHeaders : Bool) (document : Document) :
    bundle (ds.map Descriptor.inSchemaForm) useHeaders document.inSchemaForm =
      bundle ds useHeaders document := by
  have hnames : (ds.map Descriptor.inSchemaForm).map Descriptor.name = ds.map Descriptor.name := by
    rw [List.map_map]
    exact List.map_congr_left fun d _ => d.name_inSchemaForm
  have hmapM := mapM_resolve_inSchemaForm document (keptDescriptors ds)
  rw [← keptDescriptors_inSchemaForm] at hmapM
  cases h : (keptDescriptors ds).mapM (Descriptor.resolve document) with
  | error cause =>
    rw [h] at hmapM
    rw [bundle_of_unresolved h, bundle_of_unresolved hmapM, hnames]
  | ok ps =>
    rw [h] at hmapM
    rw [bundle_of_resolved h, bundle_of_resolved hmapM, hnames, assemble_inSchemaForm]

/-! ## Rewriting

The relation of the theorem. Beside a schema the other fields have no effect, so a rewriting may
leave anything there. -/

/-- The second parameter is `p`, or `p` with its type put into `schema`. -/
inductive Parameter.Rewritten (p : Parameter) : Parameter → Prop where
  /-- `p` is not rewritten -/
  | same : Rewritten p p
  /-- the `items` of `p` are put into the schema of an array -/
  | items {items : Schema} (hschema : p.schema = none) (hitems : p.items = some items)
    (type format : Option String) (beside : Option Schema) :
    Rewritten p { p with
      schema := some { Schema.any with type := some "array", items := some items }
      type, format, items := beside }
  /-- the `type` and `format` of `p` are put into a schema -/
  | type {type : String} (hschema : p.schema = none) (hitems : p.items = none)
    (htype : p.type = some type) (beside format : Option String) (items : Option Schema) :
    Rewritten p { p with
      schema := some { Schema.any with type := some type, format := p.format }
      type := beside, format, items }

/-- The second descriptor is the first, or both are inline with `Parameter.Rewritten` parameters. -/
inductive Descriptor.Rewritten : Descriptor → Descriptor → Prop where
  | inline {p q : Parameter} (h : p.Rewritten q) : Rewritten (.inline p) (.inline q)
  | reference (target : String) (name : Option String) :
    Rewritten (.reference target name) (.reference target name)

/-- `inSchemaForm` is the same for a parameter and its rewriting. -/
theorem Parameter.Rewritten.inSchemaForm_eq {p q : Parameter} (h : p.Rewritten q) :
    q.inSchemaForm = p.inSchemaForm := by
  cases h with
  | same => rfl
  | items hschema hitems => simp [inSchemaForm, schemaForm, hschema, hitems]
  | type hschema hitems htype => simp [inSchemaForm, schemaForm, hschema, hitems, htype]

theorem Descriptor.Rewritten.inSchemaForm_eq {d e : Descriptor} (h : d.Rewritten e) :
    e.inSchemaForm = d.inSchemaForm := by
  cases h with
  | inline h => exact congrArg Descriptor.inline h.inSchemaForm_eq
  | reference target name => rfl

/-- `inSchemaForm` is the same for a list of descriptors and its rewriting. -/
theorem map_rewritten {ds ds' : List Descriptor} (h : List.Forall₂ Descriptor.Rewritten ds ds') :
    ds'.map Descriptor.inSchemaForm = ds.map Descriptor.inSchemaForm := by
  induction h with
  | nil => rfl
  | cons hd _ ih => rw [List.map_cons, List.map_cons, hd.inSchemaForm_eq, ih]

theorem mapValues_rewritten {es es' : Entries Parameter}
    (h : List.Forall₂ (fun e e' => e'.1 = e.1 ∧ e.2.Rewritten e'.2) es es') :
    es'.mapValues Parameter.inSchemaForm = es.mapValues Parameter.inSchemaForm := by
  induction h with
  | nil => rfl
  | cons he _ ih =>
    rw [Entries.mapValues_cons, Entries.mapValues_cons, he.1, he.2.inSchemaForm_eq, ih]

/-- **The place of a type.** Let the descriptors `ds'` be a rewriting of `ds`, and the shared
parameters `shared'` one of those of the document. Then `bundle` is the same for both: the bundle or
the error, and the events. Both have the same normal form, and by `bundle_inSchemaForm` a bundle
depends on it only. -/
theorem bundle_rewritten (ds ds' : List Descriptor) (shared' : Entries Parameter)
    (useHeaders : Bool) (document : Document) (hds : List.Forall₂ Descriptor.Rewritten ds ds')
    (hshared : List.Forall₂ (fun e e' => e'.1 = e.1 ∧ e.2.Rewritten e'.2) document.parameters
      shared') :
    bundle ds' useHeaders { document with parameters := shared' } =
      bundle ds useHeaders document := by
  have hdocument : Document.inSchemaForm { document with parameters := shared' } =
      document.inSchemaForm :=
    congrArg (fun parameters => { document with parameters }) (mapValues_rewritten hshared)
  rw [← bundle_inSchemaForm ds', map_rewritten hds, hdocument, bundle_inSchemaForm]

/-- An array of `Pet`, an array without items and a reference, with types in schemas if
`inSchema`. -/
def petsAndSizes (inSchema : Bool) : List Descriptor :=
  let pets : Schema := { Schema.any with reference := some "#/definitions/Pet" }
  let sizes : Parameter := { textAt .query "sizes" with type := some "array" }
  [.inline {
      textAt .query "pets" with
      type := some "string"
      items := some pets
      schema := if inSchema then
        some { Schema.any with type := some "array", items := some pets } else none },
    .inline (if inSchema then
      { sizes with schema := some { Schema.any with type := some "array" } } else sizes),
    .reference "#/parameters/photo" none]

/-- A shared parameter in form data, with its type in a schema if `inSchema`. -/
def sharedPhoto (inSchema : Bool) : Entries Parameter :=
  let photo : Parameter := { textAt .formData "photo" with format := some "binary" }
  [("photo", if inSchema then
    { photo with
      schema := some { Schema.any with type := some "string", format := some "binary" } }
    else photo)]

/-- The bundles of `petsAndSizes` and `sharedPhoto` with schemas and without are the same. -/
theorem bundle_rewritten_petsAndSizes :
    ∃ b, (bundle (petsAndSizes false) false
        { Document.empty with parameters := sharedPhoto false }).result = .ok b ∧
      b.signature = String.join ["\n    /**  */\n    pets?:Pet[],",
        "\n    /**  */\n    sizes?:any[],", "\n    /**  */\n    photo?:any,"] ∧
      b.imports = ["Pet"] ∧
      (bundle (petsAndSizes true) false
        { Document.empty with parameters := sharedPhoto true }).result = .ok b := by
  obtain ⟨b, hb, hsignature, himports⟩ : ∃ b, (bundle (petsAndSizes false) false
        { Document.empty with parameters := sharedPhoto false }).result = .ok b ∧
      b.signature = String.join ["\n    /**  */\n    pets?:Pet[],",
        "\n    /**  */\n    sizes?:any[],", "\n    /**  */\n    photo?:any,"] ∧
      b.imports = ["Pet"] := by
    refine ⟨_, rfl, ?_, ?_⟩
    · decide +kernel
    · decide +kernel
  have hrewritten := bundle_rewritten (petsAndSizes false) (petsAndSizes true) (sharedPhoto true)
    false { Document.empty with parameters := sharedPhoto false }
    (.cons (.inline (.items rfl rfl _ _ _)) (.cons (.inline (.type rfl rfl rfl _ _ _))
      (.cons (.reference _ _) .nil)))
    (.cons ⟨rfl, .type rfl rfl rfl _ _ _⟩ .nil)
  refine ⟨b, hb, hsignature, himports, ?_⟩
  rw [hrewritten]
  exact hb

end SwaggerRequests
