import SwaggerRequests.Proofs.Imports

/-!
# Elements of lists, before and after resolving

A descriptor with an element's name is left out. The name that decides this is `Descriptor.name`,
the name *before* the descriptor is resolved, while a parameter is emitted under its own name, the
one *after*. For an inline parameter these are the same, so an inline parameter with an element's
name is never emitted, and it may be missing from the list (`bundle_result_competing`). A reference
has the name written next to it or its class name, and the shared parameter that it refers to may
have any name.

So an emitted parameter can have an element's name only if it is a shared parameter and the name of
its reference is not an element's (`IsEmitted.reference_of_namesElement`). The exact condition is
`bundle_elements_left_out_iff`, and `element_emitted_sharedRoles` is a document where it does not
hold.
-/

namespace SwaggerRequests

variable {ds : List Descriptor} {useHeaders : Bool} {document : Document} {d : Descriptor}
  {p : Parameter}

/-! ## Elements before resolving

The descriptors whose name satisfies `NamesElement` are inert. -/

/-- The same descriptors are kept without those that have an element's name. -/
theorem keptDescriptors_competing (ds : List Descriptor) :
    keptDescriptors (ds.filter fun d => ¬ NamesElement d.name) = keptDescriptors ds := by
  rw [filter_not_namesElement Descriptor.name ds, keptDescriptors, keptByName_competing,
    keptDescriptors]

/-- The result of `bundle` is the same without the descriptors that have an element's name. -/
theorem bundle_result_competing (ds : List Descriptor) (useHeaders : Bool) (document : Document) :
    (bundle (ds.filter fun d => ¬ NamesElement d.name) useHeaders document).result =
      (bundle ds useHeaders document).result := by
  rw [bundle_result, bundle_result, keptDescriptors_competing]

/-! ## Elements after resolving

Emitted parameters whose own name satisfies `NamesElement`. -/

/-- An emitted parameter with an element's name is a shared parameter, emitted for a reference to
its key. -/
theorem IsEmitted.reference_of_namesElement (h : IsEmitted ds useHeaders document d p)
    (hname : NamesElement p.name) :
    ∃ key name, d = .reference ("#/parameters/" ++ key) name ∧
      document.parameters.lookup key = some p := by
  have hcounts := h.counts
  cases h.resolves with
  | inline => exact absurd hname hcounts
  | @shared key _ name hlook => exact ⟨key, name, rfl, hlook⟩

/-- **Elements.** If `bundle` succeeds with `b`, it does so without the descriptors that have an
element's name. `b` is the image of typed parameters, which are those that satisfy `IsEmitted`, and
none of them has an element's name if and only if no reference that is kept resolves to a shared
parameter with such a name. The second part is `IsEmitted.reference_of_namesElement` for each of the
emitted parameters. -/
theorem bundle_elements_left_out_iff (ds : List Descriptor) (useHeaders : Bool)
    (document : Document) (b : Bundle) (h : (bundle ds useHeaders document).result = .ok b) :
    (bundle (ds.filter fun d => ¬ NamesElement d.name) useHeaders document).result = .ok b ∧
    ∃ typed : List TypedParameter, b = Bundle.image typed ∧
      (∀ p, p ∈ typed.map TypedParameter.parameter ↔
        ∃ d, IsEmitted ds useHeaders document d p) ∧
      ((∀ t ∈ typed, ¬ NamesElement t.parameter.name) ↔
        ∀ key name p,
          IsEmitted ds useHeaders document (.reference ("#/parameters/" ++ key) name) p →
            ¬ NamesElement p.name) := by
  refine ⟨(bundle_result_competing ds useHeaders document).trans h, ?_⟩
  obtain ⟨typed, rfl, hemitted⟩ := exists_image_of_bundle h
  refine ⟨typed, rfl, hemitted, ?_, ?_⟩
  · intro hnone key name p hp
    obtain ⟨t, ht, rfl⟩ := List.mem_map.mp ((hemitted p).mpr ⟨_, hp⟩)
    exact hnone t ht
  · intro hshared t ht hname
    obtain ⟨d, hd⟩ := (hemitted t.parameter).mp (List.mem_map_of_mem ht)
    obtain ⟨key, name, rfl, -⟩ := hd.reference_of_namesElement hname
    exact hshared key name t.parameter hd hname

/-- Two shared parameters, the second of which has an element's name under a key that has none. -/
def sharedRoles : Document :=
  { Document.empty with
    parameters := [("limit", textAt .query "limit"), ("roleId", textAt .query "roles[0].id")] }

/-- An inline parameter with an element's name, a reference with such a name, and one without. -/
def rolesAndLimit : List Descriptor :=
  [.inline (textAt .query "roles[0].id"),
    .reference "#/parameters/roleId" (some "roles[0].id"),
    .reference "#/parameters/limit" none]

/-- Of `rolesAndLimit` only the parameter `limit` is emitted. -/
theorem bundle_elements_left_out_rolesAndLimit :
    ∃ b, (bundle rolesAndLimit true sharedRoles).result = .ok b ∧
      b.query = ["'limit':params['limit']"] ∧
      (bundle (rolesAndLimit.filter fun d => ¬ NamesElement d.name) true sharedRoles).result =
        .ok b ∧
      ∃ typed : List TypedParameter, b = Bundle.image typed ∧
        ∀ t ∈ typed, ¬ NamesElement t.parameter.name := by
  obtain ⟨b, hb, hquery⟩ : ∃ b, (bundle rolesAndLimit true sharedRoles).result = .ok b ∧
      b.query = ["'limit':params['limit']"] := by
    refine ⟨_, rfl, ?_⟩
    decide +kernel
  obtain ⟨hfilter, typed, himage, -, hiff⟩ :=
    bundle_elements_left_out_iff rolesAndLimit true sharedRoles b hb
  refine ⟨b, hb, hquery, hfilter, typed, himage, hiff.mpr ?_⟩
  intro key name p hp
  have hresolved : (keptDescriptors rolesAndLimit).mapM (Descriptor.resolve sharedRoles) =
      .ok [textAt .query "limit"] := rfl
  rw [List.mem_singleton.mp (hp.mem_resolved hresolved)]
  decide

/-- A reference to the key `roleId` emits the shared parameter, whose name is `roles[0].id`. -/
theorem element_emitted_sharedRoles :
    ∃ b p, (bundle [.reference "#/parameters/roleId" none] false sharedRoles).result = .ok b ∧
      IsEmitted [.reference "#/parameters/roleId" none] false sharedRoles
        (.reference "#/parameters/roleId" none) p ∧
      NamesElement p.name ∧
      b.query = ["'roles[0].id':params['roles0Id']"] ∧
      b.signature = "\n    /**  */\n    roles0Id?:string," := by
  refine ⟨_, textAt .query "roles[0].id", rfl, ?_, by decide, ?_, ?_⟩
  · exact {
      last := ⟨0, isLastDeclaration_of_length_le rfl (le_refl 1)⟩
      counts := by decide
      resolves := resolve_eq_ok_iff.mp rfl
      used := fun _ => by decide }
  · decide +kernel
  · decide +kernel

end SwaggerRequests
