import SwaggerRequests.Proofs.Imports

/-!
# Overridden declarations

Of several declarations of one name the last is kept. The name is that of the descriptor, *before*
it is resolved, and for a reference without a name of its own it is the class name of its target. So
for every declaration the last one of its name is kept, and the parameter of that one is emitted
(`exists_isLastDeclaration_of_getElem?`, `IsLastDeclaration.isEmitted`).

The name of the *parameter* that a declaration resolves to can be lost, however. Two references to
different parameters can have one class name, and an inline parameter can have the class name of a
reference. `Overridden` describes this situation, and `bundle_keeps_declared_names` shows that it is
the only one in which a parameter's name is lost. `declaration_lost_petIdsAndKind` is an instance of
it.
-/

namespace SwaggerRequests

variable {ds : List Descriptor} {document : Document}

/-- The name of a declaration at position `i` has a last declaration, at `i` or behind it. -/
theorem exists_isLastDeclaration_of_getElem? {d : Descriptor} {i : Nat} (hd : ds[i]? = some d)
    (hname : ¬ NamesElement d.name) :
    ∃ d' j, i ≤ j ∧ IsLastDeclaration ds (d', j) ∧ d'.name = d.name := by
  have hmem : d.name ∈ (keptByName numberedName ds.zipIdx).keys := by
    rw [keys_keptByName, competing_numbered, List.mem_eraseDups, List.mem_filter]
    exact ⟨List.mem_map_of_mem (List.mem_of_getElem? hd), decide_eq_true hname⟩
  obtain ⟨⟨key, d', j⟩, he, hkey⟩ := List.mem_map.mp hmem
  have hlast := isLastDeclaration_of_mem he
  have hsame : d'.name = d.name := (last_of_mem_keptByName he).1.trans hkey
  refine ⟨d', j, ?_, hlast, hsame⟩
  by_contra hj
  exact hlast.2 i d (Nat.lt_of_not_le hj) hd hsame.symm

/-- The last declaration of a name is emitted with headers, if it resolves and the name is not an
element's. -/
theorem IsLastDeclaration.isEmitted {d : Descriptor} {i : Nat} {p : Parameter}
    (h : IsLastDeclaration ds (d, i)) (hname : ¬ NamesElement d.name)
    (hp : Resolves document d p) : IsEmitted ds true document d p where
  last := ⟨i, h⟩
  counts := hname
  resolves := hp
  used := fun h => absurd h Bool.noConfusion

/-- The declaration `d` at position `i` is overridden by `d'`. -/
structure Overridden (ds : List Descriptor) (document : Document) (d : Descriptor) (i : Nat)
    (name : String) (d' : Descriptor) (p' : Parameter) : Prop where
  /-- `d'` is a last declaration behind it -/
  later : ∃ j, i < j ∧ IsLastDeclaration ds (d', j)
  /-- the descriptors have one name -/
  sameName : d'.name = d.name
  /-- `d'` stands for the parameter `p'` -/
  resolves : Resolves document d' p'
  /-- this parameter has another name -/
  differs : p'.name ≠ name

/-- **Declared names.** Let all references of `ds` resolve, and let `b` be the bundle with headers.
It is the image of typed parameters, which are those that satisfy `IsEmitted`, and for every
declaration whose name is not an element's:

* the last declaration of its name resolves to an emitted parameter;
* the name of the parameter that it resolves to is the name of an emitted parameter, or the
  declaration is `Overridden` by a later one;
* the second case is excluded if declarations of one name resolve to parameters of one name. -/
theorem bundle_keeps_declared_names (ds : List Descriptor) (document : Document) (b : Bundle)
    (hresolves : ∀ d ∈ ds, ∃ p, Resolves document d p)
    (hb : (bundle ds true document).result = .ok b) :
    ∃ typed : List TypedParameter, b = Bundle.image typed ∧
      (∀ p, p ∈ typed.map TypedParameter.parameter ↔ ∃ d, IsEmitted ds true document d p) ∧
      (∀ i d, ds[i]? = some d → ¬ NamesElement d.name →
        ∃ d' j p', i ≤ j ∧ IsLastDeclaration ds (d', j) ∧ d'.name = d.name ∧
          Resolves document d' p' ∧ p' ∈ typed.map TypedParameter.parameter) ∧
      (∀ i d p, ds[i]? = some d → ¬ NamesElement d.name → Resolves document d p →
        (∃ t ∈ typed, t.parameter.name = p.name) ∨
          ∃ d' p', Overridden ds document d i p.name d' p') ∧
      ((∀ d ∈ ds, ∀ d' ∈ ds, d.name = d'.name →
          ∀ p p', Resolves document d p → Resolves document d' p' → p.name = p'.name) →
        ∀ d ∈ ds, ¬ NamesElement d.name → ∀ p, Resolves document d p →
          ∃ t ∈ typed, t.parameter.name = p.name) := by
  obtain ⟨typed, rfl, hemitted⟩ := exists_image_of_bundle hb
  -- the last declaration of the name is resolved by assumption, and it is emitted
  have hlast : ∀ i d, ds[i]? = some d → ¬ NamesElement d.name →
      ∃ d' j p', i ≤ j ∧ IsLastDeclaration ds (d', j) ∧ d'.name = d.name ∧
        Resolves document d' p' ∧ p' ∈ typed.map TypedParameter.parameter := by
    intro i d hd hname
    obtain ⟨d', j, hij, hlast, hsame⟩ := exists_isLastDeclaration_of_getElem? hd hname
    obtain ⟨p', hp'⟩ := hresolves d' (List.mem_of_getElem? hlast.1)
    have hname' : ¬ NamesElement d'.name := hsame ▸ hname
    exact ⟨d', j, p', hij, hlast, hsame, hp',
      (hemitted p').mpr ⟨d', hlast.isEmitted hname' hp'⟩⟩
  have hlost : ∀ i d p, ds[i]? = some d → ¬ NamesElement d.name → Resolves document d p →
      (∃ t ∈ typed, t.parameter.name = p.name) ∨
        ∃ d' p', Overridden ds document d i p.name d' p' := by
    intro i d p hd hname hp
    obtain ⟨d', j, p', hij, hlast, hsame, hp', hmem⟩ := hlast i d hd hname
    by_cases hagree : p'.name = p.name
    · obtain ⟨t, ht, rfl⟩ := List.mem_map.mp hmem
      exact Or.inl ⟨t, ht, hagree⟩
    · -- if `d` were the last declaration itself, `p'` would be `p`
      have hne : i ≠ j := by
        rintro rfl
        obtain rfl : d = d' := Option.some.inj (hd.symm.trans hlast.1)
        exact hagree (congrArg Parameter.name (hp'.unique hp))
      exact Or.inr ⟨d', p', ⟨j, Nat.lt_of_le_of_ne hij hne, hlast⟩, hsame, hp', hagree⟩
  refine ⟨typed, rfl, hemitted, hlast, hlost, ?_⟩
  intro hagree d hd hname p hp
  obtain ⟨i, hi⟩ := List.mem_iff_getElem?.mp hd
  refine (hlost i d p hi hname hp).resolve_right ?_
  rintro ⟨d', p', hover⟩
  obtain ⟨j, -, hj⟩ := hover.later
  exact hover.differs
    (hagree d' (List.mem_of_getElem? hj.1) d hd hover.sameName p' p hover.resolves hp)

/-- Two shared parameters whose keys differ in a character that `className` replaces. -/
def sharedPetIds : Document :=
  { Document.empty with
    parameters := [("pet-id", textAt .query "id"), ("pet_id", textAt .query "owner")] }

/-- References to the two parameters, with another parameter between them. -/
def petIdsAndKind : List Descriptor :=
  [.reference "#/parameters/pet-id" none,
    .inline (textAt .query "kind"),
    .reference "#/parameters/pet_id" none]

/-- All of these descriptors resolve. -/
theorem petIdsAndKind_resolve : ∀ d ∈ petIdsAndKind, ∃ p, Resolves sharedPetIds d p := by
  intro d hd
  have hd' : d ∈ [petIdsAndKind[0], petIdsAndKind[1], petIdsAndKind[2]] := hd
  simp only [List.mem_cons, List.not_mem_nil, or_false] at hd'
  rcases hd' with rfl | rfl | rfl <;> exact ⟨_, resolve_eq_ok_iff.mp rfl⟩

/-- The second reference is kept in the position of the first. -/
theorem bundle_keeps_declared_names_petIdsAndKind :
    ∃ b, (∀ d ∈ petIdsAndKind, ∃ p, Resolves sharedPetIds d p) ∧
      (bundle petIdsAndKind true sharedPetIds).result = .ok b ∧
      b.query = ["'owner':params['owner']", "'kind':params['kind']"] ∧
      ∃ typed : List TypedParameter, b = Bundle.image typed ∧
        ∃ d' j p', 0 ≤ j ∧ IsLastDeclaration petIdsAndKind (d', j) ∧ d'.name = "pet_id" ∧
          Resolves sharedPetIds d' p' ∧ p' ∈ typed.map TypedParameter.parameter := by
  obtain ⟨b, hb, hquery⟩ : ∃ b, (bundle petIdsAndKind true sharedPetIds).result = .ok b ∧
      b.query = ["'owner':params['owner']", "'kind':params['kind']"] := by
    refine ⟨_, rfl, ?_⟩
    decide +kernel
  obtain ⟨typed, himage, -, hlast, -⟩ :=
    bundle_keeps_declared_names petIdsAndKind sharedPetIds b petIdsAndKind_resolve hb
  exact ⟨b, petIdsAndKind_resolve, hb, hquery, typed, himage, hlast 0 _ rfl (by decide)⟩

/-- No emitted parameter has the name that the first reference resolves to. -/
theorem declaration_lost_petIdsAndKind :
    (∀ d ∈ petIdsAndKind, ∃ p, Resolves sharedPetIds d p) ∧
    (∃ b, (bundle petIdsAndKind true sharedPetIds).result = .ok b) ∧
    ¬ NamesElement petIdsAndKind[0].name ∧
    (∃ p, Resolves sharedPetIds petIdsAndKind[0] p ∧ p.name = "id") ∧
    ¬ ∃ d p, IsEmitted petIdsAndKind true sharedPetIds d p ∧ p.name = "id" := by
  refine ⟨petIdsAndKind_resolve, ⟨_, rfl⟩, by decide, ⟨_, resolve_eq_ok_iff.mp rfl, rfl⟩, ?_⟩
  rintro ⟨d, p, hd, hname⟩
  have hresolved : (keptDescriptors petIdsAndKind).mapM (Descriptor.resolve sharedPetIds) =
      .ok [textAt .query "owner", textAt .query "kind"] := rfl
  rcases List.mem_pair.mp (hd.mem_resolved hresolved) with rfl | rfl
  · exact absurd hname (by decide)
  · exact absurd hname (by decide)

end SwaggerRequests
