import SwaggerRequests.Proofs.TopLevelNames

/-!
# Classes without a definition

The generator warns of a class that has no definition. The check, `undefinedClasses`, is made on the
imports of a bundle. These are class names and no longer references, and it looks them up among the
keys of the definitions. Two errors follow from this, because `className` replaces characters of the
key and drops the rest of the reference:

* a warning of a class that has a definition, if the key is not its own class name,
* no warning of a class without a definition, if the last segment of its reference is a key.

The module compares `Document.WarnsOf`, an event in the log, with `Document.Lacks`, which speaks of
references: the operation refers to the class (`Document.RefersTo`) by a reference that is not
`#/definitions/` followed by a key (`Document.Defines`). `warnsOf_iff` computes the warnings, and
`warnsOf_exact_iff` gives the exact conditions under which all warnings are justified and none is
missing. `warnsOf_wrong_listAndStray` shows both errors in one document.
-/

namespace SwaggerRequests

variable {document : Document} {useHeaders : Bool}

/-! ## The report of an operation

The log of a run divided by operations, so that an event in it can be traced to one of them. -/

/-- The events of an operation with the bundle `b`: `Event.generating`, the log of `bundle`, and the
warnings of `undefinedClasses`. -/
def Endpoint.report (document : Document) (useHeaders : Bool) (e : Endpoint) (b : Bundle) :
    List Event :=
  .generating e.method.name e.path ::
    (bundle e.descriptors useHeaders document).log ++ undefinedClasses document e b.imports

/-- If the operation has a bundle, the log of `requestFunction` is its report. -/
theorem requestFunction_log {e : Endpoint} {b : Bundle} (taken : List String)
    (h : e.outcome document useHeaders = .ok b) :
    (requestFunction document useHeaders taken e).log = e.report document useHeaders b := by
  have hbundle : (bundle e.descriptors useHeaders document).result = .ok b := h
  have hresult : ((bundle e.descriptors useHeaders document).mapError
      (FunctionError.mk e.method e.path)).result = .ok b := by
    rw [Logged.result_mapError, hbundle]
    rfl
  rw [requestFunction, Logged.log_bind_of_ok (Logged.result_report _),
    Logged.log_bind_of_ok hresult, Logged.log_bind_of_ok (Logged.result_report _),
    Logged.log_pure, List.append_nil]
  rfl

/-- If all operations have bundles, an event is in the log exactly if it is in the report of one of
them. The induction is on the operations, with `requestFunction_log` for the head. -/
theorem mem_requestFunctionsFrom_log_iff {taken : List String} {es : List Endpoint}
    {fs : List RequestFunction} {event : Event}
    (h : (requestFunctionsFrom document useHeaders taken es).result = .ok fs) :
    event ∈ (requestFunctionsFrom document useHeaders taken es).log ↔
      ∃ e ∈ es, ∃ b, e.outcome document useHeaders = .ok b ∧
        event ∈ e.report document useHeaders b := by
  induction es generalizing taken fs with
  | nil => simp [requestFunctionsFrom]
  | cons e es ih =>
    rw [requestFunctionsFrom_cons_result] at h
    obtain ⟨f, hf, h⟩ := bind_eq_ok_iff.mp h
    obtain ⟨fs', hfs, -⟩ := bind_eq_ok_iff.mp h
    obtain ⟨b, hb, -⟩ := requestFunction_ok_inv hf
    have hhead : (∃ b, e.outcome document useHeaders = .ok b ∧
        event ∈ e.report document useHeaders b) ↔ event ∈ e.report document useHeaders b := by
      rw [hb]
      simp
    rw [requestFunctionsFrom, Logged.log_bind_of_ok hf, Logged.log_bind_of_ok hfs, Logged.log_pure,
      List.append_nil, List.mem_append, requestFunction_log taken hb, List.exists_mem_cons_iff,
      hhead, ih hfs]

/-! ## Warnings

The warnings, as predicates on a document, a method and a path. -/

namespace Document

/-- An operation with the method and path has an emitted parameter that consults `reference` for its
type. -/
def RefersTo (document : Document) (useHeaders : Bool) (method : Method) (path reference : String) :
    Prop :=
  ∃ e ∈ document.endpoints, e.method = method ∧ e.path = path ∧
    ∃ d p, IsEmitted e.descriptors useHeaders document d p ∧ p.Consults reference

/-- The reference is `#/definitions/` followed by a key of the definitions. -/
def Defines (document : Document) (reference : String) : Prop :=
  ∃ key ∈ document.definitions.keys, reference = "#/definitions/" ++ key

instance (document : Document) : DecidablePred document.Defines := fun reference =>
  inferInstanceAs (Decidable (∃ key ∈ document.definitions.keys,
    reference = "#/definitions/" ++ key))

/-- The log has the event `Event.undefinedClass` for the method, the path and the class `name`. -/
def WarnsOf (document : Document) (useHeaders : Bool) (method : Method) (path name : String) :
    Prop :=
  .undefinedClass method.name path name ∈ (requestFunctions document useHeaders).log

/-- An operation refers to the class `name` by a reference that the document does not define. -/
def Lacks (document : Document) (useHeaders : Bool) (method : Method) (path name : String) :
    Prop :=
  ∃ reference, document.RefersTo useHeaders method path reference ∧
    className reference = name ∧ ¬ document.Defines reference

end Document

/-- Methods are determined by their names, so a warning determines its method. -/
theorem Method.name_injective : Function.Injective Method.name := by
  intro m m' h
  cases m <;> cases m' <;> first | rfl | exact absurd h (by decide)

variable {method : Method} {path name : String}

/-- `definitionAt?`, which looks up a whole reference, finds a definition exactly if the document
`Defines` it. The reference is divided at the end of its beginning `#/definitions/`, so the key is
determined. -/
theorem isSome_definitionAt?_iff {reference : String} :
    (document.definitionAt? reference).isSome ↔ document.Defines reference := by
  rw [Document.definitionAt?, Option.isSome_iff_exists]
  refine ⟨?_, ?_⟩
  · rintro ⟨s, hs⟩
    obtain ⟨key, hkey, hlookup⟩ := Option.bind_eq_some_iff.mp hs
    refine ⟨key, Entries.isSome_lookup_iff.mp ?_, behind?_eq_some_iff.mp hkey⟩
    exact Option.isSome_iff_exists.mpr ⟨s, hlookup⟩
  · rintro ⟨key, hkey, rfl⟩
    obtain ⟨s, hs⟩ := Option.isSome_iff_exists.mp (Entries.isSome_lookup_iff.mpr hkey)
    exact ⟨s, Option.bind_eq_some_iff.mpr ⟨key, behind?_eq_some_iff.mpr rfl, hs⟩⟩

/-- A report has the warning exactly if it is of this method and path, and the class is imported and
is not a key. -/
theorem undefinedClass_mem_report_iff {e : Endpoint} {b : Bundle} :
    .undefinedClass method.name path name ∈ e.report document useHeaders b ↔
      e.method = method ∧ e.path = path ∧ name ∈ b.imports ∧
        name ∉ document.definitions.keys := by
  have hdetail : .undefinedClass method.name path name ∉
      (bundle e.descriptors useHeaders document).log := by
    intro hevent
    obtain ⟨p, hp⟩ := bundle_reports e.descriptors useHeaders document _ hevent
    simp at hp
  have hkey : (document.definition? name).isNone = true ↔ name ∉ document.definitions.keys := by
    rw [← Entries.isSome_lookup_iff, ← Option.not_isSome, Bool.not_eq_true', Bool.not_eq_true]
    rfl
  rw [Endpoint.report, List.cons_append, List.mem_cons, List.mem_append, undefinedClasses,
    List.mem_map]
  refine ⟨?_, ?_⟩
  · rintro (hevent | hevent | ⟨name', hname, hevent⟩)
    · cases hevent
    · exact absurd hevent hdetail
    · obtain ⟨hmethod, hpath, rfl⟩ := Event.undefinedClass.inj hevent
      obtain ⟨himport, hnone⟩ := List.mem_filter.mp hname
      exact ⟨Method.name_injective hmethod, hpath, himport, hkey.mp hnone⟩
  · rintro ⟨rfl, rfl, himport, hname⟩
    exact Or.inr (Or.inr ⟨name, List.mem_filter.mpr ⟨himport, hkey.mpr hname⟩, rfl⟩)

/-- There is a warning of `name` exactly if an operation refers to a class `name` and `name` is not
a key. The event determines the method, by `Method.name_injective`, and the path, so only operations
with these can report it. -/
theorem warnsOf_iff {fs : List RequestFunction}
    (h : (requestFunctions document useHeaders).result = .ok fs) :
    document.WarnsOf useHeaders method path name ↔
      (∃ reference, document.RefersTo useHeaders method path reference ∧
        className reference = name) ∧ name ∉ document.definitions.keys := by
  rw [Document.WarnsOf, requestFunctions, mem_requestFunctionsFrom_log_iff h]
  refine ⟨?_, ?_⟩
  · rintro ⟨e, he, b, hb, hevent⟩
    obtain ⟨hmethod, hpath, himport, hname⟩ := undefinedClass_mem_report_iff.mp hevent
    obtain ⟨d, p, reference, hp, hconsults, hclass⟩ := (mem_imports_iff hb).mp himport
    exact ⟨⟨reference, ⟨e, he, hmethod, hpath, d, p, hp, hconsults⟩, hclass⟩, hname⟩
  · rintro ⟨⟨reference, ⟨e, he, hmethod, hpath, d, p, hp, hconsults⟩, hclass⟩, hname⟩
    obtain ⟨b, hb⟩ := outcome_of_requestFunctionsFrom_ok h e he
    have himport : name ∈ b.imports :=
      (mem_imports_iff hb).mpr ⟨d, p, reference, hp, hconsults, hclass⟩
    exact ⟨e, he, b, hb, undefinedClass_mem_report_iff.mpr ⟨hmethod, hpath, himport, hname⟩⟩

/-- **Warnings look up class names.** The document finds a reference exactly if it `Defines` it. But
for every method and path:

* There is a warning of each class that is referred to and is not a key of the definitions.
* All warnings are justified exactly if every defined reference has a class that is a key, or a
  class that another reference lacks.
* No warning is missing exactly if no undefined reference has a class that is a key.
* If every reference is `#/definitions/` followed by its class, the warnings are exactly the lacking
  classes. -/
theorem warnsOf_exact_iff (document : Document) (useHeaders : Bool) (fs : List RequestFunction)
    (h : (requestFunctions document useHeaders).result = .ok fs) :
    (∀ reference, (document.definitionAt? reference).isSome ↔ document.Defines reference) ∧
    ∀ method path,
      (∀ name, document.WarnsOf useHeaders method path name ↔
        (∃ reference, document.RefersTo useHeaders method path reference ∧
          className reference = name) ∧ name ∉ document.definitions.keys) ∧
      ((∀ name, document.WarnsOf useHeaders method path name →
          document.Lacks useHeaders method path name) ↔
        ∀ reference, document.RefersTo useHeaders method path reference →
          document.Defines reference → className reference ∈ document.definitions.keys ∨
            document.Lacks useHeaders method path (className reference)) ∧
      ((∀ name, document.Lacks useHeaders method path name →
          document.WarnsOf useHeaders method path name) ↔
        ∀ reference, document.RefersTo useHeaders method path reference →
          ¬ document.Defines reference → className reference ∉ document.definitions.keys) ∧
      ((∀ reference, document.RefersTo useHeaders method path reference →
          reference = "#/definitions/" ++ className reference) →
        ∀ name, document.WarnsOf useHeaders method path name ↔
          document.Lacks useHeaders method path name) := by
  refine ⟨fun reference => isSome_definitionAt?_iff, fun method path => ?_⟩
  have hwarns := fun name => @warnsOf_iff document useHeaders method path name fs h
  have hright : (∀ name, document.WarnsOf useHeaders method path name →
      document.Lacks useHeaders method path name) ↔
        ∀ reference, document.RefersTo useHeaders method path reference →
          document.Defines reference → className reference ∈ document.definitions.keys ∨
            document.Lacks useHeaders method path (className reference) := by
    refine ⟨fun hall reference hrefers _ => ?_, fun hall name hname => ?_⟩
    · by_cases hkey : className reference ∈ document.definitions.keys
      · exact Or.inl hkey
      · exact Or.inr (hall _ ((hwarns _).mpr ⟨⟨reference, hrefers, rfl⟩, hkey⟩))
    · obtain ⟨⟨reference, hrefers, rfl⟩, hkey⟩ := (hwarns name).mp hname
      by_cases hdefines : document.Defines reference
      · exact (hall reference hrefers hdefines).resolve_left hkey
      · exact ⟨reference, hrefers, rfl, hdefines⟩
  have hcomplete : (∀ name, document.Lacks useHeaders method path name →
      document.WarnsOf useHeaders method path name) ↔
        ∀ reference, document.RefersTo useHeaders method path reference →
          ¬ document.Defines reference → className reference ∉ document.definitions.keys := by
    -- the class of an undefined reference is warned of unless it is a key
    refine ⟨fun hall reference hrefers hdefines => ?_, ?_⟩
    · exact ((hwarns _).mp (hall _ ⟨reference, hrefers, rfl, hdefines⟩)).2
    · rintro hall name ⟨reference, hrefers, rfl, hdefines⟩
      exact (hwarns _).mpr ⟨⟨reference, hrefers, rfl⟩, hall reference hrefers hdefines⟩
  refine ⟨hwarns, hright, hcomplete, fun hplain name => ⟨hright.mpr ?_ name, hcomplete.mpr ?_ name⟩⟩
  · rintro reference hrefers ⟨key, hkey, hreference⟩
    have hclass : className reference = key :=
      (String.append_right_inj _).mp ((hplain reference hrefers).symm.trans hreference)
    exact Or.inl (hclass ▸ hkey)
  · intro reference hrefers hdefines hkey
    exact hdefines ⟨className reference, hkey, hplain reference hrefers⟩

/-- The references that the emitted parameters of an operation consult, computed from its resolved
parameters. With this, `RefersTo` can be decided for a given document. -/
theorem consults_iff_mem {e : Endpoint} {resolved : List Parameter} {reference : String}
    (h : (keptDescriptors e.descriptors).mapM (Descriptor.resolve document) = .ok resolved) :
    (∃ d p, IsEmitted e.descriptors useHeaders document d p ∧ p.Consults reference) ↔
      reference ∈ (emitted useHeaders resolved).flatMap Parameter.consulted := by
  have hemitted := fun p => @mem_emitted_resolved_iff e.descriptors useHeaders document resolved p
    (mapM_resolve_eq_ok_iff.mp h)
  simp only [List.mem_flatMap, Parameter.mem_consulted_iff, hemitted]
  refine ⟨?_, ?_⟩
  · rintro ⟨d, p, hp, hconsults⟩
    exact ⟨p, ⟨d, hp⟩, hconsults⟩
  · rintro ⟨p, ⟨d, hp⟩, hconsults⟩
    exact ⟨d, p, hp, hconsults⟩

/-- A parameter whose schema is a reference. -/
def pointer (name : String) (location : Location) (reference : String) : Parameter :=
  ⟨name, location, false, none, none, none,
    some { Schema.any with reference := some reference }, none⟩

/-- Definitions `Pet` and `List«Pet»`, and an operation `GET /pets` with the given parameters. -/
def petLists (parameters : List Parameter) : Document :=
  let pet : Schema := { Schema.any with type := some "object" }
  let pets : Schema :=
    { Schema.any with
      type := some "array"
      items := some { Schema.any with reference := some "#/definitions/Pet" } }
  { Document.empty with
    definitions := [("Pet", pet), ("List«Pet»", pets)]
    paths := [("/pets", {
      operation? := fun
        | .get => some { Operation.empty with parameters := parameters.map .inline }
        | _ => none
      parameters := [] })] }

/-- What the operation of `petLists` refers to, if all its parameters are emitted. -/
theorem refersTo_petLists_iff {parameters : List Parameter} {reference : String}
    (h : (keptDescriptors (parameters.map .inline)).mapM
      (Descriptor.resolve (petLists parameters)) = .ok parameters)
    (hall : emitted false parameters = parameters) :
    (petLists parameters).RefersTo false .get "/pets" reference ↔
      reference ∈ parameters.flatMap Parameter.consulted := by
  obtain ⟨e, hendpoints, hmethod, hpath, hdescriptors⟩ : ∃ e,
      (petLists parameters).endpoints = [e] ∧ e.method = .get ∧ e.path = "/pets" ∧
        e.descriptors = parameters.map .inline := ⟨_, rfl, rfl, rfl, rfl⟩
  rw [← hdescriptors] at h
  have hconsults := @consults_iff_mem (petLists parameters) false e _ reference h
  rw [hall] at hconsults
  rw [Document.RefersTo, hendpoints, ← hconsults]
  simp [hmethod, hpath]

/-- References to the definition `Pet` and to `Vet`, which has no definition. -/
def petAndVet : Document :=
  petLists [pointer "pet" .query "#/definitions/Pet", pointer "vet" .query "#/definitions/Vet"]

/-- The only warning for `petAndVet` is of `Vet`. -/
theorem warnsOf_exact_petAndVet :
    ∃ fs, (requestFunctions petAndVet false).result = .ok fs ∧
      ∀ name, petAndVet.WarnsOf false .get "/pets" name ↔ name = "Vet" := by
  obtain ⟨fs, hfs⟩ : ∃ fs, (requestFunctions petAndVet false).result = .ok fs := ⟨_, rfl⟩
  have hrefers : ∀ reference, petAndVet.RefersTo false .get "/pets" reference ↔
      reference ∈ ["#/definitions/Pet", "#/definitions/Vet"] :=
    fun _ => refersTo_petLists_iff rfl rfl
  have hpet : className "#/definitions/Pet" = "Pet" := by decide +kernel
  have hvet : className "#/definitions/Vet" = "Vet" := by decide +kernel
  obtain ⟨-, hexact⟩ := warnsOf_exact_iff petAndVet false fs hfs
  obtain ⟨-, -, -, hplain⟩ := hexact .get "/pets"
  refine ⟨fs, hfs, fun name => (hplain ?_ name).trans ?_⟩
  · intro reference hreference
    rcases List.mem_pair.mp ((hrefers reference).mp hreference) with rfl | rfl
    · rw [hpet]
      decide +kernel
    · rw [hvet]
      decide +kernel
  · refine ⟨?_, ?_⟩
    · rintro ⟨reference, hreference, rfl, hdefines⟩
      rcases List.mem_pair.mp ((hrefers reference).mp hreference) with rfl | rfl
      · exact absurd (by decide +kernel) hdefines
      · exact hvet
    · rintro rfl
      exact ⟨_, (hrefers _).mpr (List.mem_pair.mpr (Or.inr rfl)), hvet, by decide +kernel⟩

/-- A reference to the definition `List«Pet»`, and one to a `Pet` in another document. -/
def listAndStray : Document :=
  petLists
    [pointer "list" .body "#/definitions/List«Pet»", pointer "pet" .query "pets.json#/Pet"]

/-- There is a warning of `List_Pet`, which has a definition, and none of `Pet`, which is not
defined where the reference looks for it. -/
theorem warnsOf_wrong_listAndStray :
    ∃ fs, (requestFunctions listAndStray false).result = .ok fs ∧
      (listAndStray.WarnsOf false .get "/pets" "List_Pet" ∧
        ¬ listAndStray.Lacks false .get "/pets" "List_Pet") ∧
      listAndStray.Lacks false .get "/pets" "Pet" ∧
        ¬ listAndStray.WarnsOf false .get "/pets" "Pet" := by
  obtain ⟨fs, hfs⟩ : ∃ fs, (requestFunctions listAndStray false).result = .ok fs := ⟨_, rfl⟩
  have hrefers : ∀ reference, listAndStray.RefersTo false .get "/pets" reference ↔
      reference ∈ ["#/definitions/List«Pet»", "pets.json#/Pet"] :=
    fun _ => refersTo_petLists_iff rfl rfl
  have hlist : className "#/definitions/List«Pet»" = "List_Pet" := by decide +kernel
  have hpet : className "pets.json#/Pet" = "Pet" := by decide +kernel
  refine ⟨fs, hfs, ⟨?_, ?_⟩, ?_, ?_⟩
  · refine (warnsOf_iff hfs).mpr ⟨⟨_, (hrefers _).mpr (List.mem_cons_self ..), hlist⟩, ?_⟩
    decide +kernel
  · rintro ⟨reference, hreference, hclass, hdefines⟩
    rcases List.mem_pair.mp ((hrefers reference).mp hreference) with rfl | rfl
    · exact absurd (by decide +kernel) hdefines
    · rw [hpet] at hclass
      exact absurd hclass (by decide)
  · exact ⟨_, (hrefers _).mpr (List.mem_pair.mpr (Or.inr rfl)), hpet, by decide +kernel⟩
  · intro hwarns
    exact absurd ((warnsOf_iff hfs).mp hwarns).2 (by decide +kernel)

end SwaggerRequests
