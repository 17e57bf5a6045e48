import SwaggerRequests.Module.Text
import SwaggerRequests.Proofs.Imports
import SwaggerRequests.Proofs.Operations

/-!
# Parts of a document with an effect

Two documents that agree on the parts that are used have the same module, or the same error in its
place. The parts are (`Document.Agrees`) the base path, the content types of the document, the paths
with their operations and parameter lists, and those shared parameters to which some parameter list
refers (`Document.AsksFor`). The rest has no effect: the other shared parameters and the order of
all of them, the tags of operations, the title and the description.

The definitions decide about warnings only. To separate the two kinds of events, computations are
compared by `Logged.seen view`, which keeps the events that satisfy `view`, and `WarnsAlike view`
states that two documents have the same warnings among these. One lemma about a list of operations
(`requestFunctionsFrom_seen`) then serves both parts of the theorem: with the `view` without
warnings, and with all events for documents whose definitions have the same keys.
-/

namespace SwaggerRequests

variable {document document' : Document} {useHeaders : Bool}

/-! ## Documents that agree

The relation between the two documents. Tags are removed on both sides, since they are in the
operations and are not used. -/

/-- The operation with no `tags`. -/
def Operation.untagged (o : Operation) : Operation := { o with tags := [] }

/-- The path item with each operation `Operation.untagged`. -/
def PathItem.untagged (item : PathItem) : PathItem where
  operation? method := (item.operation? method).map Operation.untagged
  parameters := item.parameters

/-- The document with each path item `PathItem.untagged`. -/
def Document.untagged (document : Document) : Document :=
  { document with paths := document.paths.mapValues PathItem.untagged }

/-- The operation as it is in `Document.untagged`. -/
def Endpoint.untagged (e : Endpoint) : Endpoint :=
  { e with item := e.item.untagged, operation := e.operation.untagged }

/-- A path or an operation has a `Descriptor.reference` to the shared parameter `key`. -/
def Document.AsksFor (document : Document) (key : String) : Prop :=
  ∃ path item, (path, item) ∈ document.paths ∧ ∃ name,
    .reference ("#/parameters/" ++ key) name ∈ item.parameters ∨
      ∃ method operation, item.operation? method = some operation ∧
        .reference ("#/parameters/" ++ key) name ∈ operation.parameters

/-- The documents have the same parts, as far as `generate` depends on them. -/
structure Document.Agrees (document document' : Document) : Prop where
  /-- the same `basePath` -/
  basePath : document.basePath = document'.basePath
  /-- the same `consumes` -/
  consumes : document.consumes = document'.consumes
  /-- the same paths in `Document.untagged` -/
  paths : document.untagged.paths = document'.untagged.paths
  /-- the same shared parameters for all keys with `AsksFor` -/
  shared : ∀ key, document.AsksFor key →
    document.parameters.lookup key = document'.parameters.lookup key

theorem endpoints_untagged (document : Document) :
    document.untagged.endpoints = document.endpoints.map Endpoint.untagged :=
  endpoints_mapValues (fun _ _ => rfl) document

/-- `requestFunctionsFrom` is the same for operations without tags. No step of `requestFunction`
reads `Operation.tags`. -/
theorem requestFunctionsFrom_untagged (taken : List String) (es : List Endpoint) :
    requestFunctionsFrom document useHeaders taken (es.map Endpoint.untagged) =
      requestFunctionsFrom document useHeaders taken es := by
  induction es generalizing taken with
  | nil => rfl
  | cons e es ih =>
    have hfunction : requestFunction document useHeaders taken e.untagged =
        requestFunction document useHeaders taken e := rfl
    rw [List.map_cons, requestFunctionsFrom, requestFunctionsFrom, hfunction]
    simp only [ih]

/-- Documents that agree have the same `endpoints`, up to tags and in the same order. -/
theorem Document.Agrees.endpoints (h : document.Agrees document') :
    document.endpoints.map Endpoint.untagged = document'.endpoints.map Endpoint.untagged := by
  rw [← endpoints_untagged, ← endpoints_untagged, Document.endpoints, Document.endpoints, h.paths]

/-! ## References

Documents that agree resolve the descriptors of their operations in the same way. -/

/-- `Descriptor.resolve` depends on the shared parameter with one key, or on none if the descriptor
is not a reference to one. A descriptor that refers to something else does not resolve in either
document. -/
theorem resolve_congr {d : Descriptor}
    (h : ∀ key name, d = .reference ("#/parameters/" ++ key) name →
      document.parameters.lookup key = document'.parameters.lookup key) :
    d.resolve document = d.resolve document' := by
  cases d with
  | inline p => rfl
  | reference target name =>
    have hat : document.parameterAt? target = document'.parameterAt? target := by
      rw [Document.parameterAt?, Document.parameterAt?]
      refine Option.bind_congr fun key hkey => ?_
      obtain rfl := behind?_eq_some_iff.mp hkey
      exact h key name rfl
    rw [Descriptor.resolve, Descriptor.resolve, hat]

/-- `bundle` depends on the document by the resolution of its descriptors only. -/
theorem bundle_document_congr {ds : List Descriptor}
    (h : ∀ d ∈ ds, d.resolve document = d.resolve document') :
    bundle ds useHeaders document = bundle ds useHeaders document' := by
  have hresolved : (keptDescriptors ds).mapM (Descriptor.resolve document) =
      (keptDescriptors ds).mapM (Descriptor.resolve document') := by
    refine mapM_congr fun d hd => h d ?_
    obtain ⟨⟨i, hi, -⟩, -⟩ := mem_keptDescriptors_iff.mp hd
    exact List.mem_of_getElem? hi
  rw [bundle_halves, bundle_halves]
  refine Logged.bind_congr fun kept hkept => ?_
  obtain rfl := Except.ok.inj hkept
  rw [hresolved]

/-- Documents that agree resolve every descriptor in `e.descriptors` in the same way. -/
theorem Document.Agrees.resolve (h : document.Agrees document') {e : Endpoint}
    (he : e ∈ document.endpoints) :
    ∀ d ∈ e.descriptors, d.resolve document = d.resolve document' := by
  obtain ⟨hpath, hoperation⟩ := mem_endpoints_iff.mp he
  intro d hd
  refine resolve_congr ?_
  rintro key name rfl
  refine h.shared key ⟨e.path, e.item, hpath, name, ?_⟩
  rcases List.mem_append.mp hd with hshared | hown
  · exact Or.inl hshared
  · exact Or.inr ⟨e.method, e.operation, hoperation, hown⟩

/-! ## Equality up to events

Equality of computations up to some of their events. -/

namespace Logged

variable {ε ε' α β : Type}

/-- The computation `x` with those events only that satisfy `view`. -/
def seen (view : Event → Bool) (x : Logged ε α) : Logged ε α := ⟨x.log.filter view, x.result⟩

/-- `Logged.seen` commutes with sequences. -/
theorem seen_bind (view : Event → Bool) (x : Logged ε α) (f : α → Logged ε β) :
    (x >>= f).seen view = x.seen view >>= fun a => (f a).seen view := by
  change (Logged.bind x f).seen view = Logged.bind (x.seen view) _
  unfold Logged.bind seen
  rcases x.result with e | a
  · rfl
  · simp only [List.filter_append]

end Logged

/-- `undefinedClasses` has the same events for both documents, among those that satisfy `view`. -/
def WarnsAlike (view : Event → Bool) (document document' : Document) : Prop :=
  ∀ e imports, (undefinedClasses document e imports).filter view =
    (undefinedClasses document' e imports).filter view

/-- `requestFunction` is the same up to `view` for documents with the same content types, the same
resolution of the descriptors of the operation and the same warnings up to `view`. The warnings are
the only events that depend on the definitions. -/
theorem requestFunction_seen {view : Event → Bool} (taken : List String) {e : Endpoint}
    (hconsumes : document.consumes = document'.consumes)
    (hresolve : ∀ d ∈ e.descriptors, d.resolve document = d.resolve document')
    (hwarns : WarnsAlike view document document') :
    (requestFunction document useHeaders taken e).seen view =
      (requestFunction document' useHeaders taken e).seen view := by
  have hcontent : ∀ o b, contentType document o b = contentType document' o b := by
    intro o b
    rw [contentType, contentType, hconsumes]
  have hreport : ∀ imports,
      (Logged.report (undefinedClasses document e imports) : Logged FunctionError Unit).seen view =
        (Logged.report (undefinedClasses document' e imports)).seen view :=
    fun imports => congrArg (Logged.mk · _) (hwarns e imports)
  rw [requestFunction, requestFunction, bundle_document_congr hresolve]
  simp only [Logged.seen_bind, hreport, hcontent]

/-- `requestFunctionsFrom` is the same up to `view`, by induction on the list. -/
theorem requestFunctionsFrom_seen {view : Event → Bool} (taken : List String) {es : List Endpoint}
    (hconsumes : document.consumes = document'.consumes)
    (hresolve : ∀ e ∈ es, ∀ d ∈ e.descriptors, d.resolve document = d.resolve document')
    (hwarns : WarnsAlike view document document') :
    (requestFunctionsFrom document useHeaders taken es).seen view =
      (requestFunctionsFrom document' useHeaders taken es).seen view := by
  induction es generalizing taken with
  | nil => rfl
  | cons e es ih =>
    obtain ⟨hhead, htail⟩ := List.forall_mem_cons.mp hresolve
    rw [requestFunctionsFrom, requestFunctionsFrom]
    simp only [Logged.seen_bind, requestFunction_seen taken hconsumes hhead hwarns, ih _ htail]

/-- `generate` is the same up to `view` for documents that agree and that warn alike. The tags are
removed first, so that both documents have the same list of operations. -/
theorem Document.Agrees.generate_seen {view : Event → Bool} (h : document.Agrees document')
    (options : Options) (hwarns : WarnsAlike view document document') :
    (generate document options).seen view = (generate document' options).seen view := by
  have hfunctions : (requestFunctions document options.useHeaders).seen view =
      (requestFunctions document' options.useHeaders).seen view := by
    rw [requestFunctions, requestFunctions, ← requestFunctionsFrom_untagged,
      ← requestFunctionsFrom_untagged [] document'.endpoints, ← h.endpoints,
      requestFunctionsFrom_untagged, requestFunctionsFrom_untagged]
    exact requestFunctionsFrom_seen [] h.consumes (fun e he => h.resolve he) hwarns
  rw [generate, generate, Logged.seen_bind, Logged.seen_bind, hfunctions, h.basePath]

/-! ## The module

The two views, and the theorem. -/

/-- The event is an `Event.undefinedClass`. -/
def Event.isClassWarning : Event → Bool
  | .undefinedClass .. => true
  | _ => false

/-- All documents `WarnsAlike` for the view without class warnings. The events of `undefinedClasses`
are class warnings, so nothing remains on either side. -/
theorem warnsAlike_of_looking_away (document document' : Document) :
    WarnsAlike (!·.isClassWarning) document document' := by
  have hnone : ∀ (d : Document) e imports,
      (undefinedClasses d e imports).filter (!·.isClassWarning) = [] := by
    intro d e imports
    refine List.filter_eq_nil_iff.mpr fun event hevent => ?_
    obtain ⟨name, -, rfl⟩ := List.mem_map.mp hevent
    exact Bool.false_ne_true
  exact fun e imports => (hnone document e imports).trans (hnone document' e imports).symm

/-- Documents whose definitions have the same keys satisfy `WarnsAlike` for all events. -/
theorem warnsAlike_of_keys
    (h : ∀ name, name ∈ document.definitions.keys ↔ name ∈ document'.definitions.keys) :
    WarnsAlike (fun _ => true) document document' := by
  intro e imports
  have hdefined : ∀ name,
      (document.definition? name).isNone = (document'.definition? name).isNone := by
    intro name
    have hsome := (Entries.isSome_lookup_iff.trans (h name)).trans Entries.isSome_lookup_iff.symm
    rw [← Option.not_isSome, ← Option.not_isSome]
    exact congrArg _ (Bool.eq_iff_iff.mpr hsome)
  simp only [undefinedClasses, hdefined]

/-- **Parts of a document with an effect.** If two documents satisfy `Document.Agrees`, `generate`
has the same result for both, a module or an error. The logs are equal except for events that
satisfy `Event.isClassWarning`, and if the definitions have the same keys, the computations are
equal. -/
theorem generate_of_agrees (document document' : Document) (options : Options)
    (h : document.Agrees document') :
    (generate document options).result = (generate document' options).result ∧
      (generate document options).log.filter (!·.isClassWarning) =
        (generate document' options).log.filter (!·.isClassWarning) ∧
      ((∀ name, name ∈ document.definitions.keys ↔ name ∈ document'.definitions.keys) →
        generate document options = generate document' options) := by
  have hseen := h.generate_seen options (warnsAlike_of_looking_away document document')
  have hresult := congrArg Logged.result hseen
  have hlog := congrArg Logged.log hseen
  refine ⟨hresult, hlog, fun hkeys => ?_⟩
  have hall := h.generate_seen options (warnsAlike_of_keys hkeys)
  simpa only [Logged.seen, List.filter_true] using hall

/-- A document with one operation that refers to the shared parameter `limit`, and with other parts
as given. -/
def limitedPets (info : Info) (tags : List String) (shared : Entries Parameter)
    (definitions : Entries Schema) : Document :=
  let pet : Schema := { Schema.any with reference := some "#/definitions/Pet" }
  { Document.empty with
    info, definitions
    parameters := shared
    paths := [("/pets", {
      operation? := fun
        | .get => some { Operation.empty with
            tags
            parameters := [.reference "#/parameters/limit" none,
              .inline ⟨"like", .body, false, none, none, none, some pet, none⟩] }
        | _ => none
      parameters := [] })] }

/-- `limitedPets` refers to the shared parameter `limit` only. -/
theorem limitedPets_asksFor {info : Info} {tags : List String} {shared : Entries Parameter}
    {definitions : Entries Schema} {key : String}
    (h : (limitedPets info tags shared definitions).AsksFor key) : key = "limit" := by
  obtain ⟨path, item, hpath, name, hreference⟩ := h
  obtain ⟨rfl, rfl⟩ := Prod.mk.inj (List.mem_singleton.mp hpath)
  rcases hreference with hshared | ⟨method, operation, hoperation, hown⟩
  · cases hshared
  · cases method with
    | get =>
      obtain rfl := Option.some.inj hoperation
      rcases List.mem_pair.mp hown with heq | heq
      · obtain ⟨htarget, -⟩ := Descriptor.reference.inj heq
        exact (String.append_right_inj "#/parameters/").mp htarget
      · cases heq
    | _ => cases hoperation

/-- `limitedPets` with another shared parameter after `limit`, and without definitions. -/
def sortedPets : Document :=
  limitedPets ⟨none, none⟩ []
    [("limit", textAt .query "limit"), ("sort", textAt .query "sort")] []

/-- `limitedPets` with another shared parameter before `limit`, with a title, a tag and the
definition `Pet`. -/
def pagedPets : Document :=
  limitedPets ⟨some "Pets", none⟩ ["pets"]
    [("page", textAt .query "page"), ("limit", textAt .query "limit")] [("Pet", Schema.any)]

theorem sortedPets_agrees : sortedPets.Agrees pagedPets := by
  refine ⟨rfl, rfl, ?_, ?_⟩
  · refine congrArg (fun item => [("/pets", item)]) ?_
    refine congrArg (PathItem.mk · []) ?_
    funext method
    cases method <;> rfl
  · intro key hkey
    obtain rfl := limitedPets_asksFor hkey
    rfl

/-- `sortedPets` and `pagedPets` have the same module, and only `sortedPets` has a warning. -/
theorem generate_of_agrees_sortedPets :
    ∃ text, (generate sortedPets .default).result = .ok text ∧
      (generate pagedPets .default).result = .ok text ∧
      (generate sortedPets .default).log =
        [.generating "GET" "/pets", .undefinedClass "GET" "/pets" "Pet"] ∧
      (generate pagedPets .default).log = [.generating "GET" "/pets"] := by
  obtain ⟨hresult, -⟩ := generate_of_agrees sortedPets pagedPets .default sortedPets_agrees
  obtain ⟨text, htext⟩ : ∃ text, (generate sortedPets .default).result = .ok text := ⟨_, rfl⟩
  refine ⟨text, htext, hresult.symm.trans htext, ?_, ?_⟩
  · decide +kernel
  · decide +kernel

end SwaggerRequests
