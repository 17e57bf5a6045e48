import SwaggerRequests.Proofs.Imports
import SwaggerRequests.Proofs.Operations

/-!
# Parameters on two levels

A path has parameters that all its operations share, and an operation has parameters of its own.
`bundle` gets the concatenation of both lists, `shared ++ own`, and keeps one declaration of each
name.

What is kept of a concatenation is what is kept of the second list laid over what is kept of the
first (`keptByName_append`, an instance of `Entries.collect_append`). So a name that both lists
declare has its position from the path and its declaration from the operation
(`keptDescriptors_append`, `ReplacedBy`), and it does not matter whether the lists have been reduced
to one declaration of each name before (`keptDescriptors_append_congr`).

The last is extended to documents. `Document.thinned` reduces the lists of all paths and operations,
and `requestFunction_thinned` shows that the function of each operation is the same.
-/

namespace SwaggerRequests

/-! ## Two lists of descriptors

The two lists are `shared`, of the path, and `own`, of the operation. -/

theorem competing_append {α : Type} (name : α → String) (xs ys : List α) :
    competing name (xs ++ ys) = competing name xs ++ competing name ys :=
  List.filter_append ..

/-- What is kept of `xs ++ ys` is what is kept of `ys` laid over what is kept of `xs`. -/
theorem keptByName_append {α : Type} (name : α → String) (xs ys : List α) :
    keptByName name (xs ++ ys) = (keptByName name xs).override (keptByName name ys) := by
  simp only [keptByName_eq_collect, competing_append, List.map_append, Entries.collect_append]

/-- Either list can be replaced by one of which the same is kept. -/
theorem keptDescriptors_append_congr {shared shared' own own' : List Descriptor}
    (hshared : keptByName Descriptor.name shared' = keptByName Descriptor.name shared)
    (hown : keptByName Descriptor.name own' = keptByName Descriptor.name own) :
    keptDescriptors (shared' ++ own') = keptDescriptors (shared ++ own) := by
  rw [keptDescriptors, keptDescriptors, keptByName_append, keptByName_append, hshared, hown]

/-- `d'` is what becomes of the declaration `d` in front of the list `own`: the last declaration of
its name in `own`, or `d` itself if `own` does not declare its name. -/
def ReplacedBy (own : List Descriptor) (d d' : Descriptor) : Prop :=
  (d'.name = d.name ∧ ∃ i, IsLastDeclaration own (d', i)) ∨ (d' = d ∧ ∀ o ∈ own, o.name ≠ d.name)

/-- The declaration that `d` is `ReplacedBy`, as a function. -/
def replacement (own : List Descriptor) (d : Descriptor) : Descriptor :=
  ((keptByName Descriptor.name own).lookup d.name).getD d

/-- `replacement` satisfies its specification `ReplacedBy`. -/
theorem replacedBy_replacement {d : Descriptor} (own : List Descriptor)
    (hname : ¬ NamesElement d.name) : ReplacedBy own d (replacement own d) := by
  unfold replacement
  cases h : (keptByName Descriptor.name own).lookup d.name with
  | some d' =>
    left
    obtain ⟨before, after, hsplit, -⟩ := List.lookup_eq_some_iff.mp h
    have hmem : (d.name, d') ∈ keptByName Descriptor.name own := by
      rw [hsplit]
      exact List.mem_append_right _ (List.mem_cons_self ..)
    obtain ⟨hd', -, before, after, hown, hafter⟩ := last_of_mem_keptByName hmem
    refine ⟨hd', exists_isLastDeclaration_iff.mpr ⟨before, after, hown, fun o ho => ?_⟩⟩
    exact hd' ▸ hafter o ho
  | none =>
    right
    refine ⟨rfl, fun o ho heq => ?_⟩
    -- `List.find?` would have found a declaration of this name
    rw [lookup_keptByName, List.find?_eq_none] at h
    have hmiss := h o (List.mem_reverse.mpr ho)
    simp [heq, (isElementName_eq_false_iff _).mpr hname] at hmiss

/-- What is kept of `shared ++ own` is what is kept of `shared`, with the replacements from `own`,
and then what is kept of `own` under names that `shared` does not keep. -/
theorem keptDescriptors_append (shared own : List Descriptor) :
    keptDescriptors (shared ++ own) =
      (keptDescriptors shared).map (replacement own) ++ (keptDescriptors own).filter fun d =>
        d.name ∉ (keptDescriptors shared).map Descriptor.name := by
  have hname : ∀ ds : List Descriptor, ∀ e ∈ keptByName Descriptor.name ds, e.2.name = e.1 :=
    fun ds e he => (last_of_mem_keptByName he).1
  rw [keptDescriptors, keptByName_append, Entries.override, List.map_append, List.map_map]
  congr 1
  · rw [keptDescriptors, List.map_map]
    refine List.map_congr_left fun e he => ?_
    simp [replacement, hname shared e he]
  · rw [keptDescriptors, keptDescriptors, map_name_keptByName, List.filter_map]
    congr 1
    refine List.filter_congr fun e he => ?_
    simp [hname own e he]

/-! ## Reduced documents

Documents in which every parameter list has one declaration of each name. -/

variable {document : Document} {useHeaders : Bool}

/-- The result of `bundle` depends on the `keptDescriptors` only. -/
theorem bundle_result_congr {ds ds' : List Descriptor}
    (h : keptDescriptors ds' = keptDescriptors ds) (useHeaders : Bool) (document : Document) :
    (bundle ds' useHeaders document).result = (bundle ds useHeaders document).result := by
  rw [bundle_result, bundle_result, h]

/-- The operation with one declaration of each name. -/
def Operation.thinned (o : Operation) : Operation :=
  { o with parameters := keptDescriptors o.parameters }

/-- The path item with one declaration of each name, in its own list and in those of its
operations. -/
def PathItem.thinned (item : PathItem) : PathItem where
  operation? method := (item.operation? method).map Operation.thinned
  parameters := keptDescriptors item.parameters

/-- The document with one declaration of each name in every list. -/
def Document.thinned (document : Document) : Document :=
  { document with paths := document.paths.mapValues PathItem.thinned }

/-- The operation as it is in `Document.thinned`. -/
def Endpoint.thinned (e : Endpoint) : Endpoint :=
  { e with item := e.item.thinned, operation := e.operation.thinned }

theorem keptDescriptors_descriptors_thinned (e : Endpoint) :
    keptDescriptors e.thinned.descriptors = keptDescriptors e.descriptors :=
  keptDescriptors_append_congr (keptByName_keptByName _ _) (keptByName_keptByName _ _)

theorem endpoints_thinned (document : Document) :
    document.thinned.endpoints = document.endpoints.map Endpoint.thinned :=
  endpoints_mapValues (fun _ _ => rfl) document

/-- `requestFunction` has the same result for an operation and its `Endpoint.thinned`. -/
theorem requestFunction_thinned (taken : List String) (e : Endpoint) :
    (requestFunction document.thinned useHeaders taken e.thinned).result =
      (requestFunction document useHeaders taken e).result := by
  have hbundle : (bundle e.thinned.descriptors useHeaders document.thinned).result =
      (bundle e.descriptors useHeaders document).result :=
    bundle_result_congr (keptDescriptors_descriptors_thinned e) useHeaders document
  simp only [requestFunction, Logged.result_bind, Logged.result_report, Logged.result_mapError,
    hbundle]
  rfl

theorem requestFunctionsFrom_thinned (taken : List String) (es : List Endpoint) :
    (requestFunctionsFrom document.thinned useHeaders taken (es.map Endpoint.thinned)).result =
      (requestFunctionsFrom document useHeaders taken es).result := by
  -- the induction needs any `taken`, which grows by the same name on both sides
  induction es generalizing taken with
  | nil => rfl
  | cons e es ih =>
    rw [List.map_cons, requestFunctionsFrom_cons_result, requestFunctionsFrom_cons_result,
      requestFunction_thinned]
    simp only [ih]

/-- **Two levels of parameters.** Let `keptShared` and `keptOwn` be what `distinctDescriptors` keeps
of the lists `shared` and `own`.

* Of `shared ++ own` it keeps `keptShared` in its order, where each declaration is `ReplacedBy` the
  last one in `own`, and then those of `keptOwn` whose name is not in `keptShared`.
* It keeps the same of `keptShared ++ keptOwn`, and the result of `bundle` is the same for all four
  concatenations of a list or what is kept of it.
* The result of `requestFunctions` is the same for a document and its `Document.thinned`. -/
theorem operation_overrides_path (ε : Type) (shared own : List Descriptor) :
    (∃ keptShared keptOwn replaced : List Descriptor,
      (distinctDescriptors shared : Logged ε _).result = .ok keptShared ∧
      (distinctDescriptors own : Logged ε _).result = .ok keptOwn ∧
      List.Forall₂ (ReplacedBy own) keptShared replaced ∧
      (distinctDescriptors (shared ++ own) : Logged ε _).result =
        .ok (replaced ++ keptOwn.filter fun d => d.name ∉ keptShared.map Descriptor.name) ∧
      (distinctDescriptors (keptShared ++ keptOwn) : Logged ε _).result =
        (distinctDescriptors (shared ++ own) : Logged ε _).result ∧
      ∀ shared' ∈ [shared, keptShared], ∀ own' ∈ [own, keptOwn], ∀ useHeaders document,
        (bundle (shared' ++ own') useHeaders document).result =
          (bundle (shared ++ own) useHeaders document).result) ∧
    ∀ (document : Document) (useHeaders : Bool),
      (requestFunctions document.thinned useHeaders).result =
        (requestFunctions document useHeaders).result := by
  have hkept : ∀ ds : List Descriptor, ∀ ds' ∈ [ds, keptDescriptors ds],
      keptByName Descriptor.name ds' = keptByName Descriptor.name ds := by
    intro ds ds' hds'
    rcases List.mem_pair.mp hds' with rfl | rfl
    · rfl
    · exact keptByName_keptByName _ _
  constructor
  · refine ⟨keptDescriptors shared, keptDescriptors own,
      (keptDescriptors shared).map (replacement own), rfl, rfl, ?_, ?_, ?_, ?_⟩
    · rw [List.forall₂_map_right_iff, List.forall₂_same]
      intro d hd
      exact replacedBy_replacement own (mem_keptDescriptors_iff.mp hd).2
    · rw [distinctDescriptors_result, keptDescriptors_append]
    · rw [distinctDescriptors_result, distinctDescriptors_result]
      congr 1
      exact keptDescriptors_append_congr (hkept _ _ (by simp)) (hkept _ _ (by simp))
    · intro shared' hshared own' hown useHeaders document
      apply bundle_result_congr
      exact keptDescriptors_append_congr (hkept _ _ hshared) (hkept _ _ hown)
  · intro document useHeaders
    rw [requestFunctions, endpoints_thinned]
    exact requestFunctionsFrom_thinned [] document.endpoints

/-- The parameters of a path: one in the query, one in the headers, and one with an element's
name. -/
def sharedPetParameters : List Descriptor :=
  [.inline (textAt .query "kind"), .inline (textAt .header "trace"),
    .inline (textAt .query "pets[0].id")]

/-- The parameters of an operation, which declare two names twice. -/
def ownPetParameters : List Descriptor :=
  [.inline (textAt .header "limit"), .reference "#/parameters/kind" none,
    .inline (textAt .path "kind"), .inline (textAt .query "limit")]

/-- The parameter `kind` has the first position and is in the path of the request. The bundle is the
same without the parameter that has an element's name. -/
theorem operation_overrides_path_kindAndLimit :
    ∃ b, (bundle (sharedPetParameters ++ ownPetParameters) true Document.empty).result = .ok b ∧
      b.query = ["'limit':params['limit']"] ∧ b.headers = ["'trace':params['trace']"] ∧
      (distinctDescriptors (sharedPetParameters ++ ownPetParameters) :
        Logged RequestError _).result =
          .ok [.inline (textAt .path "kind"), .inline (textAt .header "trace"),
            .inline (textAt .query "limit")] ∧
      (bundle ([.inline (textAt .query "kind"), .inline (textAt .header "trace")] ++
        ownPetParameters) true Document.empty).result = .ok b := by
  obtain ⟨b, hb, hquery, hheaders⟩ :
      ∃ b, (bundle (sharedPetParameters ++ ownPetParameters) true Document.empty).result = .ok b ∧
        b.query = ["'limit':params['limit']"] ∧ b.headers = ["'trace':params['trace']"] := by
    refine ⟨_, rfl, ?_, ?_⟩
    · decide +kernel
    · decide +kernel
  obtain ⟨⟨keptShared, _, _, hshared, -, -, -, -, hbundle⟩, -⟩ :=
    operation_overrides_path RequestError sharedPetParameters ownPetParameters
  obtain rfl : [.inline (textAt .query "kind"), .inline (textAt .header "trace")] = keptShared :=
    Except.ok.inj hshared
  refine ⟨b, hb, hquery, hheaders, rfl, ?_⟩
  rw [hbundle _ (List.mem_pair.mpr (Or.inr rfl)) _ (List.mem_pair.mpr (Or.inl rfl))]
  exact hb

end SwaggerRequests
