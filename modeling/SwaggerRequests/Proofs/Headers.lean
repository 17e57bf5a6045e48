import SwaggerRequests.Proofs.Imports

/-!
# Bundles without headers

The parameter `useHeaders` of `bundle` decides whether header parameters are emitted. This module
compares the bundles with and without it, for the same descriptors.

The descriptors are chosen and resolved in the same way in both runs, so a header replaces an
earlier declaration of its name even if it is left out itself. By `bundle_eq_image_iff` a bundle is
`Bundle.image` of its typed parameters, each of which is typed alone. The bundle without headers is
therefore the image of the typed parameters that are not headers, `TypedParameter.withoutHeaders`
(`bundle_false_of_bundle_true`).

An unknown reference is found in both runs or in neither (`Fault.unknownReference`). A parameter
without a type can be a header, and then only the run with headers fails.
-/

namespace SwaggerRequests

open TypedParameter (located)

/-! ## The other parameters

`withoutHeaders` and its effect on `Bundle.image`: only the signature, the headers and the imports
change. -/

theorem emitted_true (ps : List Parameter) : emitted true ps = ps :=
  List.filter_eq_self.mpr fun _ _ => rfl

namespace TypedParameter

/-- The typed parameters of `ts` that are not at `Location.header`. -/
def withoutHeaders (ts : List TypedParameter) : List TypedParameter :=
  ts.filter fun t => t.parameter.location != .header

/-- `withoutHeaders` on typed parameters is `emitted false` on parameters. -/
theorem map_parameter_withoutHeaders (ts : List TypedParameter) :
    (withoutHeaders ts).map parameter = emitted false (ts.map parameter) := by
  rw [emitted, List.filter_map]
  rfl

theorem located_header_withoutHeaders (ts : List TypedParameter) :
    located .header (withoutHeaders ts) = [] := by
  rw [located, withoutHeaders, List.filter_filter, List.filter_eq_nil_iff]
  intro t _
  simp

theorem located_withoutHeaders {l : Location} (h : l ≠ .header) (ts : List TypedParameter) :
    located l (withoutHeaders ts) = located l ts := by
  rw [located, located, withoutHeaders, List.filter_filter]
  refine List.filter_congr fun t _ => ?_
  by_cases ht : t.parameter.location = l
  · simp [ht, h]
  · simp [ht]

end TypedParameter

/-- `Bundle.image` without the headers: the `signature` and `imports` are those of the other
parameters, `headers` is empty, and the other components are the same. -/
theorem Bundle.image_withoutHeaders (typed : List TypedParameter) :
    image (TypedParameter.withoutHeaders typed) =
      { image typed with
        signature := String.join ((TypedParameter.withoutHeaders typed).map TypedParameter.member)
        headers := []
        imports :=
          ((TypedParameter.withoutHeaders typed).flatMap TypedParameter.imports).eraseDups } := by
  simp [image, TypedParameter.located_withoutHeaders,
    TypedParameter.located_header_withoutHeaders]

/-- The imports of `withoutHeaders typed` are among those of `typed`. -/
theorem Bundle.imports_withoutHeaders_subset (typed : List TypedParameter) :
    (image (TypedParameter.withoutHeaders typed)).imports ⊆ (image typed).imports := by
  intro name hname
  rw [image, List.mem_eraseDups, List.mem_flatMap] at hname ⊢
  obtain ⟨t, ht, hname⟩ := hname
  exact ⟨t, List.mem_of_mem_filter ht, hname⟩

/-! ## Two runs

`bundle ds true document` and `bundle ds false document` for the same descriptors. -/

variable {ds : List Descriptor} {document : Document}

/-- If the run with headers has the bundle `Bundle.image typed`, the run without has the image of
`withoutHeaders typed`. The descriptors resolve in the same way in both runs, and each parameter has
a type in the second run because it has one in the first. -/
theorem bundle_false_of_bundle_true {b : Bundle} (h : (bundle ds true document).result = .ok b) :
    ∃ typed : List TypedParameter,
      List.Forall₂ (Resolves document) (keptDescriptors ds) (typed.map TypedParameter.parameter) ∧
      b = Bundle.image typed ∧
      (bundle ds false document).result =
        .ok (Bundle.image (TypedParameter.withoutHeaders typed)) := by
  obtain ⟨resolved, hresolved, hb⟩ := bundle_eq_ok_iff.mp h
  obtain ⟨typed, htyped, rfl⟩ := Bundle.ofParameters_eq_ok_iff.mp hb
  rw [emitted_true] at htyped
  obtain rfl := htyped
  refine ⟨typed, hresolved, rfl, bundle_eq_ok_iff.mpr ⟨_, hresolved, ?_⟩⟩
  exact Bundle.ofParameters_eq_ok_iff.mpr
    ⟨_, TypedParameter.map_parameter_withoutHeaders typed, rfl⟩

/-- An unknown reference is a `Fault` for both values of `useHeaders`. A dangling reference comes
before all types in `Fault`, so headers do not matter. -/
theorem Fault.unknownReference {target : String} {useHeaders : Bool}
    (h : Fault ds useHeaders document (.unknownReference target)) (useHeaders' : Bool) :
    Fault ds useHeaders' document (.unknownReference target) := by
  cases h with
  | dangling hfirst => exact Fault.dangling hfirst

/-- Without headers among the parameters, `Emission.addAll` does not depend on `useHeaders`. -/
theorem Emission.addAll_of_no_header {merged : Bool} {e : Emission} {ps : List Parameter}
    (h : ∀ p ∈ ps, p.location ≠ .header) (useHeaders : Bool) :
    addAll useHeaders merged e ps = addAll true merged e ps := by
  induction ps generalizing e with
  | nil => rfl
  | cons p ps ih =>
    have hp : ¬ (!useHeaders && p.location == .header) = true := by
      simp [h p (List.mem_cons_self ..)]
    have hps : ∀ q ∈ ps, q.location ≠ .header := fun q hq => h q (List.mem_cons_of_mem _ hq)
    rw [addAll, addAll, if_neg hp, if_neg (by simp)]
    rcases (Typing.parameterType p).run e.imports with cause | ⟨type, imports⟩
    · rfl
    · exact ih hps

/-- If no descriptor in `keptDescriptors ds` resolves to a header, the runs are equal, including
their logs. In this case `Emission.addAll` does not look at `useHeaders`, and the steps before it
never do. -/
theorem bundle_of_no_header
    (h : ∀ d ∈ keptDescriptors ds, ∀ p, Resolves document d p → p.location ≠ .header) :
    bundle ds true document = bundle ds false document := by
  refine Logged.bind_congr fun kept hkept => ?_
  obtain rfl := Except.ok.inj hkept
  refine Logged.bind_congr fun ps hps => ?_
  have hnone : ∀ p ∈ ps, p.location ≠ .header := by
    intro p hp
    obtain ⟨d, hd, hresolves⟩ := (mem_resolved_iff (mapM_resolve_eq_ok_iff.mp hps)).mp hp
    exact h d hd p hresolves
  refine Logged.bind_congr fun _ _ => ?_
  simp only [Emission.addAll_of_no_header hnone false]

/-- If a descriptor with `IsLastDeclaration` resolves to a header, the run without headers has the
result that it has for `ds` without all declarations of this name. The filtered list has the same
kept descriptors apart from `d`, and `d` does not contribute to the result. -/
theorem bundle_false_of_last_header {d : Descriptor} {i : Nat} {p : Parameter}
    (hlast : IsLastDeclaration ds (d, i)) (hresolves : Resolves document d p)
    (hheader : p.location = .header) :
    (bundle ds false document).result =
      (bundle (ds.filter fun d' => d'.name ≠ d.name) false document).result := by
  rw [bundle_result_emitted, bundle_result_emitted]
  by_cases hname : NamesElement d.name
  · -- the name of an element is left out anyway
    have hother : ∀ e ∈ keptByName Descriptor.name ds, decide (e.1 ≠ d.name) = true := by
      intro e he
      exact decide_eq_true fun heq => (last_of_mem_keptByName he).2.1 (heq ▸ hname)
    rw [keptDescriptors_filter, List.filter_eq_self.mpr hother]
    rfl
  · obtain ⟨before, after, hkept, hfilter⟩ := keptDescriptors_split hlast hname
    rw [hkept, hfilter]
    refine mapM_insert_bind (resolve_eq_ok_iff.mpr hresolves) (fun as bs => ?_) before after
    have hleft : emitted false (as ++ p :: bs) = emitted false (as ++ bs) := by
      rw [emitted, emitted, List.filter_append, List.filter_cons_of_neg (by simp [hheader]),
        ← List.filter_append]
    rw [hleft]

/-- **Leaving out headers.** For all descriptors `ds` and every `document`:

* if the run with headers has a bundle `b₁`, the run without has a bundle `b₀` that agrees with it
  in the form data, the path, the query and the body, has no headers and no other imports, and has
  the signature of the parameters that are not headers;
* both runs fail with `RequestError.unknownReference target`, or neither does;
* if no descriptor that is kept resolves to a header, the runs are equal;
* a header that is the last declaration of its name also removes the earlier declarations of this
  name. -/
theorem bundle_headers_left_out (ds : List Descriptor) (document : Document) :
    (∀ b₁, (bundle ds true document).result = .ok b₁ →
      ∃ b₀, (bundle ds false document).result = .ok b₀ ∧
        b₀.formData = b₁.formData ∧ b₀.replacements = b₁.replacements ∧
        b₀.query = b₁.query ∧ b₀.body = b₁.body ∧ b₀.headers = [] ∧
        b₀.imports ⊆ b₁.imports ∧
        ∃ typed : List TypedParameter,
          List.Forall₂ (Resolves document) (keptDescriptors ds)
            (typed.map TypedParameter.parameter) ∧
          b₁.signature = String.join (typed.map TypedParameter.member) ∧
          b₀.signature =
            String.join ((TypedParameter.withoutHeaders typed).map TypedParameter.member)) ∧
    (∀ target, (bundle ds true document).result = .error (.unknownReference target) ↔
      (bundle ds false document).result = .error (.unknownReference target)) ∧
    ((∀ d ∈ keptDescriptors ds, ∀ p, Resolves document d p → p.location ≠ .header) →
      bundle ds true document = bundle ds false document) ∧
    ∀ d i p, IsLastDeclaration ds (d, i) → Resolves document d p → p.location = .header →
      (bundle ds false document).result =
        (bundle (ds.filter fun d' => d'.name ≠ d.name) false document).result := by
  refine ⟨?_, ?_, bundle_of_no_header, fun d i p => bundle_false_of_last_header⟩
  · intro b₁ hb₁
    obtain ⟨typed, hresolved, rfl, hb₀⟩ := bundle_false_of_bundle_true hb₁
    have himports := Bundle.imports_withoutHeaders_subset typed
    rw [Bundle.image_withoutHeaders] at hb₀ himports
    exact ⟨_, hb₀, rfl, rfl, rfl, rfl, rfl, himports, typed, hresolved, rfl, rfl⟩
  · intro target
    rw [bundle_eq_error_iff, bundle_eq_error_iff]
    exact ⟨fun h => h.unknownReference false, fun h => h.unknownReference true⟩

/-- Parameters `trace` in the query, `pet` in the body, and headers `X-Key` and `trace`. -/
def tracedParameters : List Descriptor :=
  let parameter (name : String) (location : Location) (schema : Option Schema) : Parameter :=
    ⟨name, location, false, none, some "string", none, schema, none⟩
  let pointer (reference : String) : Option Schema :=
    some { Schema.any with reference := some reference }
  [.inline (parameter "trace" .query none),
    .inline (parameter "pet" .body (pointer "#/definitions/Pet")),
    .inline (parameter "X-Key" .header (pointer "#/definitions/Key")),
    .inline (parameter "trace" .header none)]

/-- In both bundles for `tracedParameters` the query is empty, since the header `trace` replaces the
parameter of the query. -/
theorem bundle_headers_left_out_tracedParameters :
    (∃ b₁ b₀, (bundle tracedParameters true Document.empty).result = .ok b₁ ∧
      (bundle tracedParameters false Document.empty).result = .ok b₀ ∧
      b₁.headers = ["'trace':params['trace']", "'X-Key':params['xKey']"] ∧ b₁.query = [] ∧
      b₁.imports = ["Pet", "Key"] ∧
      b₀.headers = [] ∧ b₀.query = b₁.query ∧ b₀.body = b₁.body ∧ b₀.imports ⊆ b₁.imports) ∧
    bundle (tracedParameters.take 2) true Document.empty =
      bundle (tracedParameters.take 2) false Document.empty ∧
    (bundle tracedParameters false Document.empty).result =
      (bundle (tracedParameters.filter fun d => d.name ≠ "trace") false Document.empty).result := by
  refine ⟨?_, ?_, ?_⟩
  · obtain ⟨b₁, hb₁, hheaders, hquery, himports⟩ :
        ∃ b₁, (bundle tracedParameters true Document.empty).result = .ok b₁ ∧
          b₁.headers = ["'trace':params['trace']", "'X-Key':params['xKey']"] ∧ b₁.query = [] ∧
          b₁.imports = ["Pet", "Key"] := by
      refine ⟨_, rfl, ?_⟩
      decide +kernel
    obtain ⟨b₀, hb₀, -, -, hquery₀, hbody₀, hheaders₀, himports₀, -⟩ :=
      (bundle_headers_left_out tracedParameters Document.empty).1 b₁ hb₁
    exact ⟨b₁, b₀, hb₁, hb₀, hheaders, hquery, himports, hheaders₀, hquery₀, hbody₀, himports₀⟩
  · refine (bundle_headers_left_out (tracedParameters.take 2) Document.empty).2.2.1 ?_
    intro d hd p hp
    have hd' : d ∈ tracedParameters.take 2 := hd
    rcases List.mem_pair.mp hd' with rfl | rfl <;> cases hp <;> decide
  · have hlast : IsLastDeclaration tracedParameters (tracedParameters[3], 3) := by
      refine ⟨rfl, fun i d' hi hd' => ?_⟩
      have hlength : tracedParameters.length ≤ i := hi
      rw [List.getElem?_eq_none hlength] at hd'
      cases hd'
    have hname : tracedParameters[3].name = "trace" := rfl
    rw [← hname]
    exact (bundle_headers_left_out tracedParameters Document.empty).2.2.2 _ _ _ hlast
      (Resolves.inline _) rfl

end SwaggerRequests
