import SwaggerRequests.Proofs.Declarations
import SwaggerRequests.Proofs.Emission
import SwaggerRequests.Proofs.References

/-!
# Bundles as images of parameters

The two outcomes of `bundle` for all inputs, without the loops of the program.

A bundle is determined by one list, the `emitted` parameters, each with the type that it has alone
(`TypedParameter`). `Bundle.image` maps this list to the bundle: every component is a concatenation
of fragments, over all parameters or over those of one location. `bundle_eq_image_iff` states that
the successful outcomes are exactly these images, and `Bundle.image_middle` shows for one parameter
which fragment it contributes to each component.

A failure is a `Fault`: the first descriptor whose reference is dangling or, if there is none, the
first emitted parameter without a type. `bundle_error_iff_fault` states that these are exactly the
failures.

Between the two there are decompositions for other modules: `Bundle.ofParameters` is the part of
`bundle` after the references are resolved, and `assemble` the same with its events.
-/

namespace SwaggerRequests

open TypedParameter (located)

/-! ## The image

`Bundle.image` and its proof for the state of the loop, `finish_foldl_addTyped`. Whether the body is
merged is decided by the number of its parameters (`bodyText_eq`). -/

/-- The text of the body: nothing, the value of a single parameter, or an object with an entry for
each of several. -/
def TypedParameter.bodyText : List TypedParameter → String
  | [] => ""
  | [t] => t.value
  | ts => "\x7b" ++ ",".intercalate (ts.map entry) ++ "\x7d"

/-- The bundle of typed parameters: the members of all of them, and for each location the fragments
of the parameters there. -/
def Bundle.image (ts : List TypedParameter) : Bundle where
  signature := String.join (ts.map TypedParameter.member)
  formData := String.join ((located .formData ts).map TypedParameter.formData)
  replacements := String.join ((located .path ts).map TypedParameter.replacement)
  query := (located .query ts).map TypedParameter.entry
  body := TypedParameter.bodyText (located .body ts)
  headers := (located .header ts).map TypedParameter.entry
  imports := (ts.flatMap TypedParameter.imports).eraseDups

/-- An emitted parameter `t` contributes its `member` to the signature, its imports, and one
fragment, that of its location. Every other component is the one without `t`. -/
theorem Bundle.image_middle (before after : List TypedParameter) (t : TypedParameter) :
    Bundle.image (before ++ t :: after) =
      let others : Bundle :=
        { Bundle.image (before ++ after) with
          signature := (Bundle.image before).signature ++ t.member ++ (Bundle.image after).signature
          imports := ((before ++ t :: after).flatMap TypedParameter.imports).eraseDups }
      match t.parameter.location with
      | .formData =>
        { others with
          formData :=
            (Bundle.image before).formData ++ t.formData ++ (Bundle.image after).formData }
      | .path =>
        { others with
          replacements :=
            (Bundle.image before).replacements ++ t.replacement ++
              (Bundle.image after).replacements }
      | .query =>
        { others with
          query := (Bundle.image before).query ++ t.entry :: (Bundle.image after).query }
      | .body =>
        { others with
          body := TypedParameter.bodyText (located .body before ++ t :: located .body after) }
      | .header =>
        { others with
          headers :=
            (Bundle.image before).headers ++ t.entry :: (Bundle.image after).headers } := by
  rcases h : t.parameter.location <;>
    simp [Bundle.image, located, h, String.append_assoc]

variable {useHeaders : Bool} {document : Document} {ds : List Descriptor} {ps : List Parameter}

/-- Leaving out headers does not change whether there are several parameters of the body. -/
theorem severalBodies_emitted (useHeaders : Bool) (ps : List Parameter) :
    severalBodies (emitted useHeaders ps) = severalBodies ps := by
  have hcount : (emitted useHeaders ps).countP (·.location == .body) =
      ps.countP (·.location == .body) := by
    rw [emitted, List.countP_filter]
    refine List.countP_congr fun p _ => ?_
    rcases p.location <;> simp
  rw [severalBodies, hcount, severalBodies]

theorem severalBodies_map (ts : List TypedParameter) :
    severalBodies (ts.map TypedParameter.parameter) = decide (1 < (located .body ts).length) := by
  rw [severalBodies, List.countP_map, List.countP_eq_length_filter]
  rfl

/-- `TypedParameter.bodyText` in the form of `Emission.finish`, where `merged` says whether there
are several parameters. -/
theorem bodyText_eq {merged : Bool} {ts : List TypedParameter}
    (h : merged = decide (1 < ts.length)) :
    TypedParameter.bodyText ts =
      if merged then
        "\x7b" ++ ",".intercalate (ts.map (Emission.bodyEntry merged)) ++ "\x7d"
      else ",".intercalate (ts.map (Emission.bodyEntry merged)) := by
  match ts with
  | [] | [t] =>
    obtain rfl : merged = false := h
    rfl
  | t :: u :: ts =>
    obtain rfl : merged = true := h.trans (decide_eq_true (by simp))
    rfl

/-- The emission of typed parameters, after the last one is added, finishes as their image. -/
theorem finish_foldl_addTyped (ts : List TypedParameter) :
    (ts.foldl (Emission.addTyped (severalBodies (ts.map TypedParameter.parameter))) .empty).finish
      (severalBodies (ts.map TypedParameter.parameter)) = Bundle.image ts := by
  rw [Emission.foldl_addTyped, Emission.finish, Bundle.image, bodyText_eq (severalBodies_map ts)]
  simp only [Emission.empty, String.empty_append, List.nil_append, importAll_nil]

/-! ## The outcome

`bundle` is a sequence of three steps: choose, resolve, emit. The characterization of each step is
in a module of its own, and `bundle_result` puts them together. -/

/-- The result of `bundle` is that of resolving the `keptDescriptors` and then emitting the
`emitted` parameters. -/
theorem bundle_result (ds : List Descriptor) (useHeaders : Bool) (document : Document) :
    (bundle ds useHeaders document).result =
      (keptDescriptors ds).mapM (Descriptor.resolve document) >>= fun ps =>
        (Emission.addAll true (severalBodies ps) .empty (emitted useHeaders ps)).result >>= fun e =>
          .ok (e.finish (severalBodies ps)) := by
  simp only [bundle, Logged.result_bind, distinctDescriptors_result, Logged.result_ofExcept,
    Logged.result_report, Logged.result_pure, Emission.addAll_result_emitted useHeaders]
  rfl

/-- Resolving all kept descriptors succeeds with the parameters that they stand for, in their
order. -/
theorem mapM_resolve_eq_ok_iff :
    (keptDescriptors ds).mapM (Descriptor.resolve document) = .ok ps ↔
      List.Forall₂ (Resolves document) (keptDescriptors ds) ps := by
  rw [mapM_eq_ok_iff]
  simp only [resolve_eq_ok_iff]

/-- **A bundle is an image.** `bundle` succeeds with `b` exactly if every kept descriptor resolves,
every emitted parameter has a type alone, and `b` is the `Bundle.image` of these typed parameters.
The locations partition them: `located l typed` for the five locations are a permutation of
`typed`. -/
theorem bundle_eq_image_iff (ds : List Descriptor) (useHeaders : Bool) (document : Document)
    (b : Bundle) :
    (bundle ds useHeaders document).result = .ok b ↔
      ∃ resolved typed,
        List.Forall₂ (Resolves document) (keptDescriptors ds) resolved ∧
        typed.map TypedParameter.parameter = emitted useHeaders resolved ∧
        (Location.all.flatMap fun l => located l typed).Perm typed ∧
        b = Bundle.image typed := by
  rw [bundle_result, bind_eq_ok_iff]
  refine ⟨?_, ?_⟩
  · rintro ⟨resolved, hresolved, h⟩
    obtain ⟨e, he, hb⟩ := bind_eq_ok_iff.mp h
    obtain ⟨typed, htyped, rfl⟩ := Emission.addAll_eq_ok_iff.mp he
    refine ⟨resolved, typed, mapM_resolve_eq_ok_iff.mp hresolved, htyped,
      TypedParameter.flatMap_located_perm typed, ?_⟩
    rw [← Except.ok.inj hb, ← severalBodies_emitted useHeaders, ← htyped, finish_foldl_addTyped]
  · rintro ⟨resolved, typed, hresolved, htyped, -, rfl⟩
    refine ⟨resolved, mapM_resolve_eq_ok_iff.mpr hresolved, bind_eq_ok_iff.mpr ?_⟩
    refine ⟨_, Emission.addAll_eq_ok_iff.mpr ⟨typed, htyped, rfl⟩, ?_⟩
    rw [← severalBodies_emitted useHeaders, ← htyped, finish_foldl_addTyped]

/-- A parameter of the path goes to `replacements`, one of the query to `query`, and the other
fragments stay empty. -/
example :
    let id : Parameter := ⟨"id", .path, true, none, some "string", none, none, none⟩
    let limit : Parameter := ⟨"limit", .query, false, none, some "integer", none, none, none⟩
    (bundle [.inline id, .inline limit] false .empty).result =
      .ok { Bundle.empty with
        signature := "\n    /**  */\n    id:string,\n    /**  */\n    limit?:number,"
        replacements := "url = url.replace('\x7bid\x7d',params['id']+'')\n"
        query := ["'limit':params['limit']"] } := by
  decide +kernel

/-! ## Bundles of parameters

Once the references have been resolved, a bundle depends on the `emitted` parameters only. -/

/-- The bundle of parameters all of which are emitted. -/
def Bundle.ofParameters (ps : List Parameter) : Except RequestError Bundle :=
  (Emission.addAll true (severalBodies ps) .empty ps).result >>= fun e =>
    .ok (e.finish (severalBodies ps))

/-- The result of `bundle` is `Bundle.ofParameters` of the emitted ones among the resolved
parameters. -/
theorem bundle_result_emitted (ds : List Descriptor) (useHeaders : Bool) (document : Document) :
    (bundle ds useHeaders document).result =
      (keptDescriptors ds).mapM (Descriptor.resolve document) >>= fun ps =>
        Bundle.ofParameters (emitted useHeaders ps) := by
  simp only [bundle_result, Bundle.ofParameters, severalBodies_emitted]

/-- `Bundle.ofParameters` succeeds exactly if all parameters have types, and then it is their
image. -/
theorem Bundle.ofParameters_eq_ok_iff {b : Bundle} :
    Bundle.ofParameters ps = .ok b ↔
      ∃ typed : List TypedParameter, typed.map TypedParameter.parameter = ps ∧
        b = Bundle.image typed := by
  rw [ofParameters, bind_eq_ok_iff]
  refine ⟨?_, ?_⟩
  · rintro ⟨e, he, hb⟩
    obtain ⟨typed, rfl, rfl⟩ := Emission.addAll_eq_ok_iff.mp he
    exact ⟨typed, rfl, (Except.ok.inj hb).symm.trans (finish_foldl_addTyped typed)⟩
  · rintro ⟨typed, rfl, rfl⟩
    refine ⟨_, Emission.addAll_eq_ok_iff.mpr ⟨typed, rfl, rfl⟩, ?_⟩
    rw [finish_foldl_addTyped]

/-- `bundle` succeeds exactly if the kept descriptors resolve and `Bundle.ofParameters` of the
emitted parameters succeeds. -/
theorem bundle_eq_ok_iff {b : Bundle} :
    (bundle ds useHeaders document).result = .ok b ↔
      ∃ resolved, List.Forall₂ (Resolves document) (keptDescriptors ds) resolved ∧
        Bundle.ofParameters (emitted useHeaders resolved) = .ok b := by
  rw [bundle_result_emitted, bind_eq_ok_iff]
  simp only [mapM_resolve_eq_ok_iff]

/-! ## Resolving and assembling

`bundle` with its events: the part before the references are resolved depends on the descriptors,
the part after it, `assemble`, on the resolved parameters. -/

/-- The second half of `bundle`, for parameters that have been resolved. -/
def assemble (useHeaders : Bool) (ps : List Parameter) : Logged RequestError Bundle := do
  .report (ambiguityEvents [] (ps.map (·.name)))
  let emission ← Emission.addAll useHeaders (severalBodies ps) .empty ps
  return emission.finish (severalBodies ps)

/-- `bundle` chooses the descriptors, resolves them and continues with `assemble`. -/
theorem bundle_halves (ds : List Descriptor) (useHeaders : Bool) (document : Document) :
    bundle ds useHeaders document =
      ⟨nameEvents [] (ds.map Descriptor.name), .ok (keptDescriptors ds)⟩ >>= fun kept =>
        .ofExcept (kept.mapM (Descriptor.resolve document)) >>= assemble useHeaders := by
  rw [← distinctDescriptors_eq]
  rfl

/-- If all references resolve, `bundle` has the result of `assemble`, and its events after those of
the names. -/
theorem bundle_of_resolved
    (h : (keptDescriptors ds).mapM (Descriptor.resolve document) = .ok ps) :
    bundle ds useHeaders document =
      ⟨nameEvents [] (ds.map Descriptor.name) ++ (assemble useHeaders ps).log,
        (assemble useHeaders ps).result⟩ := by
  rw [bundle_halves]
  change Logged.mk (_ ++ (Logged.ofExcept _ >>= _).log) (Logged.ofExcept _ >>= _).result = _
  rw [h]
  rfl

/-- If some reference does not resolve, `bundle` fails after the events of the names. -/
theorem bundle_of_unresolved {cause : RequestError}
    (h : (keptDescriptors ds).mapM (Descriptor.resolve document) = .error cause) :
    bundle ds useHeaders document =
      ⟨nameEvents [] (ds.map Descriptor.name), .error cause⟩ := by
  rw [bundle_halves]
  change Logged.mk (_ ++ (Logged.ofExcept _ >>= _).log) (Logged.ofExcept _ >>= _).result = _
  rw [h]
  exact congrArg (Logged.mk · _) (List.append_nil _)

/-! ## Faults

The failures of `bundle`. All references are resolved before a parameter is typed, which is the
order of the two constructors. -/

/-- The fault of a list of descriptors. A type is a fault only if every reference resolves. -/
inductive Fault (ds : List Descriptor) (useHeaders : Bool) (document : Document) :
    RequestError → Prop where
  /-- the first reference that refers to nothing, at whatever location -/
  | dangling {target : String} {name : Option String}
    (h : IsFirst (Dangling document) (keptDescriptors ds) (.reference target name)) :
    Fault ds useHeaders document (.unknownReference target)
  /-- the first emitted parameter without a type -/
  | untypable {resolved : List Parameter} {p : Parameter}
    (hresolved : List.Forall₂ (Resolves document) (keptDescriptors ds) resolved)
    (h : IsFirst Parameter.Untypable (emitted useHeaders resolved) p) :
    Fault ds useHeaders document (.untypable p.name)

/-- Resolving the kept descriptors fails exactly if one is `Dangling`, with the target of the first
one. -/
theorem mapM_resolve_eq_error_iff {e : RequestError} :
    (keptDescriptors ds).mapM (Descriptor.resolve document) = .error e ↔
      ∃ target name, IsFirst (Dangling document) (keptDescriptors ds) (.reference target name) ∧
        e = .unknownReference target := by
  have hfault : (fun d => ∃ e, Descriptor.resolve document d = .error e) = Dangling document := by
    funext d
    refine propext ⟨fun ⟨e, he⟩ => (resolve_eq_error_iff.mp he).1, fun hd => ?_⟩
    obtain ⟨target, name, rfl, -⟩ := id hd
    exact ⟨_, resolve_eq_error_iff.mpr ⟨hd, target, name, rfl, rfl⟩⟩
  rw [mapM_eq_error_iff, hfault]
  refine ⟨?_, ?_⟩
  · rintro ⟨d, hfirst, he⟩
    obtain ⟨-, target, name, rfl, rfl⟩ := resolve_eq_error_iff.mp he
    exact ⟨target, name, hfirst, rfl⟩
  · rintro ⟨target, name, hfirst, rfl⟩
    exact ⟨_, hfirst, resolve_eq_error_iff.mpr ⟨hfirst.holds, target, name, rfl, rfl⟩⟩

/-- `bundle` fails with `e` exactly if `e` is a `Fault`. -/
theorem bundle_eq_error_iff (e : RequestError) :
    (bundle ds useHeaders document).result = .error e ↔ Fault ds useHeaders document e := by
  rw [bundle_result, bind_eq_error_iff, mapM_resolve_eq_error_iff]
  refine ⟨?_, ?_⟩
  · rintro (⟨target, name, hfirst, rfl⟩ | ⟨resolved, hresolved, h⟩)
    · exact Fault.dangling hfirst
    · rcases bind_eq_error_iff.mp h with h | ⟨_, -, h⟩
      · obtain ⟨p, hfirst, rfl⟩ := Emission.addAll_eq_error_iff.mp h
        exact Fault.untypable (mapM_resolve_eq_ok_iff.mp hresolved) hfirst
      · cases h
  · intro h
    cases h with
    | dangling hfirst => exact Or.inl ⟨_, _, hfirst, rfl⟩
    | @untypable resolved p hresolved hfirst =>
      refine Or.inr ⟨resolved, mapM_resolve_eq_ok_iff.mpr hresolved, bind_eq_error_iff.mpr ?_⟩
      exact Or.inl (Emission.addAll_eq_error_iff.mpr ⟨p, hfirst, rfl⟩)

/-- There is a `Fault` exactly if some reference of the kept descriptors is `Dangling`, or all
resolve and some emitted parameter is `Untypable`. -/
theorem exists_fault_iff :
    (∃ e, Fault ds useHeaders document e) ↔
      (∃ d ∈ keptDescriptors ds, Dangling document d) ∨
        ∃ resolved, List.Forall₂ (Resolves document) (keptDescriptors ds) resolved ∧
          ∃ p ∈ emitted useHeaders resolved, p.Untypable := by
  refine ⟨?_, ?_⟩
  · rintro ⟨e, h⟩
    cases h with
    | dangling hfirst => exact Or.inl ⟨_, hfirst.mem, hfirst.holds⟩
    | untypable hresolved hfirst => exact Or.inr ⟨_, hresolved, _, hfirst.mem, hfirst.holds⟩
  · rintro (h | ⟨resolved, hresolved, h⟩)
    · obtain ⟨d, hfirst⟩ := exists_isFirst h
      obtain ⟨target, name, rfl, -⟩ := id hfirst.holds
      exact ⟨_, Fault.dangling hfirst⟩
    · obtain ⟨p, hfirst⟩ := exists_isFirst h
      exact ⟨_, Fault.untypable hresolved hfirst⟩

/-- **Failures and faults.** `bundle` fails with `e` exactly if `e` is its `Fault`. It succeeds
exactly if no kept descriptor is `Dangling` and no emitted parameter is `Untypable`. -/
theorem bundle_error_iff_fault (ds : List Descriptor) (useHeaders : Bool) (document : Document) :
    (∀ e, (bundle ds useHeaders document).result = .error e ↔ Fault ds useHeaders document e) ∧
    ((∃ b, (bundle ds useHeaders document).result = .ok b) ↔
      (∀ d ∈ keptDescriptors ds, ¬ Dangling document d) ∧
      ∀ resolved, List.Forall₂ (Resolves document) (keptDescriptors ds) resolved →
        ∀ p ∈ emitted useHeaders resolved, ¬ p.Untypable) := by
  refine ⟨bundle_eq_error_iff, ?_⟩
  have hok : (∃ b, (bundle ds useHeaders document).result = .ok b) ↔
      ¬ ∃ e, Fault ds useHeaders document e := by
    simp only [← bundle_eq_error_iff]
    rcases (bundle ds useHeaders document).result with e | b <;> simp
  rw [hok, exists_fault_iff]
  push Not
  rfl

end SwaggerRequests
