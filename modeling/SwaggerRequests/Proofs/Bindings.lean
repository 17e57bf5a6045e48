import SwaggerRequests.Proofs.CamelCase
import SwaggerRequests.Proofs.Imports

/-!
# Bindings of different parameters

A parameter is bound to the property `binding name` of `params`, which is its name in camel case.
Camel case does not keep the characters between the words of a name, nor the case of most letters,
and unlike function names the bindings of one operation are not numbered. So two parameters of an
operation can be bound to one property.

`bundle_bindings_differ_iff` gives the exact condition: the bindings of a bundle are distinct if and
only if no two emitted parameters with different names agree in `camelCase`. The underscore that
`avoidLeadingDigit` may add does not identify further names, since a name in camel case has no
underscore (`binding_eq_iff`). `binding_shared_userIds` is a pair of names that agree.
-/

namespace SwaggerRequests

variable {a b : String} {cs : List Char}

/-! ## Names that are bound alike

`binding` is `camelCase` followed by `avoidLeadingDigit`, which is injective on texts without
underscores. -/

/-- Without its underscores, `avoidLeadingDigit cs` is `cs` again, if `cs` has none. -/
theorem filter_avoidLeadingDigit (h : '_' ∉ cs) :
    (avoidLeadingDigit cs).filter (· ≠ '_') = cs := by
  have hcs : cs.filter (· ≠ '_') = cs :=
    List.filter_eq_self.mpr fun c hc => decide_eq_true fun heq => h (heq ▸ hc)
  rcases cs with _ | ⟨c, cs⟩
  · rfl
  · rw [avoidLeadingDigit]
    split
    · rwa [List.filter_cons_of_neg (by decide)]
    · exact hcs

/-- Two names have one binding exactly if they agree in `camelCase`. By
`underscore_not_mem_camelCase` the underscore of `avoidLeadingDigit` can be taken away again. -/
theorem binding_eq_iff : binding a = binding b ↔ camelCase a.toList = camelCase b.toList := by
  refine ⟨fun h => ?_, fun h => by rw [binding, binding, h]⟩
  have hchars := congrArg (List.filter (· ≠ '_')) (String.ofList_injective h)
  rwa [filter_avoidLeadingDigit (underscore_not_mem_camelCase _),
    filter_avoidLeadingDigit (underscore_not_mem_camelCase _)] at hchars

/-- Two names with the same `runs`, which differ in the characters between them only, have one
binding. -/
theorem binding_eq_of_runs_eq (h : runs [] a.toList = runs [] b.toList) :
    binding a = binding b := by
  rw [binding_eq_iff, camelCase, camelCase, words, words, h]

theorem Fragment.value_injective : Function.Injective Fragment.value := by
  intro a b h
  exact (String.append_right_inj _).mp ((String.append_left_inj _).mp h)

/-- Two parameters have one value expression exactly if they have one binding. -/
theorem TypedParameter.value_eq_iff {t u : TypedParameter} :
    t.value = u.value ↔ t.binding = u.binding :=
  Fragment.value_injective.eq_iff

/-! ## Bindings of a bundle

The members of the signature and the value expressions of the fragments, over all emitted
parameters. -/

/-- **Bindings.** A bundle `b` is the image of typed parameters, which are those that satisfy
`IsEmitted`. Among them any two with different names have different bindings and different value
expressions, if and only if no two emitted parameters with different names agree in `camelCase`. Two
parameters whose names have the same `runs` have one binding and one value expression. Both
conditions are on the same parameters, and `binding_eq_iff` and `TypedParameter.value_eq_iff`
translate the one into the other. -/
theorem bundle_bindings_differ_iff (ds : List Descriptor) (useHeaders : Bool) (document : Document)
    (b : Bundle) (h : (bundle ds useHeaders document).result = .ok b) :
    ∃ typed : List TypedParameter, b = Bundle.image typed ∧
      (∀ p, p ∈ typed.map TypedParameter.parameter ↔
        ∃ d, IsEmitted ds useHeaders document d p) ∧
      ((∀ t ∈ typed, ∀ u ∈ typed, t.parameter.name ≠ u.parameter.name →
          t.binding ≠ u.binding ∧ t.value ≠ u.value) ↔
        ∀ d p e q, IsEmitted ds useHeaders document d p → IsEmitted ds useHeaders document e q →
          p.name ≠ q.name → camelCase p.name.toList ≠ camelCase q.name.toList) ∧
      ∀ t ∈ typed, ∀ u ∈ typed,
        runs [] t.parameter.name.toList = runs [] u.parameter.name.toList →
          t.binding = u.binding ∧ t.value = u.value := by
  obtain ⟨typed, rfl, hemitted⟩ := exists_image_of_bundle h
  refine ⟨typed, rfl, hemitted, ⟨?_, ?_⟩, ?_⟩
  · intro hdiffer d p e q hp hq hname hcamel
    obtain ⟨t, ht, rfl⟩ := List.mem_map.mp ((hemitted p).mpr ⟨d, hp⟩)
    obtain ⟨u, hu, rfl⟩ := List.mem_map.mp ((hemitted q).mpr ⟨e, hq⟩)
    exact (hdiffer t ht u hu hname).1 (binding_eq_iff.mpr hcamel)
  · intro hcamel t ht u hu hname
    obtain ⟨d, hp⟩ := (hemitted t.parameter).mp (List.mem_map_of_mem ht)
    obtain ⟨e, hq⟩ := (hemitted u.parameter).mp (List.mem_map_of_mem hu)
    have hbinding : t.binding ≠ u.binding := fun heq =>
      hcamel d _ e _ hp hq hname (binding_eq_iff.mp heq)
    exact ⟨hbinding, fun heq => hbinding (TypedParameter.value_eq_iff.mp heq)⟩
  · intro t _ u _ hruns
    have hbinding : t.binding = u.binding := binding_eq_of_runs_eq hruns
    exact ⟨hbinding, TypedParameter.value_eq_iff.mpr hbinding⟩

/-- Four parameters whose names consist of words with different characters between them. -/
def loginParameters : List Parameter :=
  [textAt .query "user-id", textAt .query "filter.userName", textAt .formData "2fa",
    textAt .header "X-Request-Id"]

/-- No two names of `loginParameters` agree in camel case. -/
theorem bundle_bindings_differ_loginParameters :
    ∃ b, (bundle (loginParameters.map .inline) true Document.empty).result = .ok b ∧
      b.query = ["'user-id':params['userId']", "'filter.userName':params['filterUserName']"] ∧
      b.headers = ["'X-Request-Id':params['xRequestId']"] ∧
      ∃ typed : List TypedParameter, b = Bundle.image typed ∧
        ∀ t ∈ typed, ∀ u ∈ typed, t.parameter.name ≠ u.parameter.name →
          t.binding ≠ u.binding ∧ t.value ≠ u.value := by
  obtain ⟨b, hb, hquery, hheaders⟩ :
      ∃ b, (bundle (loginParameters.map .inline) true Document.empty).result = .ok b ∧
        b.query = ["'user-id':params['userId']", "'filter.userName':params['filterUserName']"] ∧
        b.headers = ["'X-Request-Id':params['xRequestId']"] := by
    refine ⟨_, rfl, ?_, ?_⟩
    · decide +kernel
    · decide +kernel
  obtain ⟨typed, himage, -, hiff, -⟩ :=
    bundle_bindings_differ_iff (loginParameters.map .inline) true Document.empty b hb
  refine ⟨b, hb, hquery, hheaders, typed, himage, hiff.mpr ?_⟩
  have hresolved : (keptDescriptors (loginParameters.map .inline)).mapM
      (Descriptor.resolve Document.empty) = .ok loginParameters := rfl
  have hdiffer : ∀ p ∈ loginParameters, ∀ q ∈ loginParameters,
      p.name ≠ q.name → camelCase p.name.toList ≠ camelCase q.name.toList := by
    decide +kernel
  intro d p e q hp hq
  exact hdiffer p (hp.mem_resolved hresolved) q (hq.mem_resolved hresolved)

/-- Two parameters whose names differ in the character between their words only. -/
def userIds : List Parameter := [textAt .query "user-id", textAt .query "user_id"]

/-- The two parameters of `userIds` are bound to one property, so one value is sent for both. -/
theorem binding_shared_userIds :
    ∃ b, (bundle (userIds.map .inline) false Document.empty).result = .ok b ∧
      b.query = ["'user-id':params['userId']", "'user_id':params['userId']"] ∧
      b.signature = "\n    /**  */\n    userId?:string,\n    /**  */\n    userId?:string," ∧
      ∃ d p e q, IsEmitted (userIds.map .inline) false Document.empty d p ∧
        IsEmitted (userIds.map .inline) false Document.empty e q ∧ p.name ≠ q.name ∧
        binding p.name = binding q.name := by
  refine ⟨_, rfl, ?_, ?_, ?_⟩
  · decide +kernel
  · decide +kernel
  · have hresolved : (keptDescriptors (userIds.map .inline)).mapM
        (Descriptor.resolve Document.empty) = .ok userIds := rfl
    have hemitted : ∀ p ∈ userIds,
        ∃ d, IsEmitted (userIds.map .inline) false Document.empty d p := by
      intro p hp
      have hquery : p.location ≠ .header := by
        rcases List.mem_pair.mp hp with rfl | rfl <;> decide
      exact (mem_emitted_resolved_iff (mapM_resolve_eq_ok_iff.mp hresolved)).mp
        (mem_emitted_iff.mpr ⟨hp, fun _ => hquery⟩)
    obtain ⟨d, hp⟩ := hemitted (textAt .query "user-id") (List.mem_cons_self ..)
    obtain ⟨e, hq⟩ := hemitted (textAt .query "user_id")
      (List.mem_of_mem_tail (List.mem_cons_self ..))
    refine ⟨d, _, e, _, hp, hq, by decide, ?_⟩
    exact binding_eq_of_runs_eq (by decide +kernel)

end SwaggerRequests
