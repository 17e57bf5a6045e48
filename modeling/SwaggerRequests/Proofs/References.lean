import SwaggerRequests.Request.Bundle
import SwaggerRequests.Proofs.Entries
import Mathlib.Data.List.Forall2

/-!
# References

`Descriptor.resolve` finds the parameter that a descriptor stands for: it removes the beginning
`#/parameters/` from a reference and looks up the rest among the shared parameters. This module
states the result without these steps.

`Resolves document d p` is the relation between a descriptor and its parameter, and
`Dangling document d` the property of a reference to nothing. `resolve_eq_ok_iff` and
`resolve_eq_error_iff` show that these are the outcomes of `Descriptor.resolve`, and `dangling_iff`
that exactly one of the two is the case. The theorems about bundles use the relations only.
-/

namespace SwaggerRequests

/-- The descriptor stands for the parameter: it is written out, or it refers to a shared one by its
key. -/
inductive Resolves (document : Document) : Descriptor → Parameter → Prop where
  /-- a parameter that is written out -/
  | inline (p : Parameter) : Resolves document (.inline p) p
  /-- a reference to a shared parameter -/
  | shared {key : String} {p : Parameter} (name : Option String)
    (h : document.parameters.lookup key = some p) :
    Resolves document (.reference ("#/parameters/" ++ key) name) p

/-- The descriptor is a reference, and it is not `#/parameters/` with the key of a shared
parameter. -/
def Dangling (document : Document) (d : Descriptor) : Prop :=
  ∃ target name, d = .reference target name ∧
    ∀ key ∈ document.parameters.keys, target ≠ "#/parameters/" ++ key

/-- `behind?` returns `rest` exactly if `text` is `beginning` and then `rest`. -/
theorem behind?_eq_some_iff {beginning text rest : String} :
    behind? beginning text = some rest ↔ text = beginning ++ rest := by
  have hlists : text = beginning ++ rest ↔ text.toList = beginning.toList ++ rest.toList := by
    rw [← String.toList_append, String.toList_inj]
  rw [behind?, hlists]
  by_cases h : beginning.toList.isPrefixOf text.toList = true
  · obtain ⟨cs, hcs⟩ := List.isPrefixOf_iff_prefix.mp h
    rw [if_pos h, ← hcs, List.drop_left, List.append_cancel_left_eq, Option.some_inj]
    exact ⟨fun h => h ▸ String.toList_ofList.symm, fun h => h ▸ String.ofList_toList⟩
  · rw [if_neg h]
    refine ⟨fun h => (by cases h), fun ht => absurd ?_ h⟩
    rw [List.isPrefixOf_iff_prefix, ht]
    exact List.prefix_append _ _

variable {document : Document} {d : Descriptor} {p : Parameter}

/-- `Document.parameterAt?` finds the parameter under the key that follows `#/parameters/` in
`target`. -/
theorem parameterAt?_eq_some_iff {target : String} :
    document.parameterAt? target = some p ↔
      ∃ key, target = "#/parameters/" ++ key ∧ document.parameters.lookup key = some p := by
  rw [Document.parameterAt?, Option.bind_eq_some_iff]
  exact exists_congr fun key => and_congr behind?_eq_some_iff Iff.rfl

/-- `Descriptor.resolve` succeeds with `p` exactly if the descriptor `Resolves` to `p`. -/
theorem resolve_eq_ok_iff : d.resolve document = .ok p ↔ Resolves document d p := by
  cases d with
  | inline q =>
    refine ⟨?_, ?_⟩
    · intro h
      obtain rfl := Except.ok.inj h
      exact Resolves.inline _
    · intro h
      cases h
      rfl
  | reference target name =>
    unfold Descriptor.resolve
    refine ⟨?_, ?_⟩
    · intro h
      rcases hq : document.parameterAt? target with _ | q
      · simp [hq] at h
      · obtain ⟨key, rfl, hlook⟩ := parameterAt?_eq_some_iff.mp hq
        obtain rfl : q = p := by simpa [hq] using h
        exact Resolves.shared name hlook
    · intro h
      cases h with
      | @shared key _ _ hlook =>
        simp [parameterAt?_eq_some_iff.mpr ⟨key, rfl, hlook⟩]

/-- A descriptor resolves to at most one parameter. -/
theorem Resolves.unique {q : Parameter} (hp : Resolves document d p) (hq : Resolves document d q) :
    p = q :=
  Except.ok.inj ((resolve_eq_ok_iff.mpr hp).symm.trans (resolve_eq_ok_iff.mpr hq))

/-- The members of a list to which `ds` resolves are the parameters of the descriptors in `ds`. -/
theorem mem_resolved_iff {ds : List Descriptor} {ps : List Parameter}
    (h : List.Forall₂ (Resolves document) ds ps) : p ∈ ps ↔ ∃ d ∈ ds, Resolves document d p := by
  induction h with
  | nil => simp
  | cons hd _ ih =>
    rw [List.mem_cons, ih, List.exists_mem_cons_iff]
    refine or_congr_left ⟨?_, ?_⟩
    · rintro rfl
      exact hd
    · exact fun hp => hp.unique hd

/-- A descriptor is `Dangling` exactly if it resolves to no parameter. -/
theorem dangling_iff : Dangling document d ↔ ∀ p, ¬ Resolves document d p := by
  refine ⟨?_, ?_⟩
  · rintro ⟨target, name, rfl, hno⟩ p hp
    cases hp with
    | @shared key _ _ hlook =>
      refine hno key (Entries.isSome_lookup_iff.mp ?_) rfl
      rw [hlook]
      rfl
  · intro hno
    cases d with
    | inline q => exact absurd (Resolves.inline q) (hno q)
    | reference target name =>
      refine ⟨target, name, rfl, ?_⟩
      rintro key hkey rfl
      obtain ⟨p, hp⟩ := Option.isSome_iff_exists.mp (Entries.isSome_lookup_iff.mpr hkey)
      exact hno p (Resolves.shared name hp)

/-- `Descriptor.resolve` fails exactly for a `Dangling` descriptor, with the target of its
reference. -/
theorem resolve_eq_error_iff {e : RequestError} :
    d.resolve document = .error e ↔
      Dangling document d ∧ ∃ target name, d = .reference target name ∧
        e = .unknownReference target := by
  rw [dangling_iff]
  refine ⟨?_, ?_⟩
  · intro h
    refine ⟨fun p hp => ?_, ?_⟩
    · rw [resolve_eq_ok_iff.mpr hp] at h
      cases h
    · cases d with
      | inline q => cases h
      | reference target name =>
        refine ⟨target, name, rfl, ?_⟩
        unfold Descriptor.resolve at h
        rcases hp : document.parameterAt? target with _ | q
        · simpa [hp] using h.symm
        · simp [hp] at h
  · rintro ⟨hno, target, name, rfl, rfl⟩
    unfold Descriptor.resolve
    rcases hp : document.parameterAt? target with _ | q
    · simp [hp]
    · obtain ⟨key, rfl, hlook⟩ := parameterAt?_eq_some_iff.mp hp
      exact absurd (Resolves.shared name hlook) (hno q)

end SwaggerRequests
