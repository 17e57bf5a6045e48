import SwaggerRequests.Request.Bundle
import SwaggerRequests.Proofs.Outcome
import SwaggerRequests.Proofs.Typing

/-!
# Emitting parameters

`Emission.addAll` is one loop with seven accumulators: it leaves out headers, types each other
parameter while it collects the imports, and appends its fragments. It is taken apart in three
steps.

* Headers that are left out do not change the result, so the loop can be considered for the
  `emitted` parameters with all headers (`Emission.addAll_result_emitted`).
* The loop succeeds exactly if each of them has a type, and fails with the first that has none
  (`Emission.addAll_eq_ok_iff`, `Emission.addAll_eq_error_iff`). Since types do not depend on the
  imports, each can be typed alone, which is what a `TypedParameter` is.
* The accumulators after the loop are those before it with the fragments of the typed parameters
  appended (`Emission.foldl_addTyped`).
-/

namespace SwaggerRequests

/-! ## Typed parameters

A `TypedParameter` contains the proof that its type and imports are those of the parameter, so a
list of them needs no further hypothesis. -/

/-- A parameter with the result of `Typing.parameterType` for it alone: its type and its imports. -/
@[ext] structure TypedParameter where
  parameter : Parameter
  type : String
  imports : List String
  /-- the outcome of typing the parameter without earlier imports -/
  typed_alone : (Typing.parameterType parameter).run [] = .ok (type, imports)

namespace TypedParameter

/-- The typed parameter for `p`, if `p.text?` is a type. -/
def ofText {p : Parameter} {type : String} (h : p.text? = some type) : TypedParameter where
  parameter := p
  type := type
  imports := (p.consulted.map className).eraseDups
  typed_alone := by
    rw [Typing.parameterType_run, h, ← importAll_nil]
    rfl

/-- The outcome of typing the parameter alone, in the form of `Typing.outcome`. -/
theorem outcome_eq (t : TypedParameter) :
    Typing.outcome t.parameter.name [] t.parameter.consulted t.parameter.text? =
      .ok (t.type, t.imports) := by
  rw [← Typing.parameterType_run]
  exact t.typed_alone

/-- The type of `t` is `t.parameter.text?`. -/
theorem text?_eq (t : TypedParameter) : t.parameter.text? = some t.type := by
  have h := t.outcome_eq
  rcases hp : t.parameter.text? with _ | type
  · rw [hp] at h
    cases h
  · rw [hp] at h
    exact congrArg some (congrArg Prod.fst (Except.ok.inj h))

/-- The imports of `t` are the classes of `t.parameter.consulted`, without duplicates. -/
theorem imports_eq (t : TypedParameter) :
    t.imports = (t.parameter.consulted.map className).eraseDups := by
  have h := t.outcome_eq
  rw [t.text?_eq] at h
  exact (congrArg Prod.snd (Except.ok.inj h)).symm.trans (importAll_nil _)

/-- A typed parameter is determined by its parameter. -/
theorem ofText_text?_eq (t : TypedParameter) : ofText t.text?_eq = t :=
  TypedParameter.ext rfl rfl t.imports_eq.symm

/-- `importAll` with the imports of `t` is `importAll` with the classes of
`t.parameter.consulted`. -/
theorem importAll_imports (t : TypedParameter) (imports : List String) :
    importAll imports t.imports = importAll imports (t.parameter.consulted.map className) := by
  rw [t.imports_eq, importAll_eraseDups]

end TypedParameter

/-! ## The loop

One equation of `addAll` for each case of the head of the list, and the two outcomes of the loop. -/

/-- The parameters of `ps` that are emitted: all if `useHeaders`, otherwise those not at
`Location.header`. -/
def emitted (useHeaders : Bool) (ps : List Parameter) : List Parameter :=
  ps.filter fun p => useHeaders || p.location != .header

variable {p : Parameter}

namespace Emission

/-- `Emission.add` for a typed parameter, with its imports added. -/
def addTyped (merged : Bool) (e : Emission) (t : TypedParameter) : Emission :=
  { e with imports := importAll e.imports t.imports }.add merged t.parameter t.type

variable {useHeaders merged : Bool} {e e' : Emission} {ps : List Parameter}

/-- `addAll` has the same result without a header that is left out. -/
theorem addAll_header (h : (!useHeaders && p.location == .header) = true) :
    (addAll useHeaders merged e (p :: ps)).result = (addAll useHeaders merged e ps).result := by
  rw [addAll, if_pos h, Logged.result_bind, Logged.result_report]
  rfl

/-- `addAll` adds a parameter with `text?` by `addTyped`. -/
theorem addAll_of_text (h : ¬ (!useHeaders && p.location == .header) = true) {type : String}
    (ht : p.text? = some type) :
    addAll useHeaders merged e (p :: ps) =
      addAll useHeaders merged (e.addTyped merged (TypedParameter.ofText ht)) ps := by
  have hrun : (Typing.parameterType p).run e.imports =
      .ok (type, importAll e.imports (TypedParameter.ofText ht).imports) := by
    rw [Typing.parameterType_run, ht, TypedParameter.importAll_imports]
    rfl
  rw [addAll, if_neg h, hrun]
  rfl

/-- `addAll` fails with `RequestError.untypable` at a parameter without `text?`. -/
theorem addAll_of_untypable (h : ¬ (!useHeaders && p.location == .header) = true)
    (ht : p.text? = none) :
    (addAll useHeaders merged e (p :: ps)).result = .error (.untypable p.name) := by
  have hrun : (Typing.parameterType p).run e.imports = .error (.untypable p.name) := by
    rw [Typing.parameterType_run, ht]
    rfl
  rw [addAll, if_neg h, hrun]
  exact Logged.result_fail _

/-- The result of the loop is that of the loop with all headers over the `emitted` parameters. The
logs differ, since the left side reports the headers that are left out. -/
theorem addAll_result_emitted (useHeaders merged : Bool) (e : Emission) (ps : List Parameter) :
    (addAll useHeaders merged e ps).result =
      (addAll true merged e (emitted useHeaders ps)).result := by
  induction ps generalizing e with
  | nil => rfl
  | cons p ps ih =>
    have hkept : (useHeaders || p.location != .header) =
        !(!useHeaders && p.location == .header) := by
      rw [Bool.not_and, Bool.not_not]
      rfl
    by_cases h : (!useHeaders && p.location == .header) = true
    · have hout : emitted useHeaders (p :: ps) = emitted useHeaders ps :=
        List.filter_cons_of_neg (by simp [hkept, h])
      rw [addAll_header h, hout, ih]
    · have hin : emitted useHeaders (p :: ps) = p :: emitted useHeaders ps :=
        List.filter_cons_of_pos (by simp only [hkept, h, Bool.not_false])
      rw [hin]
      rcases ht : p.text? with _ | type
      · rw [addAll_of_untypable h ht, addAll_of_untypable (by simp) ht]
      · rw [addAll_of_text h ht, addAll_of_text (by simp) ht, ih]

/-- The loop succeeds exactly if the parameters are those of some typed parameters `ts`, and then
these are added one after the other. The induction on `ps` is for every emission `e`, because each
parameter is added before the next one is typed. -/
theorem addAll_eq_ok_iff :
    (addAll true merged e ps).result = .ok e' ↔
      ∃ ts : List TypedParameter, ts.map TypedParameter.parameter = ps ∧
        ts.foldl (addTyped merged) e = e' := by
  -- the induction needs any emission, since each parameter is added before the next is typed
  induction ps generalizing e with
  | nil =>
    refine ⟨?_, ?_⟩
    · intro h
      exact ⟨[], rfl, Except.ok.inj h⟩
    · rintro ⟨ts, hts, rfl⟩
      obtain rfl := List.map_eq_nil_iff.mp hts
      rfl
  | cons p ps ih =>
    refine ⟨?_, ?_⟩
    · intro h
      rcases ht : p.text? with _ | type
      · rw [addAll_of_untypable (by simp) ht] at h
        cases h
      · rw [addAll_of_text (by simp) ht] at h
        obtain ⟨ts, rfl, hts⟩ := ih.mp h
        exact ⟨TypedParameter.ofText ht :: ts, rfl, hts⟩
    · rintro ⟨ts, hts, hfold⟩
      obtain ⟨t, ts', rfl, rfl, rfl⟩ := List.map_eq_cons_iff.mp hts
      rw [addAll_of_text (by simp) t.text?_eq, t.ofText_text?_eq]
      exact ih.mpr ⟨ts', rfl, hfold⟩

/-- The loop fails exactly if some parameter is `Untypable`, with the name of the first such
parameter. A failure does not depend on the emission, so only the first parameter without a type
counts. -/
theorem addAll_eq_error_iff {cause : RequestError} :
    (addAll true merged e ps).result = .error cause ↔
      ∃ p, IsFirst Parameter.Untypable ps p ∧ cause = .untypable p.name := by
  induction ps generalizing e with
  | nil =>
    refine ⟨?_, ?_⟩
    · intro h
      cases h
    · rintro ⟨p, hp, -⟩
      exact absurd hp not_isFirst_nil
  | cons p ps ih =>
    -- the head is the first without a type, or it is added and the first is in the tail
    rcases ht : p.text? with _ | type
    · have hp : p.Untypable := p.text?_eq_none_iff.mp ht
      rw [addAll_of_untypable (by simp) ht]
      refine ⟨?_, ?_⟩
      · intro h
        exact ⟨p, isFirst_cons_iff.mpr (Or.inl ⟨hp, rfl⟩), (Except.error.inj h).symm⟩
      · rintro ⟨q, hq, rfl⟩
        rcases isFirst_cons_iff.mp hq with ⟨-, rfl⟩ | ⟨hno, -⟩
        · rfl
        · exact absurd hp hno
    · have hp : ¬ p.Untypable := by
        rw [← p.text?_eq_none_iff, ht]
        exact fun h => (by cases h)
      rw [addAll_of_text (by simp) ht, ih]
      refine ⟨?_, ?_⟩
      · rintro ⟨q, hq, rfl⟩
        exact ⟨q, isFirst_cons_iff.mpr (Or.inr ⟨hp, hq⟩), rfl⟩
      · rintro ⟨q, hq, rfl⟩
        rcases isFirst_cons_iff.mp hq with ⟨hbad, -⟩ | ⟨-, hq⟩
        · exact absurd hbad hp
        · exact ⟨q, hq, rfl⟩

end Emission

/-! ## What is accumulated

The fragments of a typed parameter, and the accumulators of the loop in terms of them. -/

namespace Location

theorem mem_all (l : Location) : l ∈ all := by cases l <;> decide

theorem nodup_all : all.Nodup := by decide

end Location

namespace TypedParameter

/-- The members of `ts` at the location `l`, in their order. -/
def located (l : Location) (ts : List TypedParameter) : List TypedParameter :=
  ts.filter (·.parameter.location == l)

/-- The `binding` of the name of the parameter. -/
def binding (t : TypedParameter) : String := SwaggerRequests.binding t.parameter.name

/-- `Fragment.member` of the parameter, its member in the type of `params`. -/
def member (t : TypedParameter) : String := Fragment.member t.parameter t.binding t.type

/-- `Fragment.formData` of the parameter, for `Location.formData`. -/
def formData (t : TypedParameter) : String := Fragment.formData t.parameter t.binding

/-- `Fragment.replacement` of the parameter, for `Location.path`. -/
def replacement (t : TypedParameter) : String := Fragment.replacement t.parameter t.binding

/-- `Fragment.entry` of the parameter, for the query, the headers and a merged body. -/
def entry (t : TypedParameter) : String := Fragment.entry t.parameter t.binding

/-- `Fragment.value` of the parameter, for a body of one. -/
def value (t : TypedParameter) : String := Fragment.value t.binding

theorem located_cons_self (t : TypedParameter) (ts : List TypedParameter) :
    located t.parameter.location (t :: ts) = t :: located t.parameter.location ts :=
  List.filter_cons_of_pos (beq_self_eq_true _)

theorem located_cons_of_ne {l : Location} {t : TypedParameter} (h : t.parameter.location ≠ l)
    (ts : List TypedParameter) : located l (t :: ts) = located l ts :=
  List.filter_cons_of_neg fun hl => h (beq_iff_eq.mp hl)

/-- Every typed parameter is `located` at exactly one location. This uses that `Location.all` has
every location once. -/
theorem flatMap_located_perm (ts : List TypedParameter) :
    (Location.all.flatMap fun l => located l ts).Perm ts := by
  induction ts with
  | nil => rfl
  | cons t ts ih =>
    obtain ⟨before, after, hall⟩ := List.append_of_mem (Location.mem_all t.parameter.location)
    have hnodup := Location.nodup_all
    rw [hall, List.nodup_middle, List.nodup_cons, List.mem_append, not_or] at hnodup
    -- at every other location nothing changes
    have hother : ∀ ls : List Location, t.parameter.location ∉ ls →
        (ls.flatMap fun l => located l (t :: ts)) = ls.flatMap fun l => located l ts :=
      fun ls hls => List.flatMap_congr fun l hl =>
        located_cons_of_ne (fun h => hls (h ▸ hl)) ts
    rw [hall, List.flatMap_append, List.flatMap_cons] at ih ⊢
    rw [hother _ hnodup.1.1, hother _ hnodup.1.2, located_cons_self, List.cons_append]
    exact List.perm_middle.trans (ih.cons t)

end TypedParameter

namespace Emission

open TypedParameter (located)

/-- The `entry` of a parameter of the body if the body is `merged`, otherwise its `value`. -/
def bodyEntry (merged : Bool) (t : TypedParameter) : String :=
  if merged then t.entry else t.value

/-- After the typed parameters `ts` are added, each accumulator is the one of `e` with the fragments
of the parameters of its location appended; the signature has the members of all. The induction is
on `ts`; a head at the location `l` extends the accumulator of `l` only. -/
theorem foldl_addTyped (merged : Bool) (e : Emission) (ts : List TypedParameter) :
    ts.foldl (addTyped merged) e =
      { signature := e.signature ++ String.join (ts.map TypedParameter.member)
        formData := e.formData ++ String.join ((located .formData ts).map TypedParameter.formData)
        replacements :=
          e.replacements ++ String.join ((located .path ts).map TypedParameter.replacement)
        query := e.query ++ (located .query ts).map TypedParameter.entry
        bodies := e.bodies ++ (located .body ts).map (bodyEntry merged)
        headers := e.headers ++ (located .header ts).map TypedParameter.entry
        imports := importAll e.imports (ts.flatMap TypedParameter.imports) } := by
  induction ts generalizing e with
  | nil => simp [located, importAll]
  | cons t ts ih =>
    rw [List.foldl_cons, ih]
    rcases h : t.parameter.location <;>
      simp [addTyped, add, located, h, importAll_append, String.append_assoc, bodyEntry,
        TypedParameter.member, TypedParameter.formData, TypedParameter.replacement,
        TypedParameter.entry, TypedParameter.value, TypedParameter.binding]

end Emission

end SwaggerRequests
