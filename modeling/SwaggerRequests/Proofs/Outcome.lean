import SwaggerRequests.Request.Event
import Mathlib.Data.List.Forall2

/-!
# Outcomes

Lemmas on the two monads of the program. `Except ε` is the monad of the steps without a log, and
`Logged ε` the one of the steps that report events. Of a `Logged` computation, the result does not
depend on the logs of its parts (`Logged.result_bind`), and the log of a sequence is the log of its
first part, followed by that of the second if the first succeeded (`Logged.log_bind`).

The second half is about lists. A list is processed from the front, and the first member that is at
fault decides the error. `IsFirst P xs x` states without a loop that `x` is the first member of `xs`
with the property `P`, and `mapM_eq_error_iff` characterizes the errors of `List.mapM` by it. The
successful runs are characterized by `List.Forall₂` (`mapM_eq_ok_iff`).
-/

namespace SwaggerRequests

variable {ε ε' α β : Type}

/-! ## Computations that fail

Inversion of `bind` in `Except ε`. -/

/-- `x >>= f` succeeds with `b` exactly if `x` succeeds with some `a` and `f a` with `b`. -/
theorem bind_eq_ok_iff {x : Except ε α} {f : α → Except ε β} {b : β} :
    x >>= f = .ok b ↔ ∃ a, x = .ok a ∧ f a = .ok b := by
  rcases x with e | a
  · refine ⟨fun h => (by cases h), ?_⟩
    rintro ⟨a, ha, -⟩
    cases ha
  · refine ⟨?_, ?_⟩
    · exact fun h => ⟨a, rfl, h⟩
    · rintro ⟨a', ha, h⟩
      cases ha
      exact h

/-- `x >>= f` fails with `e` exactly if `x` does, or if `x` succeeds with some `a` and `f a` fails
with `e`. -/
theorem bind_eq_error_iff {x : Except ε α} {f : α → Except ε β} {e : ε} :
    x >>= f = .error e ↔ x = .error e ∨ ∃ a, x = .ok a ∧ f a = .error e := by
  rcases x with e' | a
  · refine ⟨?_, ?_⟩
    · exact fun h => Or.inl (congrArg Except.error (Except.error.inj h))
    · rintro (h | ⟨a, ha, -⟩)
      · exact congrArg Except.error (Except.error.inj h)
      · cases ha
  · refine ⟨?_, ?_⟩
    · exact fun h => Or.inr ⟨a, rfl, h⟩
    · rintro (h | ⟨a', ha, h⟩)
      · cases h
      · cases ha
        exact h

/-! ## Computations that report

The two projections of `Logged`. The lemmas on the result are simp lemmas, so `simp` turns a
statement on the result of a `do` block into one on `Except`. -/

namespace Logged

@[simp] theorem result_pure (a : α) : (pure a : Logged ε α).result = .ok a := rfl

@[simp] theorem log_pure (a : α) : (pure a : Logged ε α).log = [] := rfl

@[simp] theorem result_report (events : List Event) :
    (report events : Logged ε Unit).result = .ok () := rfl

@[simp] theorem result_ofExcept (x : Except ε α) : (ofExcept x).result = x := rfl

@[simp] theorem result_fail (e : ε) : (fail e : Logged ε α).result = .error e := rfl

@[simp] theorem result_mapError (f : ε → ε') (x : Logged ε α) :
    (x.mapError f).result = x.result.mapError f := rfl

/-- The result of a sequence is the sequence of the results. -/
@[simp] theorem result_bind (x : Logged ε α) (f : α → Logged ε β) :
    (x >>= f).result = x.result >>= fun a => (f a).result := by
  change (Logged.bind x f).result = _
  unfold Logged.bind
  rcases x.result with e | a <;> rfl

/-- The log of `x >>= f` is that of `x`, followed by that of `f a` if `x` succeeds with `a`. -/
theorem log_bind (x : Logged ε α) (f : α → Logged ε β) :
    (x >>= f).log = x.log ++ match x.result with
      | .ok a => (f a).log
      | .error _ => [] := by
  change (Logged.bind x f).log = _
  unfold Logged.bind
  rcases x.result with e | a
  · exact (List.append_nil _).symm
  · rfl

/-- `log_bind` for an `x` that succeeds with `a`. -/
theorem log_bind_of_ok {x : Logged ε α} {a : α} (h : x.result = .ok a) (f : α → Logged ε β) :
    (x >>= f).log = x.log ++ (f a).log := by
  rw [log_bind, h]

/-- Two continuations of `x` can be exchanged if they agree on the value with which `x` succeeds.
The log is the same as well, since it depends on the continuation at this value only. -/
theorem bind_congr {x : Logged ε α} {f g : α → Logged ε β}
    (h : ∀ a, x.result = .ok a → f a = g a) : x >>= f = x >>= g := by
  change Logged.bind x f = Logged.bind x g
  unfold Logged.bind
  rcases hx : x.result with e | a
  · rfl
  · simp only [h a hx]

end Logged

/-! ## First faults -/

/-- `x` is the first member of `xs` that has the property `P`. -/
def IsFirst (P : α → Prop) (xs : List α) (x : α) : Prop :=
  ∃ before after, xs = before ++ x :: after ∧ P x ∧ ∀ y ∈ before, ¬ P y

variable {P : α → Prop}

theorem not_isFirst_nil {x : α} : ¬ IsFirst P [] x := by
  rintro ⟨before, after, h, -⟩
  cases before <;> cases h

/-- The first member of `y :: ys` with the property `P` is `y` if `P y`, and that of `ys` if not. -/
theorem isFirst_cons_iff {x y : α} {ys : List α} :
    IsFirst P (y :: ys) x ↔ (P y ∧ x = y) ∨ (¬ P y ∧ IsFirst P ys x) := by
  refine ⟨?_, ?_⟩
  · rintro ⟨before, after, h, hx, hno⟩
    cases before with
    | nil =>
      obtain ⟨rfl, rfl⟩ := List.cons.inj h
      exact Or.inl ⟨hx, rfl⟩
    | cons z before =>
      obtain ⟨rfl, rfl⟩ := List.cons.inj h
      exact Or.inr ⟨hno _ (List.mem_cons_self ..), before, after, rfl, hx,
        fun w hw => hno w (List.mem_cons_of_mem _ hw)⟩
  · rintro (⟨hy, rfl⟩ | ⟨hy, before, after, rfl, hx, hno⟩)
    · exact ⟨[], ys, rfl, hy, fun _ h => absurd h List.not_mem_nil⟩
    · refine ⟨y :: before, after, rfl, hx, ?_⟩
      intro w hw
      rcases List.mem_cons.mp hw with rfl | hw
      · exact hy
      · exact hno w hw

/-- A list with a member that satisfies `P` has a first one. The induction is on the list. -/
theorem exists_isFirst {xs : List α} (h : ∃ x ∈ xs, P x) : ∃ x, IsFirst P xs x := by
  induction xs with
  | nil =>
    obtain ⟨x, hx, -⟩ := h
    cases hx
  | cons y ys ih =>
    by_cases hy : P y
    · exact ⟨y, isFirst_cons_iff.mpr (Or.inl ⟨hy, rfl⟩)⟩
    · obtain ⟨x, hx, hP⟩ := h
      have hx' : x ∈ ys := by
        rcases List.mem_cons.mp hx with rfl | hx
        · exact absurd hP hy
        · exact hx
      obtain ⟨z, hz⟩ := ih ⟨x, hx', hP⟩
      exact ⟨z, isFirst_cons_iff.mpr (Or.inr ⟨hy, hz⟩)⟩

theorem IsFirst.mem {xs : List α} {x : α} (h : IsFirst P xs x) : x ∈ xs := by
  obtain ⟨before, after, rfl, -⟩ := h
  exact List.mem_append_right _ (List.mem_cons_self ..)

theorem IsFirst.holds {xs : List α} {x : α} (h : IsFirst P xs x) : P x := by
  obtain ⟨-, -, -, hx, -⟩ := h
  exact hx

/-! ## Lists processed from the front

What `List.mapM` does in `Except ε`, by the inductions that the other modules need only through
these lemmas. -/

/-- `xs.mapM f` succeeds with `ys` exactly if `f` succeeds on each member of `xs` with the member of
`ys` at its position. -/
theorem mapM_eq_ok_iff {f : α → Except ε β} {xs : List α} {ys : List β} :
    xs.mapM f = .ok ys ↔ List.Forall₂ (fun x y => f x = .ok y) xs ys := by
  induction xs generalizing ys with
  | nil =>
    rw [List.mapM_nil, List.forall₂_nil_left_iff]
    exact ⟨fun h => (Except.ok.inj h).symm, fun h => congrArg Except.ok h.symm⟩
  | cons x xs ih =>
    rw [List.mapM_cons, List.forall₂_cons_left_iff, bind_eq_ok_iff]
    refine ⟨?_, ?_⟩
    · rintro ⟨y, hy, h⟩
      obtain ⟨ys', hys, h⟩ := bind_eq_ok_iff.mp h
      exact ⟨y, ys', hy, ih.mp hys, (Except.ok.inj h).symm⟩
    · rintro ⟨y, ys', hy, hys, rfl⟩
      exact ⟨y, hy, bind_eq_ok_iff.mpr ⟨ys', ih.mpr hys, rfl⟩⟩

/-- `xs.mapM f` fails with `e` exactly if `f` fails with `e` on the first member on which it fails.
The induction is on the list. -/
theorem mapM_eq_error_iff {f : α → Except ε β} {xs : List α} {e : ε} :
    xs.mapM f = .error e ↔
      ∃ x, IsFirst (fun x => ∃ e, f x = .error e) xs x ∧ f x = .error e := by
  induction xs with
  | nil =>
    refine ⟨fun h => (by cases h), ?_⟩
    rintro ⟨x, hx, -⟩
    exact absurd hx not_isFirst_nil
  | cons x xs ih =>
    rw [List.mapM_cons, bind_eq_error_iff]
    simp only [isFirst_cons_iff]
    -- the head fails, or it succeeds and the first failure is in the tail
    refine ⟨?_, ?_⟩
    · rintro (hx | ⟨y, hy, h⟩)
      · exact ⟨x, Or.inl ⟨⟨e, hx⟩, rfl⟩, hx⟩
      · rcases bind_eq_error_iff.mp h with hxs | ⟨ys, -, h⟩
        · obtain ⟨z, hfirst, hz⟩ := ih.mp hxs
          refine ⟨z, Or.inr ⟨?_, hfirst⟩, hz⟩
          rintro ⟨e', he'⟩
          rw [hy] at he'
          cases he'
        · cases h
    · rintro ⟨z, ⟨-, rfl⟩ | ⟨hno, hfirst⟩, hz⟩
      · exact Or.inl hz
      · rcases hx : f x with e' | y
        · exact absurd ⟨e', hx⟩ hno
        · exact Or.inr ⟨y, rfl, bind_eq_error_iff.mpr (Or.inl (ih.mpr ⟨z, hfirst, hz⟩))⟩

/-- `List.mapM` depends only on the values of `f` on the members of `xs`. -/
theorem mapM_congr {f g : α → Except ε β} {xs : List α} (h : ∀ x ∈ xs, f x = g x) :
    xs.mapM f = xs.mapM g := by
  induction xs with
  | nil => rfl
  | cons x xs ih =>
    obtain ⟨hx, hxs⟩ := List.forall_mem_cons.mp h
    rw [List.mapM_cons, List.mapM_cons, hx, ih hxs]

/-- A member `x` can be left out if `f` succeeds on it, with `y`, and the continuation `g` gives the
same without `y`. If `f` fails on a member of `xs` or `ys`, it does so on both sides. -/
theorem mapM_insert_bind {γ : Type} {f : α → Except ε β} {g : List β → Except ε γ} {x : α} {y : β}
    (hx : f x = .ok y) (hg : ∀ as bs, g (as ++ y :: bs) = g (as ++ bs)) (xs ys : List α) :
    (xs ++ x :: ys).mapM f >>= g = (xs ++ ys).mapM f >>= g := by
  rw [List.mapM_append, List.mapM_append, List.mapM_cons, hx]
  rcases xs.mapM f with e | as
  · rfl
  · rcases ys.mapM f with e | bs
    · rfl
    · exact hg as bs

end SwaggerRequests
