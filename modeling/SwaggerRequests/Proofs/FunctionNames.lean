import SwaggerRequests.Module.Function
import SwaggerRequests.Proofs.Outcome
import Mathlib.Data.List.Nodup
import Mathlib.Data.List.Perm.Subperm

/-!
# Names of functions

`requestFunctions` names the functions one after the other, and each name is chosen by `fresh` among
those that no earlier function has. A name with a number can be the name that a later operation
suggests, and then this operation gets a number as well. The names are distinct all the same,
because each is taken as soon as it is given (`nodup_freshNames`).

`freshFrom` tries as many numbers as names are taken, and this is enough: different numbers give
different names (`numbered_injective`), so `taken` cannot contain one more of them than its length
(`length_taken_of_forall_lt`). `fresh_spec` states that the least free number is found, and
`FirstFree` the same without a function of the program.

`freshNames` is the part of `requestFunctionsFrom` that concerns names
(`requestFunctionsFrom_names`), so the properties of the names are proved about it, by induction on
the suggestions.
-/

namespace SwaggerRequests

/-! ## Numbers

`numbered name` is injective, since the number can be read from the digits at the end. -/

/-- The digits after `name` in `numbered name n` have the value `n`; for `n = 0` there are none. -/
theorem exists_digits (name : String) (n : Nat) :
    ∃ digits, numbered name n = name ++ String.ofList digits ∧
      Nat.ofDigitChars 10 digits 0 = n := by
  cases n with
  | zero => exact ⟨[], String.append_empty.symm, rfl⟩
  | succ n => exact ⟨Nat.toDigits 10 (n + 1), rfl, Nat.ofDigitChars_ten_toDigits⟩

theorem numbered_injective (name : String) : Function.Injective (numbered name) := by
  intro m n h
  obtain ⟨as, has, rfl⟩ := exists_digits name m
  obtain ⟨bs, hbs, rfl⟩ := exists_digits name n
  rw [has, hbs] at h
  rw [String.ofList_injective ((String.append_right_inj name).mp h)]

theorem numbered_of_pos (name : String) {n : Nat} (h : 1 ≤ n) :
    numbered name n = name ++ toString n := by
  cases n with
  | zero => omega
  | succ n => rfl

theorem toList_numbered (name : String) {n : Nat} (h : 1 ≤ n) :
    (numbered name n).toList = name.toList ++ Nat.toDigits 10 n := by
  rw [numbered_of_pos name h, String.toList_append, Nat.toString_eq_ofList_toDigits,
    String.toList_ofList]

/-! ## The search

`freshFrom` and `fresh`. The other modules use `fresh_spec` and `firstFree_fresh` only. -/

/-- `freshFrom` ends at a number `k` such that the numbers before it give taken names. If it ends
before the tries are used up, `k` gives a name that is not taken. The induction is on the tries. -/
theorem freshFrom_spec (taken : List String) (name : String) (n tries : Nat) :
    ∃ k, freshFrom taken name n tries = numbered name k ∧ n ≤ k ∧ k ≤ n + tries ∧
      (∀ m, n ≤ m → m < k → numbered name m ∈ taken) ∧
      (k < n + tries → numbered name k ∉ taken) := by
  induction tries generalizing n with
  | zero => exact ⟨n, rfl, Nat.le_refl _, Nat.le_refl _, fun m _ _ => by omega, fun _ => by omega⟩
  | succ tries ih =>
    rw [freshFrom]
    by_cases h : numbered name n ∈ taken
    · rw [if_pos (List.contains_iff_mem.mpr h)]
      obtain ⟨k, hk, hle, hbound, htaken, hfree⟩ := ih (n + 1)
      refine ⟨k, hk, by omega, by omega, ?_, fun hlt => hfree (by omega)⟩
      intro m hnm hmk
      rcases Nat.eq_or_lt_of_le hnm with rfl | hlt
      · exact h
      · exact htaken m hlt hmk
    · rw [if_neg (fun hc => h (List.contains_iff_mem.mp hc))]
      exact ⟨n, rfl, Nat.le_refl _, by omega, fun m _ _ => by omega, fun _ => h⟩

/-- If all numbers below `k` give taken names, at least `k` names are taken. By `numbered_injective`
these names are distinct members of `taken`. -/
theorem length_taken_of_forall_lt {taken : List String} {name : String} {k : Nat}
    (h : ∀ m < k, numbered name m ∈ taken) : k ≤ taken.length := by
  have hnodup : ((List.range k).map (numbered name)).Nodup :=
    List.nodup_range.map (numbered_injective name)
  have hsub : (List.range k).map (numbered name) ⊆ taken := by
    intro x hx
    obtain ⟨m, hm, rfl⟩ := List.mem_map.mp hx
    exact h m (List.mem_range.mp hm)
  have hlength := (List.subperm_of_subset hnodup hsub).length_le
  rwa [List.length_map, List.length_range] at hlength

/-- `fresh taken name` is `name` with the least number for which it is not taken. With one try for
each member of `taken` the search of `freshFrom` cannot use them all up. -/
theorem fresh_spec (taken : List String) (name : String) :
    ∃ k, fresh taken name = numbered name k ∧ numbered name k ∉ taken ∧
      ∀ m < k, numbered name m ∈ taken := by
  obtain ⟨k, hk, -, hbound, htaken, hfree⟩ := freshFrom_spec taken name 0 taken.length
  have hbefore : ∀ m < k, numbered name m ∈ taken := fun m hm => htaken m (Nat.zero_le m) hm
  refine ⟨k, hk, ?_, hbefore⟩
  intro hmem
  -- if all tries failed, there would be more names taken than `taken` has members
  have hlast : ¬ k < 0 + taken.length := fun hlt => hfree hlt hmem
  have hcount : k + 1 ≤ taken.length := length_taken_of_forall_lt fun m hm => by
    rcases Nat.lt_succ_iff_lt_or_eq.mp hm with hm | rfl
    · exact hbefore m hm
    · exact hmem
  omega

theorem fresh_not_mem (taken : List String) (name : String) : fresh taken name ∉ taken := by
  obtain ⟨k, hk, hfree, -⟩ := fresh_spec taken name
  rwa [hk]

/-- `fresh` does not change a name that is not taken. -/
theorem fresh_of_not_mem {taken : List String} {name : String} (h : name ∉ taken) :
    fresh taken name = name := by
  obtain ⟨k, hk, -, hbefore⟩ := fresh_spec taken name
  cases k with
  | zero => exact hk
  | succ k => exact absurd (hbefore 0 (Nat.succ_pos k)) h

/-- `name` is `suggested` if this is not taken, else `suggested` with the least positive number for
which it is not taken. -/
def FirstFree (taken : List String) (suggested name : String) : Prop :=
  (suggested ∉ taken ∧ name = suggested) ∨
    (suggested ∈ taken ∧ ∃ n, 1 ≤ n ∧ name = suggested ++ toString n ∧
      suggested ++ toString n ∉ taken ∧
      ∀ m, 1 ≤ m → m < n → suggested ++ toString m ∈ taken)

/-- `fresh` finds the name that satisfies `FirstFree`. -/
theorem firstFree_fresh (taken : List String) (suggested : String) :
    FirstFree taken suggested (fresh taken suggested) := by
  obtain ⟨k, hk, hfree, hbefore⟩ := fresh_spec taken suggested
  cases k with
  | zero => exact Or.inl ⟨hfree, hk⟩
  | succ k =>
    refine Or.inr ⟨hbefore 0 (Nat.succ_pos k), k + 1, Nat.succ_pos k, hk, hfree, ?_⟩
    intro m hpos hm
    rw [← numbered_of_pos suggested hpos]
    exact hbefore m hm

/-- `FirstFree` depends only on which names are taken. -/
theorem FirstFree.congr {taken taken' : List String} {suggested name : String}
    (h : FirstFree taken suggested name) (hmem : ∀ x, x ∈ taken ↔ x ∈ taken') :
    FirstFree taken' suggested name := by
  unfold FirstFree at h ⊢
  simpa only [hmem] using h

/-! ## Names in sequence

`freshNames` gives names to a list of suggestions and takes each name that it gives. -/

/-- The names for a list of suggestions, where those in `taken` are not available. -/
def freshNames (taken : List String) : List String → List String
  | [] => []
  | suggested :: rest =>
    fresh taken suggested :: freshNames (fresh taken suggested :: taken) rest

theorem length_freshNames (taken suggestions : List String) :
    (freshNames taken suggestions).length = suggestions.length := by
  induction suggestions generalizing taken with
  | nil => rfl
  | cons suggested rest ih => rw [freshNames, List.length_cons, List.length_cons, ih]

/-- None of the names was taken before. -/
theorem not_mem_taken_of_mem_freshNames {taken suggestions : List String} {name : String}
    (h : name ∈ freshNames taken suggestions) : name ∉ taken := by
  induction suggestions generalizing taken with
  | nil => exact absurd h List.not_mem_nil
  | cons suggested rest ih =>
    rcases List.mem_cons.mp h with rfl | h
    · exact fresh_not_mem taken suggested
    · exact fun hmem => ih h (List.mem_cons_of_mem _ hmem)

/-- The names are distinct. The induction is on the suggestions; the name of the head is not among
the others because it is taken for them. -/
theorem nodup_freshNames (taken suggestions : List String) :
    (freshNames taken suggestions).Nodup := by
  induction suggestions generalizing taken with
  | nil => exact List.nodup_nil
  | cons suggested rest ih =>
    refine List.nodup_cons.mpr ⟨fun hmem => ?_, ih _⟩
    exact not_mem_taken_of_mem_freshNames hmem (List.mem_cons_self ..)

/-- Every suggested name is given to some operation, unless it was taken before. -/
theorem mem_freshNames_of_mem {taken suggestions : List String} {name : String}
    (h : name ∈ suggestions) (hfree : name ∉ taken) : name ∈ freshNames taken suggestions := by
  induction suggestions generalizing taken with
  | nil => exact absurd h List.not_mem_nil
  | cons suggested rest ih =>
    rw [freshNames, List.mem_cons]
    by_cases hname : name = fresh taken suggested
    · exact Or.inl hname
    · rcases List.mem_cons.mp h with rfl | h
      · exact absurd (fresh_of_not_mem hfree).symm hname
      · exact Or.inr (ih h (List.not_mem_cons_of_ne_of_not_mem hname hfree))

/-- Every name that is given is a suggestion with a number, perhaps zero. -/
theorem exists_numbered_of_mem_freshNames {taken suggestions : List String} {name : String}
    (h : name ∈ freshNames taken suggestions) :
    ∃ suggested ∈ suggestions, ∃ n, name = numbered suggested n := by
  induction suggestions generalizing taken with
  | nil => exact absurd h List.not_mem_nil
  | cons suggested rest ih =>
    rcases List.mem_cons.mp h with rfl | h
    · obtain ⟨n, hn, -⟩ := fresh_spec taken suggested
      exact ⟨suggested, List.mem_cons_self .., n, hn⟩
    · obtain ⟨other, hother, n, hn⟩ := ih h
      exact ⟨other, List.mem_cons_of_mem _ hother, n, hn⟩

/-- The last character of the name is a digit. -/
def endsInDigit (name : String) : Bool := name.toList.getLast?.any Char.isDigit

theorem endsInDigit_numbered (name : String) {n : Nat} (h : 1 ≤ n) :
    endsInDigit (numbered name n) = true := by
  have hdigits : ∃ c, (Nat.toDigits 10 n).getLast? = some c ∧ c.isDigit = true := by
    refine ⟨_, List.getLast?_eq_some_getLast Nat.toDigits_ne_nil, ?_⟩
    exact Nat.isDigit_of_mem_toDigits (by decide) (by decide) (List.getLast_mem _)
  obtain ⟨c, hlast, hc⟩ := hdigits
  rw [endsInDigit, toList_numbered name h, List.getLast?_append, hlast]
  exact hc

/-- A name that does not end with a digit is given exactly if it is suggested. The names with a
positive number end with a digit. -/
theorem mem_freshNames_iff {suggestions : List String} {name : String}
    (hname : endsInDigit name = false) :
    name ∈ freshNames [] suggestions ↔ name ∈ suggestions := by
  refine ⟨fun h => ?_, fun h => mem_freshNames_of_mem h List.not_mem_nil⟩
  obtain ⟨suggested, hsuggested, n, rfl⟩ := exists_numbered_of_mem_freshNames h
  cases n with
  | zero => exact hsuggested
  | succ n =>
    rw [endsInDigit_numbered suggested (Nat.succ_pos n)] at hname
    cases hname

/-- The name at position `i` satisfies `FirstFree` for the suggestion at this position, where the
names before it are taken as well. The induction is on the suggestions. The name of the head moves
from `freshNames` to `taken`, which `FirstFree.congr` allows. -/
theorem firstFree_freshNames {taken suggestions : List String} {i : Nat} {suggested name : String}
    (hsuggested : suggestions[i]? = some suggested)
    (hname : (freshNames taken suggestions)[i]? = some name) :
    FirstFree ((freshNames taken suggestions).take i ++ taken) suggested name := by
  induction suggestions generalizing taken i with
  | nil => cases hsuggested
  | cons first rest ih =>
    cases i with
    | zero =>
      obtain rfl := Option.some.inj hsuggested
      obtain rfl := Option.some.inj hname
      exact firstFree_fresh taken first
    | succ i =>
      refine (ih hsuggested hname).congr fun x => ?_
      rw [freshNames, List.take_succ_cons, List.cons_append, List.mem_append, List.mem_cons,
        List.mem_cons, List.mem_append, or_left_comm]

/-! ## Functions

The names of the functions of a document are the `freshNames` of what its operations suggest. -/

/-- The name that an operation suggests for its function. -/
def Endpoint.suggestedName (e : Endpoint) : String :=
  functionName e.method e.path e.operation.id

variable {document : Document} {useHeaders : Bool}

/-- `requestFunction` names its function by `fresh`. -/
theorem requestFunction_name {taken : List String} {e : Endpoint} {f : RequestFunction}
    (h : (requestFunction document useHeaders taken e).result = .ok f) :
    f.name = fresh taken e.suggestedName := by
  simp only [requestFunction, Logged.result_bind, Logged.result_report, Logged.result_mapError,
    bind_eq_ok_iff] at h
  obtain ⟨_, -, b, -, _, -, h⟩ := h
  exact congrArg RequestFunction.name (Except.ok.inj h).symm

/-- The names of the functions are the `freshNames` of the suggestions. The induction is on the
operations. -/
theorem requestFunctionsFrom_names {taken : List String} {es : List Endpoint}
    {fs : List RequestFunction}
    (h : (requestFunctionsFrom document useHeaders taken es).result = .ok fs) :
    fs.map RequestFunction.name = freshNames taken (es.map Endpoint.suggestedName) := by
  induction es generalizing taken fs with
  | nil =>
    obtain rfl := Except.ok.inj h
    rfl
  | cons e es ih =>
    simp only [requestFunctionsFrom, Logged.result_bind, bind_eq_ok_iff] at h
    obtain ⟨f, hf, fs', hfs, h⟩ := h
    obtain rfl := Except.ok.inj h
    rw [List.map_cons, List.map_cons, freshNames, ih hfs, requestFunction_name hf]

/-- **Distinct function names.** If `requestFunctions` succeeds, no two functions have one name,
there is one function for each operation, and the name of each is `FirstFree`: it is the name that
the operation suggests or, if an earlier function has that name, the suggested name with the least
number for which no earlier function has it. -/
theorem requestFunctions_names (document : Document) (useHeaders : Bool)
    (fs : List RequestFunction) (h : (requestFunctions document useHeaders).result = .ok fs) :
    (fs.map RequestFunction.name).Nodup ∧
    fs.length = document.endpoints.length ∧
    ∀ i e f, document.endpoints[i]? = some e → fs[i]? = some f →
      FirstFree ((fs.take i).map RequestFunction.name)
        (functionName e.method e.path e.operation.id) f.name := by
  have hnames := requestFunctionsFrom_names h
  refine ⟨?_, ?_, ?_⟩
  · rw [hnames]
    exact nodup_freshNames _ _
  · have hlength := congrArg List.length hnames
    rwa [List.length_map, length_freshNames, List.length_map] at hlength
  · intro i e f he hf
    have hsuggested : (document.endpoints.map Endpoint.suggestedName)[i]? =
        some e.suggestedName := by
      rw [List.getElem?_map, he]
      rfl
    have hname : (freshNames [] (document.endpoints.map Endpoint.suggestedName))[i]? =
        some f.name := by
      rw [← hnames, List.getElem?_map, hf]
      rfl
    have hfirst := firstFree_freshNames hsuggested hname
    rwa [← hnames, ← List.map_take, List.append_nil] at hfirst

/-- Three operations, the last of which suggests the name that the second gets by its number. -/
def threeFetches : Document :=
  let fetching (id : String) : PathItem :=
    { PathItem.empty with
      operation? := fun
        | .get => some { Operation.empty with id := some id }
        | _ => none }
  { Document.empty with
    paths := [("/a", fetching "fetch"), ("/b", fetching "fetch"), ("/c", fetching "fetch1")] }

/-- In `threeFetches` the third function gets a number after a number. -/
theorem requestFunctions_names_threeFetches :
    ∃ fs, (requestFunctions threeFetches true).result = .ok fs ∧
      fs.map RequestFunction.name = ["fetch", "fetch1", "fetch11"] ∧
      (fs.map RequestFunction.name).Nodup := by
  obtain ⟨fs, hfs, hnames⟩ : ∃ fs, (requestFunctions threeFetches true).result = .ok fs ∧
      fs.map RequestFunction.name = ["fetch", "fetch1", "fetch11"] := by
    refine ⟨_, rfl, ?_⟩
    decide +kernel
  exact ⟨fs, hfs, hnames, (requestFunctions_names threeFetches true fs hfs).1⟩

end SwaggerRequests
