import SwaggerRequests.Proofs.FunctionNames
import Mathlib.Algebra.Group.Nat.Defs
import Mathlib.Data.Finset.Card
import Mathlib.Data.Nat.Init

/-!
# The search for a free name

`fresh taken suggested` is what the search for a free name finds. The search tries the suggested
name and then the same name with one number after the other, as long as the name tried is taken.
`Search` is this search without a bound, as an inductive relation with one constructor for a free
name and one for a taken name, and over any `Counter` for the numbers. `Counter.Finds` is the search
from the suggested name.

That the search ends follows by counting: the names tried so far are distinct and taken, so there
are at most as many as taken names (`le_card_of_forall_lt`). The least free number that `fresh_spec`
gives is therefore bounded, and `finds_iff` shows that the search ends at this number and nowhere
else, for every counter that counts like the natural numbers up to there (`Counter.Counts`). Two
counters are compared: `Counter.natural`, and `Counter.signed32`, which overflows after `2 ^ 31`
numbers.
-/

namespace SwaggerRequests

/-! ## Counters

A counter abstracts from the type of the numbers. The search uses its operations only. -/

/-- What a search counts with. -/
structure Counter where
  /-- the type of the numbers -/
  Number : Type
  /-- the number of the suggested name itself -/
  zero : Number
  /-- the next number, if there is one -/
  next? : Number → Option Number
  /-- the number as it is written after a name -/
  digits : Number → String

namespace Counter

/-- The counter of the natural numbers. -/
def natural : Counter := ⟨Nat, 0, fun n => some (n + 1), toString⟩

/-- The counter of 32 bits with a sign, which has no number after the greatest one. -/
def signed32 : Counter :=
  ⟨Int32, 0, fun n => if n = Int32.maxValue then none else some (n + 1), toString⟩

/-- Below `limit` the counter goes through the natural numbers one by one, `number k` being the one
for `k`, and writes them like natural numbers. -/
structure Counts (c : Counter) (limit : Nat) (number : Nat → c.Number) : Prop where
  /-- counting starts at zero -/
  zero : number 0 = c.zero
  /-- the next number of `number k` -/
  next : ∀ k, k + 1 < limit → c.next? (number k) = some (number (k + 1))
  /-- `number k` is written like `k` -/
  digits : ∀ k, k < limit → c.digits (number k) = toString k

theorem natural_counts (limit : Nat) : natural.Counts limit id where
  zero := rfl
  next _ _ := rfl
  digits _ _ := rfl

/-- `Counter.signed32` counts like the natural numbers below `2 ^ 31`. -/
theorem signed32_counts : signed32.Counts (2 ^ 31) Int32.ofNat where
  zero := rfl
  next k hk := by
    have hroom : Int32.ofNat k ≠ Int32.maxValue := by
      intro h
      have hvalue := congrArg Int32.toInt h
      rw [Int32.toInt_ofNat_of_lt (by omega)] at hvalue
      change (k : Int) = 2147483647 at hvalue
      omega
    change (if Int32.ofNat k = Int32.maxValue then none else some (Int32.ofNat k + 1)) = _
    rw [if_neg hroom, Int32.ofNat_add]
    rfl
  digits k hk := by
    change toString (Int32.ofNat k).toInt = toString k
    rw [Int32.toInt_ofNat_of_lt hk]
    rfl

end Counter

/-! ## The search

`Search` is deterministic (`Search.unique`), so it is enough to exhibit one run. -/

/-- `Search c taken suggested n name m found`: the search that tries `name` with the number `n` ends
at the number `m` with the name `found`. It continues after names that are taken, if there is a next
number. -/
inductive Search (c : Counter) (taken : List String) (suggested : String) :
    c.Number → String → c.Number → String → Prop where
  /-- the name is free -/
  | free {n : c.Number} {name : String} (h : name ∉ taken) :
    Search c taken suggested n name n name
  /-- the name is taken, so the next number is tried -/
  | again {n next last : c.Number} {name found : String} (h : name ∈ taken)
    (hnext : c.next? n = some next)
    (hrest : Search c taken suggested next (suggested ++ c.digits next) last found) :
    Search c taken suggested n name last found

/-- The search that starts with the suggested name ends at the number `n` with `name`. -/
def Counter.Finds (c : Counter) (taken : List String) (suggested : String) (n : c.Number)
    (name : String) : Prop :=
  Search c taken suggested c.zero suggested n name

variable {c : Counter} {taken : List String} {suggested : String}

/-- A search has at most one end. The induction is on the first run. -/
theorem Search.unique {n m m' : c.Number} {name found found' : String}
    (h : Search c taken suggested n name m found)
    (h' : Search c taken suggested n name m' found') : m = m' ∧ found = found' := by
  induction h with
  | free hfree =>
    cases h' with
    | free _ => exact ⟨rfl, rfl⟩
    | again hmem _ _ => exact absurd hmem hfree
  | again hmem hnext _ ih =>
    cases h' with
    | free hfree => exact absurd hmem hfree
    | again _ hnext' hrest' =>
      obtain rfl := Option.some.inj (hnext.symm.trans hnext')
      exact ih hrest'

/-- If all numbers below `k` give taken names and `k` a free one, the search from any `j ≤ k` ends
at `k`. The induction is on the distance from `j` to `k`. -/
theorem search_of_counts {limit k : Nat} {number : Nat → c.Number} (hc : c.Counts limit number)
    (hk : k < limit) (htaken : ∀ m < k, numbered suggested m ∈ taken)
    (hfree : numbered suggested k ∉ taken) {j : Nat} (hj : j ≤ k) :
    Search c taken suggested (number j) (numbered suggested j) (number k)
      (numbered suggested k) := by
  -- from the end: the last name is free, and each name before it is taken
  induction hj using Nat.decreasingInduction with
  | self => exact Search.free hfree
  | of_succ j hj ih =>
    have hroom : j + 1 < limit := by omega
    apply Search.again (htaken j hj) (hc.next j hroom)
    rw [hc.digits (j + 1) hroom]
    exact ih

/-- Under the same conditions the search from the suggested name ends at `k` and nowhere else. -/
theorem finds_iff {limit k : Nat} {number : Nat → c.Number} (hc : c.Counts limit number)
    (hk : k < limit) (htaken : ∀ m < k, numbered suggested m ∈ taken)
    (hfree : numbered suggested k ∉ taken) (n : c.Number) (name : String) :
    c.Finds taken suggested n name ↔ n = number k ∧ name = numbered suggested k := by
  have hsearch := search_of_counts hc hk htaken hfree (Nat.zero_le k)
  rw [hc.zero] at hsearch
  constructor
  · intro h
    exact Search.unique h hsearch
  · rintro ⟨rfl, rfl⟩
    exact hsearch

/-! ## The result -/

/-- If all numbers below `k` give taken names, there are at least `k` different taken names, since
`numbered suggested` is injective. -/
theorem le_card_of_forall_lt {k : Nat} (h : ∀ m < k, numbered suggested m ∈ taken) :
    k ≤ taken.toFinset.card := by
  rw [List.card_toFinset]
  exact length_taken_of_forall_lt fun m hm => List.mem_dedup.mpr (h m hm)

/-- `fresh` depends only on which names are taken, not on their order or number. -/
theorem fresh_congr {taken' : List String} (h : ∀ name, name ∈ taken' ↔ name ∈ taken) :
    fresh taken' suggested = fresh taken suggested := by
  obtain ⟨k, hk, hfree, htaken⟩ := fresh_spec taken suggested
  obtain ⟨k', hk', hfree', htaken'⟩ := fresh_spec taken' suggested
  rw [hk, hk']
  rcases Nat.lt_trichotomy k k' with hlt | rfl | hlt
  · exact absurd ((h _).mp (htaken' k hlt)) hfree
  · rfl
  · exact absurd ((h _).mpr (htaken k' hlt)) hfree'

/-- **The search for a free name.** For all names `taken` and `suggested` there is a number `n`, at
most the number of different taken names, such that

* the search over the natural numbers ends at `n` and nowhere else, with the name
  `fresh taken suggested`;
* this name is `numbered suggested n`, it is not taken, and `n` is least (`FirstFree`);
* it depends only on which names are taken;
* if fewer than `2 ^ 31` different names are taken, the search over the 32-bit counter ends at the
  same number with the same name. -/
theorem fresh_found_by_search (taken : List String) (suggested : String) :
    ∃ n, n ≤ taken.toFinset.card ∧
      (∀ m name, Counter.natural.Finds taken suggested m name ↔
        m = n ∧ name = fresh taken suggested) ∧
      fresh taken suggested = numbered suggested n ∧
      fresh taken suggested ∉ taken ∧
      FirstFree taken suggested (fresh taken suggested) ∧
      (∀ taken' : List String, (∀ name, name ∈ taken' ↔ name ∈ taken) →
        fresh taken' suggested = fresh taken suggested) ∧
      (taken.toFinset.card < 2 ^ 31 →
        ∀ (m : Int32) (name : String), Counter.signed32.Finds taken suggested m name ↔
          m.toInt = n ∧ name = fresh taken suggested) := by
  obtain ⟨n, hn, hfree, htaken⟩ := fresh_spec taken suggested
  have hbound : n ≤ taken.toFinset.card := le_card_of_forall_lt htaken
  refine ⟨n, hbound, ?_, hn, fresh_not_mem taken suggested, firstFree_fresh taken suggested,
    fun taken' h => fresh_congr h, ?_⟩
  · intro m name
    rw [hn]
    exact finds_iff (Counter.natural_counts (n + 1)) (Nat.lt_succ_self n) htaken hfree m name
  · intro hcard m name
    -- the counter reaches `n` before it wraps around
    have hn32 : n < 2 ^ 31 := by omega
    have hvalue : (Int32.ofNat n).toInt = n := Int32.toInt_ofNat_of_lt hn32
    rw [hn, ← hvalue, Int32.toInt_inj]
    exact finds_iff Counter.signed32_counts hn32 htaken hfree m name

/-- Taken names with a gap between their numbers. -/
def takenPets : List String := ["addPet3", "addPet", "addPet1"]

/-- The search finds the gap in `takenPets`, with both counters. -/
theorem fresh_found_by_search_takenPets :
    takenPets.toFinset.card < 2 ^ 31 ∧ fresh takenPets "addPet" = "addPet2" ∧
      Counter.natural.Finds takenPets "addPet" (2 : Nat) "addPet2" ∧
      Counter.signed32.Finds takenPets "addPet" (2 : Int32) "addPet2" := by
  have hcard : takenPets.toFinset.card < 2 ^ 31 := by decide
  have hname : fresh takenPets "addPet" = "addPet2" := by decide +kernel
  obtain ⟨n, -, hnatural, hn, -, -, -, hsigned⟩ := fresh_found_by_search takenPets "addPet"
  have hnumber : n = 2 := by
    apply numbered_injective "addPet"
    rw [← hn, hname]
    decide +kernel
  subst hnumber
  refine ⟨hcard, hname, ?_, ?_⟩
  · exact (hnatural _ _).mpr ⟨rfl, hname.symm⟩
  · exact (hsigned hcard _ _).mpr ⟨rfl, hname.symm⟩

end SwaggerRequests
