import SwaggerRequests.Model.Entries
import Mathlib.Data.List.Nodup
import Mathlib.Data.List.Induction

/-!
# Lookup in ordered maps

Lemmas on the ordered maps `Entries α`. A map is determined by its `keys` and by the value of each
key (`eq_of_keys_of_lookup`), so each operation is described by two equations, one for `keys` and
one for `List.lookup`.

For `collect`, which puts pairs one after the other, these are `keys_collect`: the keys of the
pairs, each at its **first** place, and `lookup_collect`: the value of a key is the one of the
**last** pair with this key. Both are by induction on the pairs from their end
(`List.reverseRecOn`), since `collect` is a left fold.

With them `collect` commutes with leaving keys out (`filter_collect`) and with functions on the
values (`mapValues_collect`), and of two lists of pairs it makes the second map laid over the first
(`collect_append`, where `override` is the operation on maps).
-/

namespace SwaggerRequests.Entries

variable {α : Type} {key : String} {value : α} {es : Entries α} {pairs : List (String × α)}

/-- The keys of a map, in their order. -/
def keys (es : Entries α) : List String := es.map Prod.fst

@[simp] theorem keys_nil : keys ([] : Entries α) = [] := rfl

@[simp] theorem keys_cons (e : String × α) (es : Entries α) : keys (e :: es) = e.1 :: keys es := rfl

/-! ## Putting one entry

`put` has two cases: a new key goes to the end, and one that is there keeps its position. -/

/-- A new key goes to the end of the map. -/
theorem put_of_not_mem (h : key ∉ keys es) : put key value es = es ++ [(key, value)] := by
  induction es with
  | nil => rfl
  | cons e es ih =>
    obtain ⟨k, v⟩ := e
    rw [keys_cons, List.mem_cons, not_or] at h
    rw [put, if_neg (Ne.symm h.1), ih h.2]
    rfl

/-- `put` does not change the `keys` if `key` is among them. -/
theorem keys_put_of_mem (h : key ∈ keys es) : keys (put key value es) = keys es := by
  induction es with
  | nil => cases h
  | cons e es ih =>
    obtain ⟨k, v⟩ := e
    by_cases hk : k = key
    · rw [put, if_pos hk, keys_cons, keys_cons, hk]
    · have h' : key ∈ keys es := by
        rcases List.mem_cons.mp h with h | h
        · exact absurd h.symm hk
        · exact h
      rw [put, if_neg hk, keys_cons, keys_cons, ih h']

/-- `put` adds a new `key` at the end of the `keys`. -/
theorem keys_put_of_not_mem (h : key ∉ keys es) :
    keys (put key value es) = keys es ++ [key] := by
  rw [put_of_not_mem h]
  exact List.map_append

/-- `List.lookup` in a map with one more entry at its front, with equality instead of `==`. -/
theorem lookup_cons (e : String × α) (k : String) :
    List.lookup k (e :: es) = if k = e.1 then some e.2 else es.lookup k := by
  rw [List.lookup_cons]
  by_cases h : k = e.1
  · rw [if_pos h, h, beq_self_eq_true]
  · rw [if_neg h, beq_false_of_ne h]

/-- After `put key value`, the value of `key` is `value`, and every other key has the value it
had. -/
theorem lookup_put (k : String) :
    (put key value es).lookup k = if k = key then some value else es.lookup k := by
  induction es with
  | nil => exact lookup_cons (key, value) k
  | cons e es ih =>
    obtain ⟨k', v⟩ := e
    by_cases hk' : k' = key
    · rw [put, if_pos hk', lookup_cons, lookup_cons, hk']
      by_cases hk : k = key
      · rw [if_pos hk, if_pos hk]
      · rw [if_neg hk, if_neg hk, if_neg hk]
    · rw [put, if_neg hk', lookup_cons, lookup_cons, ih]
      by_cases hk : k = key
      · rw [if_pos hk, if_pos hk, if_neg (fun h => hk' (h.symm.trans hk))]
      · rw [if_neg hk, if_neg hk]

/-! ## Keys and values

Two maps are equal if they agree on `keys`, without repetition, and on `List.lookup`. -/

/-- A key has a value exactly if it is one of the `keys`. -/
theorem isSome_lookup_iff : (es.lookup key).isSome ↔ key ∈ keys es := by
  induction es with
  | nil => simp
  | cons e es ih =>
    rw [lookup_cons, keys_cons, List.mem_cons, ← ih]
    by_cases hk : key = e.1
    · rw [if_pos hk]
      exact ⟨fun _ => Or.inl hk, fun _ => rfl⟩
    · rw [if_neg hk]
      exact ⟨Or.inr, fun h => h.resolve_left hk⟩

/-- If no key is repeated, `List.lookup` finds every entry by its key. -/
theorem lookup_of_mem (h : (keys es).Nodup) {e : String × α} (he : e ∈ es) :
    es.lookup e.1 = some e.2 := by
  induction es with
  | nil => cases he
  | cons e' es ih =>
    obtain ⟨he', hes⟩ := List.nodup_cons.mp h
    rw [lookup_cons]
    rcases List.mem_cons.mp he with rfl | he
    · rw [if_pos rfl]
    · have hne : e.1 ≠ e'.1 := fun heq => he' (heq ▸ List.mem_map_of_mem he)
      rw [if_neg hne, ih hes he]

/-- **Extensionality.** Two maps are equal if they have the same `keys` in the same order, without
repetition, and the same value for each key. By `lookup_of_mem` a map without repetition is the list
of its keys with their values. -/
theorem eq_of_keys_of_lookup {fs : Entries α} (hnodup : (keys es).Nodup) (hkeys : keys es = keys fs)
    (hlookup : ∀ k, es.lookup k = fs.lookup k) : es = fs := by
  have hpairs : ∀ gs : Entries α, (keys gs).Nodup →
      gs.map (fun e => (e.1, some e.2)) = (keys gs).map fun k => (k, gs.lookup k) := by
    intro gs hgs
    rw [keys, List.map_map]
    refine List.map_congr_left fun e he => ?_
    rw [Function.comp_apply, lookup_of_mem hgs he]
  have hinjective : Function.Injective fun e : String × α => (e.1, some e.2) := by
    rintro ⟨k, v⟩ ⟨k', v'⟩ h
    simpa using h
  apply hinjective.list_map
  calc es.map (fun e => (e.1, some e.2))
      = (keys es).map (fun k => (k, es.lookup k)) := hpairs es hnodup
    _ = (keys fs).map (fun k => (k, fs.lookup k)) := by
        rw [hkeys]
        exact List.map_congr_left fun k _ => by rw [hlookup k]
    _ = fs.map (fun e => (e.1, some e.2)) := (hpairs fs (hkeys ▸ hnodup)).symm

/-! ## Putting entries one after the other

`collect` in terms of the list of pairs. `List.eraseDups` keeps each key at its first place. -/

/-- One more pair at the end of the list is put last. -/
theorem collect_concat : collect (pairs ++ [(key, value)]) = put key value (collect pairs) := by
  rw [collect, List.foldl_append]
  rfl

/-- `List.eraseDups` after one more member: it is added at the end if it is new. -/
theorem eraseDups_concat (ks : List String) :
    (ks ++ [key]).eraseDups = if key ∈ ks then ks.eraseDups else ks.eraseDups ++ [key] := by
  rw [List.eraseDups_append]
  by_cases h : key ∈ ks
  · simp [List.removeAll, h]
  · simp [List.removeAll, h, List.eraseDups_cons]

/-- `List.eraseDups` of `ks ++ ls` is that of `ks` and then the members of that of `ls` that are not
in `ks`. -/
theorem eraseDups_append_filter (ks ls : List String) :
    (ks ++ ls).eraseDups = ks.eraseDups ++ ls.eraseDups.filter (· ∉ ks) := by
  induction ls using List.reverseRecOn with
  | nil => simp
  | append_singleton ls l ih =>
    rw [← List.append_assoc, eraseDups_concat, eraseDups_concat, ih]
    by_cases hks : l ∈ ks
    · by_cases hls : l ∈ ls <;> simp [hks, hls]
    · by_cases hls : l ∈ ls <;> simp [hks, hls]

/-- The keys of `collect pairs` are those of the pairs, each at its first place. The induction is
from the end of the list, as `collect_concat` and `eraseDups_concat` are stated. -/
theorem keys_collect : keys (collect pairs) = (pairs.map Prod.fst).eraseDups := by
  induction pairs using List.reverseRecOn with
  | nil => rfl
  | append_singleton pairs pair ih =>
    obtain ⟨k, v⟩ := pair
    have hmem : k ∈ keys (collect pairs) ↔ k ∈ pairs.map Prod.fst := by
      rw [ih, List.mem_eraseDups]
    rw [collect_concat, List.map_append, List.map_singleton, eraseDups_concat, ← ih]
    by_cases h : k ∈ pairs.map Prod.fst
    · rw [if_pos h, keys_put_of_mem (hmem.mpr h)]
    · rw [if_neg h, keys_put_of_not_mem (fun hk => h (hmem.mp hk))]

/-- The value of `k` in `collect pairs` is that of the last pair with the key `k`. -/
theorem lookup_collect (k : String) :
    (collect pairs).lookup k = (pairs.reverse.find? (·.1 == k)).map Prod.snd := by
  induction pairs using List.reverseRecOn with
  | nil => rfl
  | append_singleton pairs pair ih =>
    obtain ⟨k', v⟩ := pair
    rw [collect_concat, lookup_put, ih, List.reverse_append, List.reverse_singleton,
      List.singleton_append, List.find?_cons]
    by_cases hk : k = k'
    · rw [if_pos hk, hk, beq_self_eq_true]
      rfl
    · rw [if_neg hk, beq_false_of_ne (Ne.symm hk)]

theorem nodup_eraseDups (ks : List String) : ks.eraseDups.Nodup := by
  induction ks using List.reverseRecOn with
  | nil => exact List.nodup_nil
  | append_singleton ks k ih =>
    rw [eraseDups_concat]
    by_cases h : k ∈ ks
    · rwa [if_pos h]
    · rw [if_neg h]
      refine List.nodup_append.mpr ⟨ih, List.nodup_singleton k, ?_⟩
      rintro a ha b hb rfl
      rw [List.mem_singleton] at hb
      exact h (hb ▸ List.mem_eraseDups.mp ha)

/-- No key of `collect pairs` is repeated. -/
theorem nodup_keys_collect : (keys (collect pairs)).Nodup := by
  rw [keys_collect]
  exact nodup_eraseDups _

/-- Pairs with distinct keys are the map that `collect` makes of them. -/
theorem collect_of_nodup (h : (keys pairs).Nodup) : collect pairs = pairs := by
  induction pairs using List.reverseRecOn with
  | nil => rfl
  | append_singleton pairs pair ih =>
    obtain ⟨k, v⟩ := pair
    have hkeys : keys (pairs ++ [(k, v)]) = keys pairs ++ [k] := List.map_append
    rw [hkeys] at h
    obtain ⟨hpairs, -, hk⟩ := List.nodup_append.mp h
    rw [collect_concat, ih hpairs, put_of_not_mem]
    exact fun hmem => hk k hmem k (List.mem_singleton_self k) rfl

/-! ## Leaving keys out

A property `P` of keys can be tested before the pairs are put or on the resulting map. -/

/-- An entry whose key does not satisfy `P` makes no difference to the rest of the map. -/
theorem filter_put (P : String → Bool) :
    (put key value es).filter (fun e => P e.1) =
      if P key then put key value (es.filter fun e => P e.1) else es.filter fun e => P e.1 := by
  induction es with
  | nil => by_cases h : P key = true <;> simp [put, h]
  | cons e es ih =>
    obtain ⟨k, v⟩ := e
    by_cases hk : k = key
    · subst hk
      by_cases h : P k = true <;> simp [put, h]
    · rw [put, if_neg hk, List.filter_cons, ih]
      by_cases h : P key = true <;> by_cases h' : P k = true <;> simp [put, hk, h, h']

/-- Leaving out the keys without `P` commutes with `collect`. -/
theorem filter_collect (P : String → Bool) :
    (collect pairs).filter (fun e => P e.1) = collect (pairs.filter fun e => P e.1) := by
  induction pairs using List.reverseRecOn with
  | nil => rfl
  | append_singleton pairs pair ih =>
    obtain ⟨k, v⟩ := pair
    rw [collect_concat, filter_put, ih, List.filter_append]
    by_cases h : P k = true
    · simp [h, collect_concat]
    · simp [h]

/-! ## One map over another

`override es upper` is the map `es` with the entries of `upper` put into it. -/

/-- The map in which `upper` lies over `es`: the keys of `es` keep their position and take the
values that `upper` has for them, and the other keys of `upper` follow. -/
def override (es upper : Entries α) : Entries α :=
  es.map (fun e => (e.1, (upper.lookup e.1).getD e.2)) ++ upper.filter fun e => e.1 ∉ keys es

/-- The keys of `override es upper` are those of `es` and then those that only `upper` has. -/
theorem keys_override (es upper : Entries α) :
    keys (override es upper) = keys es ++ (keys upper).filter (· ∉ keys es) := by
  simp [override, keys, List.filter_map, Function.comp_def]

/-- Leaving out keys leaves the value of every other key. -/
theorem lookup_filter_key (P : String → Bool) (es : Entries α) (k : String) :
    (es.filter fun e => P e.1).lookup k = if P k then es.lookup k else none := by
  induction es with
  | nil => simp
  | cons e es ih =>
    by_cases hk : k = e.1
    · subst hk
      by_cases h : P e.1 = true
      · simp [h, lookup_cons]
      · simp [h, ih]
    · by_cases h : P e.1 = true
      · simp [h, lookup_cons, hk, ih]
      · simp [h, lookup_cons, hk, ih]

/-- A function on the values, which may depend on the key, acts on the value of each key. -/
theorem lookup_map_key (f : String → α → α) (es : Entries α) (k : String) :
    (es.map fun e => (e.1, f e.1 e.2)).lookup k = (es.lookup k).map (f k) := by
  induction es with
  | nil => rfl
  | cons e es ih =>
    rw [List.map_cons, lookup_cons, lookup_cons, ih]
    by_cases hk : k = e.1
    · simp [hk]
    · simp [hk]

/-- The value of `k` in `override es upper` is the one in `upper`, or the one in `es` if `upper` has
none. -/
theorem lookup_override (es upper : Entries α) (k : String) :
    (override es upper).lookup k = (upper.lookup k).or (es.lookup k) := by
  have hbehind := lookup_filter_key (fun k => decide (k ∉ keys es)) upper k
  have hfront := lookup_map_key (fun k v => (upper.lookup k).getD v) es k
  rw [override, List.lookup_append, hbehind, hfront]
  by_cases hk : k ∈ keys es
  · obtain ⟨v, hv⟩ := Option.isSome_iff_exists.mp (isSome_lookup_iff.mpr hk)
    cases hupper : upper.lookup k with
    | none => simp [hv]
    | some w => simp [hv]
  · have hnone : es.lookup k = none := by
      rw [← Option.not_isSome_iff_eq_none, isSome_lookup_iff]
      exact hk
    simp [hk, hnone]

/-- `collect` of `pairs ++ more` is `collect more` laid over `collect pairs`. Both sides are
compared by `eq_of_keys_of_lookup`. -/
theorem collect_append (pairs more : List (String × α)) :
    collect (pairs ++ more) = override (collect pairs) (collect more) := by
  apply eq_of_keys_of_lookup nodup_keys_collect
  · -- a key has been collected as soon as it is among the keys of the pairs
    have hkeys : ∀ k, k ∈ keys (collect pairs) ↔ k ∈ pairs.map Prod.fst := fun k => by
      rw [keys_collect, List.mem_eraseDups]
    rw [keys_override, keys_collect, List.map_append, eraseDups_append_filter]
    simp only [hkeys, ← keys_collect]
  · intro k
    rw [lookup_override, lookup_collect, lookup_collect, lookup_collect, List.reverse_append,
      List.find?_append]
    cases more.reverse.find? (·.1 == k) with
    | none => simp
    | some e => simp

/-! ## Changing the values

`mapValues f` acts on the values and leaves the keys and their order as they are. -/

variable {β : Type}

/-- The map with `f` applied to each value. -/
def mapValues (f : α → β) (es : Entries α) : Entries β := es.map fun e => (e.1, f e.2)

theorem mapValues_cons (f : α → β) (k : String) (v : α) (es : Entries α) :
    mapValues f ((k, v) :: es) = (k, f v) :: mapValues f es := rfl

/-- `mapValues` commutes with `put`. -/
theorem mapValues_put (f : α → β) :
    mapValues f (put key value es) = put key (f value) (mapValues f es) := by
  induction es with
  | nil => rfl
  | cons e es ih =>
    obtain ⟨k, v⟩ := e
    rw [mapValues_cons]
    by_cases hk : k = key
    · rw [put, if_pos hk, put, if_pos hk, mapValues_cons]
    · rw [put, if_neg hk, put, if_neg hk, mapValues_cons, ih]

/-- `mapValues` commutes with `collect`, since the position of an entry depends on the keys only. -/
theorem mapValues_collect (f : α → β) :
    mapValues f (collect pairs) = collect (pairs.map fun p => (p.1, f p.2)) := by
  induction pairs using List.reverseRecOn with
  | nil => rfl
  | append_singleton pairs pair ih =>
    obtain ⟨k, v⟩ := pair
    rw [collect_concat, mapValues_put, ih, List.map_append, List.map_singleton, collect_concat]

end SwaggerRequests.Entries
