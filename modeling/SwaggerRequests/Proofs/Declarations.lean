import SwaggerRequests.Request.Descriptors
import SwaggerRequests.Proofs.Entries
import SwaggerRequests.Proofs.Outcome
import Mathlib.Data.List.Infix

/-!
# One declaration for each name

`distinctDescriptors` keeps one descriptor for each name that a parameter list declares: the name
has the position of its **first** declaration, and the descriptor is the one of the **last**. Names
of elements, `NamesElement`, are left out.

`keptByName name xs` is the general form, for a list of any type and a function `name`. It is
`Entries.collect` of the pairs of a name and a member (`keptByName_eq_collect`), so the lemmas on
maps give its keys and its values:

* `keys_keptByName`: the names of the competing members, each at its first place;
* `last_of_mem_keptByName`, `mem_keptByName_of_last`: a member is kept exactly if no later one has
  its name.

Two equal descriptors at different positions of a list are one value, so the theorem on descriptors
is about the list with positions, `List.zipIdx`. Since `keptByName` commutes with functions on the
members (`keptByName_map`), the positions do not change what is kept.
-/

namespace SwaggerRequests

variable {α β : Type}

/-! ## Names of elements

The mark `[0]` occurs in the name, at any place. `occursIn` is the computable form of
`List.IsInfix`. -/

/-- The name contains the mark `[0]`, so it is one of an element of a list. -/
def NamesElement (name : String) : Prop := "[0]".toList <:+: name.toList

instance : DecidablePred NamesElement := fun name =>
  inferInstanceAs (Decidable ("[0]".toList <:+: name.toList))

/-- `occursIn` decides whether `pattern` is a contiguous part of `cs`. The induction is on `cs`. -/
theorem occursIn_iff (pattern cs : List Char) : occursIn pattern cs = true ↔ pattern <:+: cs := by
  induction cs with
  | nil => rw [occursIn, List.isEmpty_iff, List.infix_nil]
  | cons c cs ih =>
    rw [occursIn, Bool.or_eq_true, ih, List.isPrefixOf_iff_prefix, List.infix_cons_iff]

/-- The test `isElementName` of the program decides `NamesElement`. -/
theorem isElementName_iff (name : String) : isElementName name = true ↔ NamesElement name :=
  occursIn_iff _ _

theorem isElementName_eq_false_iff (name : String) :
    isElementName name = false ↔ ¬ NamesElement name := by
  rw [← isElementName_iff, Bool.not_eq_true]

/-! ## Kept descriptors

In this section `name : α → String` is any function, and `xs` a list of `α`. The members that
compete are those whose name does not belong to an element. -/

/-- The members of `xs` that compete for the names. -/
def competing (name : α → String) (xs : List α) : List α :=
  xs.filter fun x => !isElementName (name x)

variable {name : α → String} {xs : List α}

/-- `competing` with the condition `NamesElement` in place of its test. -/
theorem filter_not_namesElement (name : α → String) (xs : List α) :
    (xs.filter fun x => ¬ NamesElement (name x)) = competing name xs := by
  refine List.filter_congr fun x _ => ?_
  rw [Bool.eq_iff_iff, Bool.not_eq_true', isElementName_eq_false_iff, decide_eq_true_eq]

/-- `keptByName` is `Entries.collect` of the competing members under their names. The fold tests
each member as it comes, which is the same as leaving out those of elements before. -/
theorem keptByName_eq_collect (name : α → String) (xs : List α) :
    keptByName name xs = Entries.collect ((competing name xs).map fun x => (name x, x)) := by
  rw [keptByName, Entries.collect, List.foldl_map, competing, List.foldl_filter]
  congr 1
  funext kept x
  rcases isElementName (name x) <;> rfl

/-- Members that do not compete make no difference to what is kept. -/
theorem keptByName_competing (name : α → String) (xs : List α) :
    keptByName name (competing name xs) = keptByName name xs := by
  rw [keptByName_eq_collect, keptByName_eq_collect, competing, competing, List.filter_filter]
  simp only [Bool.and_self]

/-- The kept names are those of the `competing` members, each at its first place. -/
theorem keys_keptByName (name : α → String) (xs : List α) :
    (keptByName name xs).keys = ((competing name xs).map name).eraseDups := by
  rw [keptByName_eq_collect, Entries.keys_collect, List.map_map]
  rfl

theorem nodup_keys_keptByName (name : α → String) (xs : List α) :
    (keptByName name xs).keys.Nodup := by
  rw [keptByName_eq_collect]
  exact Entries.nodup_keys_collect

/-- Leaving out names that do not satisfy `P` commutes with `keptByName`. -/
theorem keptByName_filter (P : String → Bool) (name : α → String) (xs : List α) :
    keptByName name (xs.filter fun x => P (name x)) =
      (keptByName name xs).filter fun e => P e.1 := by
  rw [keptByName_eq_collect, keptByName_eq_collect, Entries.filter_collect, List.filter_map,
    competing, competing, List.filter_filter, List.filter_filter]
  simp only [Function.comp_apply, Bool.and_comm]

/-- The member kept under `k` is the first one from the end of `xs` that competes and has the name
`k`. -/
theorem lookup_keptByName (k : String) :
    (keptByName name xs).lookup k =
      xs.reverse.find? fun x => !isElementName (name x) && name x == k := by
  rw [keptByName_eq_collect, Entries.lookup_collect, ← List.map_reverse, List.find?_map,
    Option.map_map, competing, ← List.filter_reverse, List.find?_filter]
  simp only [Function.comp_def, Option.map_id', Bool.decide_and, Bool.decide_eq_true]

/-- A kept entry has the name of its member, no element's name, and no later member of `xs` has this
name. -/
theorem last_of_mem_keptByName {e : String × α} (he : e ∈ keptByName name xs) :
    name e.2 = e.1 ∧ ¬ NamesElement e.1 ∧
      ∃ before after, xs = before ++ e.2 :: after ∧ ∀ x ∈ after, name x ≠ e.1 := by
  -- the last declaration is the first one of the reversed list
  have hlook := Entries.lookup_of_mem (nodup_keys_keptByName name xs) he
  rw [lookup_keptByName] at hlook
  obtain ⟨hx, as, bs, hsplit, hno⟩ := List.find?_eq_some_iff_append.mp hlook
  simp only [Bool.and_eq_true, Bool.not_eq_true', beq_iff_eq] at hx hno
  obtain ⟨hcounts, hname⟩ := hx
  refine ⟨hname, ?_, bs.reverse, as.reverse, ?_, ?_⟩
  · rw [← hname]
    exact (isElementName_eq_false_iff _).mp hcounts
  · have := congrArg List.reverse hsplit
    simpa using this
  · intro y hy hy'
    have := hno y (List.mem_reverse.mp hy)
    rw [hy', ← hname] at this
    simp [hcounts] at this

/-- A member whose name no later one has is kept, unless it is the name of an element. -/
theorem mem_keptByName_of_last {x : α} {before after : List α} (h : xs = before ++ x :: after)
    (hlast : ∀ y ∈ after, name y ≠ name x) (hname : ¬ NamesElement (name x)) :
    (name x, x) ∈ keptByName name xs := by
  have hafter : after.reverse.find? (fun y => !isElementName (name y) && name y == name x) =
      none := by
    rw [List.find?_eq_none]
    intro y hy
    simp [hlast y (List.mem_reverse.mp hy)]
  have hlook : (keptByName name xs).lookup (name x) = some x := by
    rw [lookup_keptByName, h, List.reverse_append, List.reverse_cons, List.append_assoc,
      List.find?_append, hafter, Option.none_or, List.singleton_append, List.find?_cons_of_pos]
    simpa using (isElementName_eq_false_iff _).mpr hname
  obtain ⟨as, bs, hsplit, -⟩ := List.lookup_eq_some_iff.mp hlook
  rw [hsplit]
  exact List.mem_append_right _ (List.mem_cons_self ..)

/-- `keptByName` commutes with a function `f` on the members: only the names decide what is kept. -/
theorem keptByName_map (f : α → β) (name : β → String) (xs : List α) :
    keptByName name (xs.map f) = (keptByName (fun x => name (f x)) xs).mapValues f := by
  rw [keptByName_eq_collect, keptByName_eq_collect, Entries.mapValues_collect]
  have hcompeting : competing name (xs.map f) = (competing (fun x => name (f x)) xs).map f := by
    rw [competing, List.filter_map]
    rfl
  rw [hcompeting, List.map_map, List.map_map]
  rfl

/-- The names of the kept members are the keys of `keptByName`. -/
theorem map_name_keptByName (name : α → String) (xs : List α) :
    ((keptByName name xs).map Prod.snd).map name = (keptByName name xs).keys := by
  rw [List.map_map]
  exact List.map_congr_left fun e he => (last_of_mem_keptByName he).1

/-- If no name occurs twice and none is an element's, all members are kept in their order. -/
theorem keptByName_of_nodup (hnodup : (xs.map name).Nodup)
    (hname : ∀ x ∈ xs, ¬ NamesElement (name x)) :
    keptByName name xs = xs.map fun x => (name x, x) := by
  have hall : competing name xs = xs := by
    refine List.filter_eq_self.mpr fun x hx => ?_
    rw [Bool.not_eq_true', isElementName_eq_false_iff]
    exact hname x hx
  rw [keptByName_eq_collect, hall, Entries.collect_of_nodup]
  rw [Entries.keys, List.map_map]
  exact hnodup

/-- `keptByName` is idempotent. -/
theorem keptByName_keptByName (name : α → String) (xs : List α) :
    keptByName name ((keptByName name xs).map Prod.snd) = keptByName name xs := by
  rw [keptByName_of_nodup]
  · rw [List.map_map]
    refine (List.map_congr_left fun e he => ?_).trans (List.map_id _)
    exact Prod.ext (last_of_mem_keptByName he).1 rfl
  · rw [map_name_keptByName]
    exact nodup_keys_keptByName name xs
  · intro x hx
    obtain ⟨e, he, rfl⟩ := List.mem_map.mp hx
    rw [(last_of_mem_keptByName he).1]
    exact (last_of_mem_keptByName he).2.1

/-! ## Descriptors by their positions

The case of descriptors. A pair `(d, i)` is a descriptor with its position, as in `List.zipIdx`. -/

/-- The descriptors that are kept of a list. -/
def keptDescriptors (ds : List Descriptor) : List Descriptor :=
  (keptByName Descriptor.name ds).map Prod.snd

@[simp] theorem distinctDescriptors_result {ε : Type} (ds : List Descriptor) :
    (distinctDescriptors ds : Logged ε (List Descriptor)).result = .ok (keptDescriptors ds) := rfl

/-- `distinctDescriptors` returns `keptDescriptors`, and its events are those of `nameEvents` on the
names of the list. -/
theorem distinctDescriptors_eq {ε : Type} (ds : List Descriptor) :
    (distinctDescriptors ds : Logged ε (List Descriptor)) =
      ⟨nameEvents [] (ds.map Descriptor.name), .ok (keptDescriptors ds)⟩ :=
  congrArg (Logged.mk · _) (List.append_nil _)

/-- The names that a list declares, each at its first place. Names of elements are left out. -/
def declaredNames (ds : List Descriptor) : List String :=
  ((ds.map Descriptor.name).filter fun name => ¬ NamesElement name).eraseDups

/-- `d.1` is at the position `d.2` of `ds`, and no descriptor at a later position has its name. -/
def IsLastDeclaration (ds : List Descriptor) (d : Descriptor × Nat) : Prop :=
  ds[d.2]? = some d.1 ∧ ∀ i d', d.2 < i → ds[i]? = some d' → d'.name ≠ d.1.name

/-- The name of a descriptor with its position. -/
def numberedName (d : Descriptor × Nat) : String := d.1.name

/-- The list with positions has the same `competing` members. -/
theorem filter_numbered (ds : List Descriptor) :
    (ds.zipIdx.filter fun d => ¬ NamesElement (numberedName d)) =
      competing numberedName ds.zipIdx :=
  filter_not_namesElement numberedName ds.zipIdx

theorem competing_numbered (ds : List Descriptor) :
    (competing numberedName ds.zipIdx).map numberedName =
      (ds.map Descriptor.name).filter fun name => ¬ NamesElement name := by
  have hfst : ds.map Descriptor.name = ds.zipIdx.map numberedName := by
    conv_lhs => rw [← List.zipIdx_map_fst 0 ds, List.map_map]
    rfl
  rw [hfst, List.filter_map, ← filter_numbered]
  rfl

/-- A pair of `ds.zipIdx` is a last declaration if no pair behind it has its name, since the
positions of the pairs behind it are the greater ones. -/
theorem isLastDeclaration_of_split {ds : List Descriptor} {d : Descriptor × Nat}
    {before after : List (Descriptor × Nat)} (hsplit : ds.zipIdx = before ++ d :: after)
    (hno : ∀ d' ∈ after, d'.1.name ≠ d.1.name) : IsLastDeclaration ds d := by
  -- the number of an entry of `zipIdx` is its position
  have hentry : ∀ i : Nat, ds.zipIdx[i]? = ds[i]?.map fun d' => (d', i) := by
    intro i
    rw [List.getElem?_zipIdx, Nat.zero_add]
  have hd := hentry before.length
  rw [hsplit, List.getElem?_append_right (le_refl _), Nat.sub_self, List.getElem?_cons_zero] at hd
  obtain ⟨d₀, hd₀, rfl⟩ := Option.map_eq_some_iff.mp hd.symm
  refine ⟨hd₀, ?_⟩
  intro i d' hi hd'
  have hi' := hentry i
  rw [hd', hsplit, List.getElem?_append_right (Nat.le_of_lt hi)] at hi'
  obtain ⟨k, hk⟩ : ∃ k, i - before.length = k + 1 := ⟨i - before.length - 1, by
    have : before.length < i := hi
    omega⟩
  rw [hk, List.getElem?_cons_succ] at hi'
  exact hno (d', i) (List.mem_of_getElem? hi')

/-- The descriptor at the end of a list is a last declaration. -/
theorem isLastDeclaration_of_length_le {ds : List Descriptor} {d : Descriptor} {i : Nat}
    (hd : ds[i]? = some d) (hend : ds.length ≤ i + 1) : IsLastDeclaration ds (d, i) := by
  refine ⟨hd, fun j d' hj hd' => ?_⟩
  rw [List.getElem?_eq_none (hend.trans hj)] at hd'
  cases hd'

/-- What is kept of the list with positions are last declarations. -/
theorem isLastDeclaration_of_mem {ds : List Descriptor} {e : String × Descriptor × Nat}
    (he : e ∈ keptByName numberedName ds.zipIdx) : IsLastDeclaration ds e.2 := by
  obtain ⟨hname, -, before, after, hsplit, hno⟩ := last_of_mem_keptByName he
  refine isLastDeclaration_of_split hsplit fun d' hd' => ?_
  change numberedName d' ≠ numberedName e.2
  rw [hname]
  exact hno d' hd'

/-- `IsLastDeclaration` at some position, stated by a division of the list: the descriptors behind
`d` have other names. -/
theorem exists_isLastDeclaration_iff {ds : List Descriptor} {d : Descriptor} :
    (∃ i, IsLastDeclaration ds (d, i)) ↔
      ∃ before after, ds = before ++ d :: after ∧ ∀ d' ∈ after, d'.name ≠ d.name := by
  refine ⟨?_, ?_⟩
  · rintro ⟨i, hd, hlast⟩
    obtain ⟨hi, hget⟩ := List.getElem?_eq_some_iff.mp hd
    refine ⟨ds.take i, ds.drop (i + 1), ?_, ?_⟩
    · conv_lhs => rw [← List.take_append_drop i ds, List.drop_eq_getElem_cons hi, hget]
    · intro d' hd'
      obtain ⟨k, hk⟩ := List.mem_iff_getElem?.mp hd'
      rw [List.getElem?_drop] at hk
      exact hlast (i + 1 + k) d' (by omega) hk
  · rintro ⟨before, after, rfl, hlast⟩
    refine ⟨0 + before.length, isLastDeclaration_of_split (List.zipIdx_append ..) ?_⟩
    exact fun d' hd' => hlast _ (List.fst_mem_of_mem_zipIdx hd')

/-- A descriptor is kept exactly if it is a last declaration at some position and its name is not an
element's. -/
theorem mem_keptDescriptors_iff {ds : List Descriptor} {d : Descriptor} :
    d ∈ keptDescriptors ds ↔ (∃ i, IsLastDeclaration ds (d, i)) ∧ ¬ NamesElement d.name := by
  rw [exists_isLastDeclaration_iff, keptDescriptors, List.mem_map]
  refine ⟨?_, ?_⟩
  · rintro ⟨e, he, rfl⟩
    obtain ⟨hname, helement, before, after, hsplit, hlast⟩ := last_of_mem_keptByName he
    rw [hname]
    exact ⟨⟨before, after, hsplit, hlast⟩, helement⟩
  · rintro ⟨⟨before, after, hsplit, hlast⟩, hname⟩
    exact ⟨_, mem_keptByName_of_last hsplit hlast hname, rfl⟩

/-- Leaving out the descriptors of one name leaves out what is kept under this name. -/
theorem keptDescriptors_filter (ds : List Descriptor) (name : String) :
    keptDescriptors (ds.filter fun d => d.name ≠ name) =
      ((keptByName Descriptor.name ds).filter fun e => e.1 ≠ name).map Prod.snd := by
  rw [keptDescriptors, keptByName_filter fun k => decide (k ≠ name)]

/-- Without the descriptors of its name a kept descriptor `d` is missing, and the others are kept as
before. -/
theorem keptDescriptors_split {ds : List Descriptor} {d : Descriptor} {i : Nat}
    (hlast : IsLastDeclaration ds (d, i)) (hname : ¬ NamesElement d.name) :
    ∃ before after, keptDescriptors ds = before ++ d :: after ∧
      keptDescriptors (ds.filter fun d' => d'.name ≠ d.name) = before ++ after := by
  obtain ⟨as, bs, hsplit, hlater⟩ := exists_isLastDeclaration_iff.mp ⟨i, hlast⟩
  obtain ⟨before, after, hkept⟩ :=
    List.append_of_mem (mem_keptByName_of_last hsplit hlater hname)
  -- no other entry has the key, since keys are distinct
  have hnodup := nodup_keys_keptByName Descriptor.name ds
  rw [hkept, Entries.keys, List.map_append, List.map_cons, List.nodup_middle,
    List.nodup_cons] at hnodup
  have hother : ∀ e ∈ before ++ after, decide (e.1 ≠ d.name) = true := by
    intro e he
    have hmem : e.1 ∈ (before ++ after).map Prod.fst := List.mem_map_of_mem he
    rw [List.map_append] at hmem
    exact decide_eq_true fun heq => hnodup.1 (heq ▸ hmem)
  obtain ⟨hbefore, hafter⟩ := List.forall_mem_append.mp hother
  refine ⟨before.map Prod.snd, after.map Prod.snd, ?_, ?_⟩
  · rw [keptDescriptors, hkept, List.map_append, List.map_cons]
  · rw [keptDescriptors_filter, hkept, List.filter_append, List.filter_cons_of_neg (by simp),
      List.filter_eq_self.mpr hbefore, List.filter_eq_self.mpr hafter, List.map_append]

/-- What is kept of the list with positions, without the positions, is what is kept of the list. -/
theorem keptDescriptors_eq_numbered (ds : List Descriptor) :
    keptDescriptors ds = ((keptByName numberedName ds.zipIdx).map Prod.snd).map Prod.fst := by
  rw [keptDescriptors]
  conv_lhs => rw [← List.zipIdx_map_fst 0 ds, keptByName_map]
  rw [Entries.mapValues, List.map_map, List.map_map]
  rfl

/-- **One declaration for each name.** There is a list `kept` of descriptors with positions such
that `distinctBy` returns it for the list with positions and `distinctDescriptors` returns its
descriptors. It has these properties:

* its names are the `declaredNames` in this order, so each name has its first position;
* each of its members satisfies `IsLastDeclaration`;
* no two have one name, none has an element's name, and no declared name is missing;
* it is the same without the descriptors of elements, and it is kept unchanged if it is the
  input. -/
theorem distinctDescriptors_eq_last_declarations (ε : Type) (ds : List Descriptor) :
    ∃ kept : List (Descriptor × Nat),
      (distinctBy numberedName ds.zipIdx : Logged ε _).result = .ok kept ∧
      (distinctDescriptors ds : Logged ε _).result = .ok (kept.map Prod.fst) ∧
      kept.map numberedName = declaredNames ds ∧
      (∀ d ∈ kept, IsLastDeclaration ds d) ∧
      (kept.map numberedName).Nodup ∧
      (∀ d ∈ kept, ¬ NamesElement (numberedName d)) ∧
      (∀ d ∈ ds, ¬ NamesElement d.name → d.name ∈ kept.map numberedName) ∧
      (distinctBy numberedName (ds.zipIdx.filter fun d => ¬ NamesElement (numberedName d)) :
        Logged ε _).result = .ok kept ∧
      (distinctDescriptors (kept.map Prod.fst) : Logged ε _).result = .ok (kept.map Prod.fst) := by
  have hnames := map_name_keptByName numberedName ds.zipIdx
  have hdeclared : (keptByName numberedName ds.zipIdx).keys = declaredNames ds := by
    rw [keys_keptByName, competing_numbered, declaredNames]
  refine ⟨(keptByName numberedName ds.zipIdx).map Prod.snd, rfl, ?_, hnames.trans hdeclared,
    ?_, ?_, ?_, ?_, ?_, ?_⟩
  · rw [distinctDescriptors_result, keptDescriptors_eq_numbered]
  · intro d hd
    obtain ⟨e, he, rfl⟩ := List.mem_map.mp hd
    exact isLastDeclaration_of_mem he
  · rw [hnames]
    exact nodup_keys_keptByName _ _
  · intro d hd
    obtain ⟨e, he, rfl⟩ := List.mem_map.mp hd
    obtain ⟨hname, helement, -⟩ := last_of_mem_keptByName he
    exact hname ▸ helement
  · intro d hd hname
    rw [hnames, hdeclared, declaredNames, List.mem_eraseDups, List.mem_filter]
    exact ⟨List.mem_map_of_mem hd, decide_eq_true hname⟩
  · change Except.ok ((keptByName numberedName _).map Prod.snd) = _
    rw [filter_numbered, keptByName_competing]
  · rw [← keptDescriptors_eq_numbered, distinctDescriptors_result]
    change Except.ok ((keptByName Descriptor.name _).map Prod.snd) = _
    rw [keptDescriptors, keptByName_keptByName]

end SwaggerRequests
