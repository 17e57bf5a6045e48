import SwaggerRequests.Proofs.ElementNames

/-!
# Dead declarations

A declaration is dead if it has an element's name, or if a later declaration has its name
(`IsDead`). Of a dead declaration only the name is used. It is not resolved and not typed, so it may
be a dangling reference or have no type, and its location does not decide how the body is put
together, since `severalBodies` counts the parameters after the choice.

The name of an overridden declaration is used: it determines the position of the one that overrides
it. So a dead declaration may be replaced by one with the same name, with the same bundle and events
(`bundle_congr`), while only one with an element's name may be inserted or left out
(`bundle_result_insert`), with the same result.

The proof uses that a map is determined by its keys and values (`Entries.eq_of_keys_of_lookup`): the
keys of `keptByName` depend on the names, and the value of a key is searched for from the end, where
a dead declaration is never reached (`lookup_keptByName_dead`).
-/

namespace SwaggerRequests

variable {α : Type} {name : α → String} {before after : List α} {x y : α}

/-! ## Kept descriptors

`keptByName` for a list with a dead member `x` between `before` and `after`. -/

/-- The names of the competing members are those among the names that are not an element's. -/
theorem map_competing (name : α → String) (xs : List α) :
    (competing name xs).map name = (xs.map name).filter fun k => !isElementName k := by
  rw [competing, List.filter_map]
  rfl

/-- `x` is dead in front of `after`: it has an element's name, or a member of `after` has its
name. -/
def IsDead (name : α → String) (after : List α) (x : α) : Prop :=
  NamesElement (name x) ∨ ∃ z ∈ after, name z = name x

/-- The search for a name from the end of the list passes a dead member. -/
theorem lookup_keptByName_dead (h : IsDead name after x) (k : String) :
    (keptByName name (before ++ x :: after)).lookup k =
      (keptByName name (before ++ after)).lookup k := by
  rw [lookup_keptByName, lookup_keptByName, List.reverse_append, List.reverse_cons,
    List.append_assoc, List.singleton_append, List.reverse_append, List.find?_append,
    List.find?_append]
  by_cases hx : (!isElementName (name x) && name x == k) = true
  · -- something behind bears the same name, and so the search has ended there
    simp only [Bool.and_eq_true, Bool.not_eq_true', isElementName_eq_false_iff, beq_iff_eq] at hx
    obtain ⟨hcounts, rfl⟩ := hx
    obtain ⟨z, hz, hname⟩ := h.resolve_left hcounts
    have hfound : (after.reverse.find? fun w => !isElementName (name w) && name w == name x).isSome
        = true := by
      rw [List.find?_isSome]
      refine ⟨z, List.mem_reverse.mpr hz, ?_⟩
      simpa [hname] using (isElementName_eq_false_iff _).mpr hcounts
    obtain ⟨w, hw⟩ := Option.isSome_iff_exists.mp hfound
    rw [hw, Option.some_or, Option.some_or]
  · rw [List.find?_cons, (Bool.not_eq_true _).mp hx]

/-- A dead member may be replaced by any `y` with its name. -/
theorem keptByName_replace (hname : name y = name x) (h : IsDead name after x) :
    keptByName name (before ++ y :: after) = keptByName name (before ++ x :: after) := by
  have hdead : IsDead name after y := by
    unfold IsDead
    rwa [hname]
  apply Entries.eq_of_keys_of_lookup (nodup_keys_keptByName _ _)
  · rw [keys_keptByName, keys_keptByName, map_competing, map_competing]
    simp only [List.map_append, List.map_cons, hname]
  · intro k
    rw [lookup_keptByName_dead hdead, lookup_keptByName_dead h]

/-! ## Bundles

The same for `bundle`, by `bundle_congr`. -/

/-- `bundle`, with its events, depends on the names of the descriptors and on what is kept of them
only. -/
theorem bundle_congr {ds ds' : List Descriptor}
    (hnames : ds'.map Descriptor.name = ds.map Descriptor.name)
    (hkept : keptByName Descriptor.name ds' = keptByName Descriptor.name ds) (useHeaders : Bool)
    (document : Document) : bundle ds' useHeaders document = bundle ds useHeaders document := by
  have hdistinct : (distinctDescriptors ds' : Logged RequestError _) = distinctDescriptors ds := by
    rw [distinctDescriptors, distinctBy, hnames, hkept]
    rfl
  rw [bundle, hdistinct]
  rfl

/-- A declaration with an element's name may be inserted anywhere without a change of the result. -/
theorem bundle_result_insert {d : Descriptor} (h : NamesElement d.name)
    (before after : List Descriptor) (useHeaders : Bool) (document : Document) :
    (bundle (before ++ d :: after) useHeaders document).result =
      (bundle (before ++ after) useHeaders document).result := by
  rw [← bundle_result_competing (before ++ d :: after), ← bundle_result_competing (before ++ after),
    List.filter_append, List.filter_cons_of_neg (by simpa using h), ← List.filter_append]

/-- **Dead declarations.** For a declaration `d` between `before` and `after`:

* if it is dead, it may be replaced by any `d'` with its name: the result of `bundle` is the same,
  bundle or error, and so are the events;
* if it has an element's name, it may be left out or inserted with the same result. -/
theorem bundle_dead_declarations (before after : List Descriptor) (d : Descriptor)
    (useHeaders : Bool) (document : Document) :
    (NamesElement d.name ∨ (∃ e ∈ after, e.name = d.name) →
      ∀ d' : Descriptor, d'.name = d.name →
        bundle (before ++ d' :: after) useHeaders document =
          bundle (before ++ d :: after) useHeaders document) ∧
    (NamesElement d.name →
      (bundle (before ++ d :: after) useHeaders document).result =
        (bundle (before ++ after) useHeaders document).result) := by
  constructor
  · intro hdead d' hname
    apply bundle_congr
    · simp only [List.map_append, List.map_cons, hname]
    · exact keptByName_replace hname hdead
  · intro helement
    exact bundle_result_insert helement before after useHeaders document

/-- A dangling reference with the given name. -/
def danglingAs (name : String) : Descriptor := .reference "#/parameters/nowhere" (some name)

/-- A parameter of the body without a type, with the given name. -/
def untypableAs (name : String) : Descriptor :=
  .inline { textAt .body name with type := none, schema := some .any }

/-- Three parameters, of which two are declared again in the theorem below. -/
def kindAndId : List Descriptor :=
  [.inline (textAt .query "kind"), .inline (textAt .body "pet"), .inline (textAt .query "id")]

/-- In front of `kindAndId`, a dangling reference and a second parameter of the body have no effect
if they have the name `id`, and neither has a dangling reference with an element's name. -/
theorem bundle_dead_declarations_kindAndId :
    ∃ b, (bundle (danglingAs "id" :: kindAndId) false Document.empty).result = .ok b ∧
      b.query = ["'id':params['id']", "'kind':params['kind']"] ∧ b.body = "params['pet']" ∧
      (bundle (untypableAs "id" :: kindAndId) false Document.empty).result = .ok b ∧
      (bundle ([danglingAs "id"] ++ danglingAs "pets[0].id" :: kindAndId) false
        Document.empty).result = .ok b := by
  obtain ⟨b, hb, hquery, hbody⟩ :
      ∃ b, (bundle (danglingAs "id" :: kindAndId) false Document.empty).result = .ok b ∧
        b.query = ["'id':params['id']", "'kind':params['kind']"] ∧ b.body = "params['pet']" := by
    refine ⟨_, rfl, ?_, ?_⟩
    · decide +kernel
    · decide +kernel
  have hreplace := (bundle_dead_declarations [] kindAndId (danglingAs "id") false
    Document.empty).1 (Or.inr ⟨.inline (textAt .query "id"), by simp [kindAndId], rfl⟩)
    (untypableAs "id") rfl
  have hinsert := (bundle_dead_declarations [danglingAs "id"] kindAndId
    (danglingAs "pets[0].id") false Document.empty).2 (by decide)
  refine ⟨b, hb, hquery, hbody, ?_, ?_⟩
  · rw [List.nil_append] at hreplace
    rw [hreplace]
    exact hb
  · rw [hinsert]
    exact hb

end SwaggerRequests
