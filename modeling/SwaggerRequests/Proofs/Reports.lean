import SwaggerRequests.Proofs.Operations
import SwaggerRequests.Proofs.Imports
import Mathlib.Data.List.Count

/-!
# Reports about names

The events of `bundle` about names. There are two kinds of conflicts. Before the references are
resolved, a descriptor that is not kept is reported, as dropped if it has an element's name
(`Event.droppedElement`) and as declared again otherwise (`Event.redeclared`). Afterwards, several
parameters can have one name, and `Event.ambiguous` is reported for each of them except the first.

Both `nameEvents` and `ambiguityEvents` process a list from its front with the names seen so far.
They are described by their growth at the end of the list, by at most one event
(`nameEvents_concat`, `ambiguityEvents_concat`), and so as `remarks`: one optional event for each
name, in view of the names before it. `repeats` are the names that have come before, each time they
come again. With the distinct names they make up the list (`length_repeats`), from which the numbers
of events follow.
-/

namespace SwaggerRequests

/-! ## Remarks

`remarks` is the general form of a report about each member of a list in view of those before it. -/

/-- What `say` has about the members of the list, each with the list of those before it. -/
def remarks {α β : Type} (say : List α → α → Option β) (xs : List α) : List β :=
  xs.zipIdx.filterMap fun (x, i) => say (xs.take i) x

theorem remarks_concat {α β : Type} (say : List α → α → Option β) (xs : List α) (x : α) :
    remarks say (xs ++ [x]) = remarks say xs ++ (say xs x).toList := by
  have hfront : (xs.zipIdx.filterMap fun (y, i) => say ((xs ++ [x]).take i) y) =
      remarks say xs := by
    refine List.filterMap_congr fun (y, i) hy => ?_
    have hi : i < xs.length := (List.mem_zipIdx hy).2.1.trans_eq (Nat.zero_add _)
    simp only [List.take_append_of_le_length hi.le]
  rw [remarks, List.zipIdx_append, List.filterMap_append, hfront]
  simp [List.filterMap_cons, Option.toList]
  cases say xs x <;> rfl

/-- The names that have come before, once for each time that they come again. -/
def repeats (names : List String) : List String :=
  remarks (fun before name => if name ∈ before then some name else none) names

/-- `repeats` for one more name at the end. -/
theorem repeats_concat (names : List String) (name : String) :
    repeats (names ++ [name]) = repeats names ++ if name ∈ names then [name] else [] := by
  rw [repeats, remarks_concat]
  split <;> rfl

/-- A name is in `repeats` one time less than in the list. -/
theorem count_repeats (names : List String) (name : String) :
    (repeats names).count name = names.count name - 1 := by
  induction names using List.reverseRecOn with
  | nil => rfl
  | append_singleton names last ih =>
    rw [repeats_concat, List.count_append, List.count_append, ih]
    by_cases h : last ∈ names
    · by_cases hname : last = name
      · subst hname
        simp [h]
      · simp [h, hname]
    · by_cases hname : last = name
      · subst hname
        simp [h, List.count_eq_zero_of_not_mem h]
      · simp [h, hname]

/-- `repeats` is empty exactly if the names are distinct. -/
theorem repeats_eq_nil_iff (names : List String) : repeats names = [] ↔ names.Nodup := by
  rw [List.nodup_iff_count_le_one, List.eq_nil_iff_forall_not_mem]
  refine forall_congr' fun name => ?_
  rw [← List.count_eq_zero, count_repeats]
  omega

/-- `repeats` and the distinct names have together the length of the list. -/
theorem length_repeats (names : List String) :
    (repeats names).length + names.eraseDups.length = names.length := by
  induction names using List.reverseRecOn with
  | nil => rfl
  | append_singleton names name ih =>
    rw [repeats_concat, Entries.eraseDups_concat]
    by_cases h : name ∈ names <;> simp [h] <;> omega

/-! ## Names before they are resolved

`nameEvents` as `remarks`, and its events of each kind. -/

/-- The event about a name after the names `before`, if there is one. -/
def nameRemark (before : List String) (name : String) : Option Event :=
  if NamesElement name then some (.droppedElement name)
  else if name ∈ before then some (.redeclared name)
  else none

namespace Event

/-- The event reports a descriptor of an element. -/
def isDropped : Event → Bool
  | .droppedElement _ => true
  | _ => false

/-- The event reports a repeated declaration. -/
def isRedeclared : Event → Bool
  | .redeclared _ => true
  | _ => false

end Event

/-- For the name of an element, the names before it do not matter. -/
theorem nameRemark_congr {before before' : List String} {name : String}
    (h : ¬ NamesElement name → (name ∈ before ↔ name ∈ before')) :
    nameRemark before name = nameRemark before' name := by
  by_cases helement : NamesElement name
  · rw [nameRemark, nameRemark, if_pos helement, if_pos helement]
  · simp only [nameRemark, h helement]

/-- `nameEvents` for one more name at the end. The names of elements are not added to `seen`, but
this makes no difference, since they are dropped whenever they come. -/
theorem nameEvents_concat (seen names : List String) (name : String) :
    nameEvents seen (names ++ [name]) =
      nameEvents seen names ++ (nameRemark (seen ++ names) name).toList := by
  induction names generalizing seen with
  | nil =>
    by_cases helement : NamesElement name
    · simp [nameEvents, nameRemark, helement, (isElementName_iff name).mpr helement]
    · have hfalse := (isElementName_eq_false_iff name).mpr helement
      by_cases hseen : name ∈ seen <;> simp [nameEvents, nameRemark, helement, hfalse, hseen]
  -- an element's name is not added to `seen`, any other name is in it for the rest of the list
  | cons first names ih =>
    rw [List.cons_append, nameEvents, nameEvents]
    by_cases helement : isElementName first = true
    · have hremark :
          nameRemark (seen ++ names) name = nameRemark (seen ++ first :: names) name := by
        refine nameRemark_congr fun hname => ?_
        have hne : name ≠ first := fun h => hname (h ▸ (isElementName_iff first).mp helement)
        simp [hne]
      rw [if_pos helement, if_pos helement, ih, hremark, List.cons_append]
    · rw [if_neg helement, if_neg helement]
      by_cases hseen : seen.contains first = true
      · have hremark :
            nameRemark (seen ++ names) name = nameRemark (seen ++ first :: names) name := by
          refine nameRemark_congr fun _ => ?_
          by_cases hname : name = first
          · simp [hname, List.contains_iff_mem.mp hseen]
          · simp [hname]
        rw [if_pos hseen, if_pos hseen, ih, hremark, List.cons_append]
      · have hremark :
            nameRemark (first :: seen ++ names) name = nameRemark (seen ++ first :: names) name :=
          nameRemark_congr fun _ => by simp [or_left_comm]
        rw [if_neg hseen, if_neg hseen, ih, hremark]

/-- `nameEvents` are the `remarks` of `nameRemark`. -/
theorem nameEvents_eq_remarks (names : List String) :
    nameEvents [] names = remarks nameRemark names := by
  induction names using List.reverseRecOn with
  | nil => rfl
  | append_singleton names name ih =>
    rw [nameEvents_concat, remarks_concat, ih, List.nil_append]

/-- The names of elements are reported as dropped, all of them in their order. -/
theorem filter_isDropped_nameEvents (names : List String) :
    (nameEvents [] names).filter Event.isDropped =
      (names.filter fun name => NamesElement name).map Event.droppedElement := by
  induction names using List.reverseRecOn with
  | nil => rfl
  | append_singleton names name ih =>
    rw [nameEvents_concat, List.filter_append, List.filter_append, List.map_append, ih]
    by_cases helement : NamesElement name
    · simp [nameRemark, helement, Event.isDropped]
    · by_cases hname : name ∈ names <;> simp [nameRemark, helement, hname, Event.isDropped]

/-- The `repeats` among the other names are reported as declared again. -/
theorem filter_isRedeclared_nameEvents (names : List String) :
    (nameEvents [] names).filter Event.isRedeclared =
      (repeats (names.filter fun name => ¬ NamesElement name)).map Event.redeclared := by
  induction names using List.reverseRecOn with
  | nil => rfl
  | append_singleton names name ih =>
    rw [nameEvents_concat, List.filter_append, List.filter_append, ih]
    by_cases helement : NamesElement name
    · simp [nameRemark, helement, Event.isRedeclared]
    · have hone : [name].filter (fun name => ¬ NamesElement name) = [name] := by simp [helement]
      rw [hone, repeats_concat]
      by_cases hname : name ∈ names <;>
        simp [nameRemark, helement, hname, Event.isRedeclared]

/-- Every event of `nameEvents` is of one of the two kinds. -/
theorem mem_nameEvents_cases {names : List String} {event : Event}
    (h : event ∈ nameEvents [] names) :
    ∃ name, event = .droppedElement name ∨ event = .redeclared name := by
  rw [nameEvents_eq_remarks, remarks, List.mem_filterMap] at h
  obtain ⟨⟨name, i⟩, -, h⟩ := h
  refine ⟨name, ?_⟩
  simp only [nameRemark] at h
  split at h
  · exact Or.inl (Option.some.inj h).symm
  · split at h
    · exact Or.inr (Option.some.inj h).symm
    · cases h

/-! ## Names of resolved parameters

`ambiguityEvents` in terms of `repeats`. -/

/-- `ambiguityEvents` for one more name at the end. -/
theorem ambiguityEvents_concat (seen names : List String) (name : String) :
    ambiguityEvents seen (names ++ [name]) =
      ambiguityEvents seen names ++ if name ∈ seen ++ names then [.ambiguous name] else [] := by
  induction names generalizing seen with
  | nil => by_cases h : name ∈ seen <;> simp [ambiguityEvents, h]
  | cons first names ih =>
    rw [List.cons_append, ambiguityEvents, ambiguityEvents]
    by_cases h : first ∈ seen
    · have hmem : name ∈ seen ++ names ↔ name ∈ seen ++ first :: names := by
        by_cases hname : name = first
        · simp [hname, h]
        · simp [hname]
      simp only [List.contains_iff_mem, h, if_true, ih, hmem, List.cons_append]
    · have hmem : name ∈ first :: seen ++ names ↔ name ∈ seen ++ first :: names := by
        simp [or_left_comm]
      simp only [List.contains_iff_mem, h, if_false, ih, hmem]

/-- There is an `Event.ambiguous` for each of the `repeats`. -/
theorem ambiguityEvents_eq_map (names : List String) :
    ambiguityEvents [] names = (repeats names).map Event.ambiguous := by
  induction names using List.reverseRecOn with
  | nil => rfl
  | append_singleton names name ih =>
    rw [ambiguityEvents_concat, repeats_concat, ih, List.map_append, List.nil_append]
    split <;> rfl

/-! ## Counting

The number of events of each kind, and the log of `bundle` in both cases, with all references
resolved or with a dangling one. -/

theorem droppedElement_injective : Function.Injective Event.droppedElement :=
  fun _ _ => Event.droppedElement.inj

theorem redeclared_injective : Function.Injective Event.redeclared :=
  fun _ _ => Event.redeclared.inj

theorem ambiguous_injective : Function.Injective Event.ambiguous := fun _ _ => Event.ambiguous.inj

/-- A name is reported as dropped as often as it comes if it is an element's, and never
otherwise. -/
theorem count_droppedElement (names : List String) (name : String) :
    (nameEvents [] names).count (.droppedElement name) =
      if NamesElement name then names.count name else 0 := by
  have hevent : Event.isDropped (.droppedElement name) = true := rfl
  rw [← List.count_filter hevent, filter_isDropped_nameEvents,
    List.count_map_of_injective _ _ droppedElement_injective]
  split
  case isTrue h => exact List.count_filter (decide_eq_true h)
  case isFalse h => exact List.count_eq_zero_of_not_mem (by simp [h])

/-- Any other name is reported as declared again one time less than it comes. -/
theorem count_redeclared (names : List String) (name : String) :
    (nameEvents [] names).count (.redeclared name) =
      if NamesElement name then 0 else names.count name - 1 := by
  have hevent : Event.isRedeclared (.redeclared name) = true := rfl
  rw [← List.count_filter hevent, filter_isRedeclared_nameEvents,
    List.count_map_of_injective _ _ redeclared_injective, count_repeats]
  split
  case isTrue h => rw [List.count_eq_zero_of_not_mem (by simp [h])]
  case isFalse h => rw [List.count_filter (by simpa using h)]

/-- The descriptors are those that are dropped, those that are declared again and those that are
kept. -/
theorem length_eq_reports_add_kept (ds : List Descriptor) :
    ds.length =
      (nameEvents [] (ds.map Descriptor.name)).countP Event.isDropped +
        (nameEvents [] (ds.map Descriptor.name)).countP Event.isRedeclared +
          (keptDescriptors ds).length := by
  have hkept : (keptDescriptors ds).length = (declaredNames ds).length := by
    have hkeys : (keptDescriptors ds).length = (keptByName Descriptor.name ds).keys.length := by
      rw [keptDescriptors, Entries.keys, List.length_map, List.length_map]
    rw [hkeys, keys_keptByName, ← filter_not_namesElement, declaredNames, List.filter_map]
    rfl
  have hsplit := List.length_eq_length_filter_add (l := ds.map Descriptor.name)
    fun name => decide (NamesElement name)
  have hrepeats :=
    length_repeats ((ds.map Descriptor.name).filter fun name => ¬ NamesElement name)
  rw [hkept, declaredNames, List.countP_eq_length_filter, List.countP_eq_length_filter,
    filter_isDropped_nameEvents, filter_isRedeclared_nameEvents, List.length_map, List.length_map]
  simp only [List.length_map, decide_not] at hsplit hrepeats ⊢
  omega

/-- The events of `assemble` are those about `repeats`, and then headers that are left out. -/
theorem assemble_log (useHeaders : Bool) (ps : List Parameter) :
    ∃ emissions, (assemble useHeaders ps).log =
        (repeats (ps.map (·.name))).map Event.ambiguous ++ emissions ∧
      ∀ event ∈ emissions, ∃ name, event = .skippedHeader name := by
  rw [assemble, Logged.log_bind_of_ok (Logged.result_report _)]
  refine ⟨_, congrArg (· ++ _) (ambiguityEvents_eq_map _), ?_⟩
  exact Logged.Reports.bind Emission.addAll_reports fun _ _ => Logged.Reports.nil rfl

variable {ds : List Descriptor} {useHeaders : Bool} {document : Document}

/-- If all references resolve, the log has the events of `nameEvents`, then those of the `repeats`
among the resolved names, and then headers that are left out. -/
theorem bundle_log_of_resolves {resolved : List Parameter}
    (h : List.Forall₂ (Resolves document) (keptDescriptors ds) resolved) :
    ∃ emissions, (bundle ds useHeaders document).log =
        nameEvents [] (ds.map Descriptor.name) ++
          (repeats (resolved.map (·.name))).map Event.ambiguous ++ emissions ∧
      ∀ event ∈ emissions, ∃ name, event = .skippedHeader name := by
  obtain ⟨emissions, hlog, hemissions⟩ := assemble_log useHeaders resolved
  refine ⟨emissions, ?_, hemissions⟩
  rw [bundle_of_resolved (mapM_resolve_eq_ok_iff.mpr h), hlog, List.append_assoc]

/-- If a reference is `Dangling`, the log has the events of `nameEvents` only. -/
theorem bundle_log_of_dangling (h : ∃ d ∈ keptDescriptors ds, Dangling document d) :
    (bundle ds useHeaders document).log = nameEvents [] (ds.map Descriptor.name) := by
  obtain ⟨d, hfirst⟩ := exists_isFirst h
  obtain ⟨target, name, rfl, -⟩ := id hfirst.holds
  rw [bundle_of_unresolved (mapM_resolve_eq_error_iff.mpr ⟨target, name, hfirst, rfl⟩)]

theorem ambiguous_not_mem_nameEvents {names : List String} {name : String} :
    .ambiguous name ∉ nameEvents [] names := by
  intro h
  obtain ⟨name', h | h⟩ := mem_nameEvents_cases h <;> cases h

/-- A name is reported as ambiguous exactly if it is in `repeats` of the resolved names. -/
theorem ambiguous_mem_log_iff {resolved : List Parameter} {name : String}
    (h : List.Forall₂ (Resolves document) (keptDescriptors ds) resolved) :
    .ambiguous name ∈ (bundle ds useHeaders document).log ↔
      name ∈ repeats (resolved.map (·.name)) := by
  obtain ⟨emissions, hlog, hemissions⟩ := bundle_log_of_resolves h
  rw [hlog, List.mem_append, List.mem_append, List.mem_map_of_injective ambiguous_injective]
  refine ⟨?_, fun hname => Or.inl (Or.inr hname)⟩
  rintro ((hevent | hname) | hevent)
  · exact absurd hevent ambiguous_not_mem_nameEvents
  · exact hname
  · obtain ⟨name', h⟩ := hemissions _ hevent
    cases h

/-- **Reports of names.** Let `kept` be the descriptors that `distinctDescriptors` keeps, and `log`
its events.

* `log` are the `remarks` of `nameRemark`, in the order of the list. A descriptor with an element's
  name is reported as dropped, and any other one, except for the first of each name, as declared
  again. The numbers of these events and of the kept descriptors add up to the length of the list.
* If the kept references resolve, the log of `bundle` continues with an `Event.ambiguous` for each
  of the `repeats` among the resolved names, and then has only headers that are left out. So there
  is no such event exactly if the resolved names are distinct.
* If a kept reference is `Dangling`, the log of `bundle` is `log`. -/
theorem clashes_reported_once (ε : Type) (ds : List Descriptor) (useHeaders : Bool)
    (document : Document) :
    ∃ log kept, (distinctDescriptors ds : Logged ε _) = ⟨log, .ok kept⟩ ∧
      log = remarks nameRemark (ds.map Descriptor.name) ∧
      (∀ name, log.count (.droppedElement name) =
        if NamesElement name then (ds.map Descriptor.name).count name else 0) ∧
      (∀ name, log.count (.redeclared name) =
        if NamesElement name then 0 else (ds.map Descriptor.name).count name - 1) ∧
      ds.length = log.countP Event.isDropped + log.countP Event.isRedeclared + kept.length ∧
      (∀ resolved, List.Forall₂ (Resolves document) kept resolved →
        ∃ warnings emissions, (bundle ds useHeaders document).log = log ++ warnings ++ emissions ∧
          warnings = (repeats (resolved.map (·.name))).map Event.ambiguous ∧
          (∀ name, warnings.count (.ambiguous name) = (resolved.map (·.name)).count name - 1) ∧
          (∀ event ∈ emissions, ∃ name, event = .skippedHeader name) ∧
          ((∀ name, .ambiguous name ∉ (bundle ds useHeaders document).log) ↔
            (resolved.map (·.name)).Nodup)) ∧
      ((∃ d ∈ kept, Dangling document d) →
        (bundle ds useHeaders document).log = log ∧ ∀ name, .ambiguous name ∉ log) := by
  refine ⟨_, _, distinctDescriptors_eq ds, nameEvents_eq_remarks _, count_droppedElement _,
    count_redeclared _, length_eq_reports_add_kept ds, ?_, ?_⟩
  · intro resolved hresolved
    obtain ⟨emissions, hlog, hemissions⟩ := bundle_log_of_resolves hresolved
    refine ⟨_, emissions, hlog, rfl, fun name => ?_, hemissions, ?_⟩
    · rw [List.count_map_of_injective _ _ ambiguous_injective, count_repeats]
    · simp only [ambiguous_mem_log_iff hresolved, ← repeats_eq_nil_iff,
        List.eq_nil_iff_forall_not_mem]
  · intro hdangling
    exact ⟨bundle_log_of_dangling hdangling, fun name => ambiguous_not_mem_nameEvents⟩

/-- A parameter that is declared twice, one with an element's name, a reference to a parameter of
the same name, and a header. -/
def namesakes : List Descriptor :=
  [.inline (textAt .query "id"), .inline (textAt .query "pets[0].id"),
    .inline (textAt .path "id"), .reference "#/parameters/petId" none,
    .inline (textAt .header "trace")]

/-- The shared parameter that the reference of `namesakes` stands for. -/
def sharedPetId : Document :=
  { Document.empty with parameters := [("petId", textAt .query "id")] }

/-- The events about `namesakes`, with the shared parameter and without it. -/
theorem clashes_reported_once_namesakes :
    ∃ log kept, (distinctDescriptors namesakes : Logged RequestError _) = ⟨log, .ok kept⟩ ∧
      log = [.droppedElement "pets[0].id", .redeclared "id"] ∧
      namesakes.length = 1 + 1 + kept.length ∧
      (bundle namesakes false sharedPetId).log =
        log ++ [.ambiguous "id"] ++ [.skippedHeader "trace"] ∧
      (¬ ∀ name, .ambiguous name ∉ (bundle namesakes false sharedPetId).log) ∧
      (bundle namesakes false Document.empty).log = log := by
  obtain ⟨log, kept, hthinned, -, -, -, hlength, hresolves, -⟩ :=
    clashes_reported_once RequestError namesakes false sharedPetId
  obtain ⟨_, _, hthinned', -, -, -, -, -, hdangles⟩ :=
    clashes_reported_once RequestError namesakes false Document.empty
  rw [hthinned] at hthinned'
  cases hthinned'
  have hevents : [.droppedElement "pets[0].id", .redeclared "id"] = log :=
    congrArg Logged.log hthinned
  have hkept : [.inline (textAt .path "id"), .reference "#/parameters/petId" none,
      .inline (textAt .header "trace")] = kept :=
    Except.ok.inj (congrArg Logged.result hthinned)
  subst hevents hkept
  have hresolved := hresolves [textAt .path "id", textAt .query "id", textAt .header "trace"]
    (.cons (.inline _) (.cons (resolve_eq_ok_iff.mp rfl) (.cons (.inline _) .nil)))
  obtain ⟨-, -, -, -, -, -, hdistinct⟩ := hresolved
  refine ⟨_, _, hthinned, rfl, hlength, ?_, ?_, ?_⟩
  · decide +kernel
  · rw [hdistinct]
    decide
  · refine (hdangles ⟨_, List.mem_cons_of_mem _ (List.mem_cons_self ..), ?_⟩).1
    exact ⟨_, _, rfl, List.forall_mem_nil _⟩

end SwaggerRequests
