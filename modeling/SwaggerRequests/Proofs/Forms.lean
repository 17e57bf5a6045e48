import SwaggerRequests.Reading.FromDatum
import SwaggerRequests.Proofs.Entries
import Mathlib.Data.List.Forall2
import Mathlib.Data.List.Dedup

/-!
# Forms, and readers that undo them

A *form* is a relation between the values of a type and the data they may be written as, `Form α`.
Forms are built like readers: `Form.text` and `Form.flag`, `Form.optional`, `Form.items` and
`Form.map`, and `Layout.record` for records, whose fields may be in any order, may be left out if
they have a default, and may be among entries with other keys.

A reader `Undoes` a form if it returns the value for every datum of the form. To state this for data
and for YAML nodes at once, the class `Showing` has a relation `Shows` between the values of a
source and data. `LawfulSource` states for each operation of `Source` that it finds what it asks
for, and over a lawful source the readers built from smaller ones undo the forms built in the same
way (`Undoes.optional`, `Undoes.items`, `Undoes.map`, `Undoes.record`). The model then needs no
induction on data.

The proof for records is by induction on the entries, in each source. Its invariant is `Fillable`,
and `Shape.Draft.fill` is the draft that results. The instance for data is at the end of the module,
the one for nodes in `Writing`.
-/

namespace SwaggerRequests.Reading

variable {α : Type}

/-! ## Forms

The forms of texts, booleans, optional values, lists and ordered maps. -/

/-- The data that a value may be written as. -/
abbrev Form (α : Type) := α → Datum → Prop

/-- The mapping with the entries `es`, whose keys are texts. -/
def Datum.ofEntries (es : Entries Datum) : Datum := .mapping (es.map fun e => (.text e.1, e.2))

namespace Form

/-- A text is written as it is. -/
def text : Form String := fun s d => d = .text s

/-- A boolean is written as it is. -/
def flag : Form Bool := fun b d => d = .boolean b

/-- `none` is written as null, and `some a` like `a`. -/
def optional (F : Form α) : Form (Option α)
  | none, d => d = .null
  | some a, d => F a d

/-- A list is written as the list of its items. -/
def items (F : Form α) : Form (List α) := fun as d =>
  ∃ ds, d = .list ds ∧ List.Forall₂ F as ds

/-- An ordered map is written as the mapping of its entries in their order. Its keys are
distinct. -/
def map (F : Form α) : Form (Entries α) := fun es d =>
  ∃ ds, d = .ofEntries ds ∧ es.keys.Nodup ∧
    List.Forall₂ (fun e e' => e.1 = e'.1 ∧ F e.2 e'.2) es ds

/-- No value is written as null. Such a form can be made `Form.optional` without ambiguity. -/
def Solid (F : Form α) : Prop := ∀ a, ¬ F a .null

theorem solid_text : Solid text := fun _ h => by cases h

end Form

/-! ## Records

A `Layout` gives a form and a default for each field of a `Shape`. The entries of a mapping write a
record if each field is written or has its default. -/

variable {S : Shape}

/-- How the records of a shape are written. -/
structure Layout (S : Shape) where
  /-- the form of the content of a field -/
  form : (f : S.Field) → Form (S.Content f)
  /-- the content of a field that is left out, unless the field is required -/
  default? : (f : S.Field) → Option (S.Content f)

/-- The content `c` of a field is written as the datum, or no datum is there and `c` is the
default. -/
def Layout.WritesField (L : Layout S) (f : S.Field) (c : S.Content f) : Option Datum → Prop
  | some d => L.form f c d
  | none => L.default? f = some c

/-- The entries `es` write the contents `c` of the fields. They may be in any order and include
other keys. -/
structure Layout.Writes (L : Layout S) (c : (f : S.Field) → S.Content f) (es : Entries Datum) :
    Prop where
  /-- no key is repeated -/
  distinct : es.keys.Nodup
  /-- each field is written under its label or left out -/
  fields : ∀ f, L.WritesField f (c f) (es.lookup (S.label f))

namespace Layout.Writes

variable {L : Layout S} {c : (f : S.Field) → S.Content f} {es : Entries Datum}

theorem written (h : L.Writes c es) (f : S.Field) {d : Datum}
    (hd : es.lookup (S.label f) = some d) : L.form f (c f) d := by
  have hf := h.fields f
  rwa [hd] at hf

theorem left_out (h : L.Writes c es) (f : S.Field) (hf : es.lookup (S.label f) = none) :
    L.default? f = some (c f) := by
  have hfield := h.fields f
  rwa [hf] at hfield

end Layout.Writes

/-- A record is written as a mapping whose entries write its contents. -/
def Layout.record (L : Layout S) (content : α → (f : S.Field) → S.Content f) : Form α := fun a d =>
  ∃ es, d = .ofEntries es ∧ L.Writes (content a) es

/-- A record is not written as null. -/
theorem Layout.solid_record (L : Layout S) (content : α → (f : S.Field) → S.Content f) :
    (L.record content).Solid := by
  rintro a ⟨es, h, -⟩
  cases h

/-- The fields have different labels: each field is found by its label. -/
def Shape.Named (S : Shape) : Prop := ∀ f, S.field? (S.label f) = some f

theorem Shape.label_of_field? {k : String} {f : S.Field} (h : S.field? k = some f) :
    S.label f = k := by
  have hname := List.find?_some h
  exact eq_of_beq hname

namespace Shape.Draft

/-- The draft `d` after the fields are read that `es` writes. -/
def fill (d : Draft S) (c : (f : S.Field) → S.Content f) (es : Entries Datum) : Draft S :=
  fun f => if S.label f ∈ es.keys then some (c f) else d f

variable {d : Draft S} {c : (f : S.Field) → S.Content f} {es : Entries Datum} {k : String}
  {v : Datum}

theorem fill_nil : d.fill c [] = d := by
  funext f
  exact if_neg List.not_mem_nil

/-- An entry whose key is not a label does not change the draft. -/
theorem fill_cons_of_none (hS : S.Named) (h : S.field? k = none) :
    d.fill c ((k, v) :: es) = d.fill c es := by
  funext f
  have hne : S.label f ≠ k := by
    rintro rfl
    rw [hS f] at h
    cases h
  have hmem : S.label f ∈ Entries.keys ((k, v) :: es) ↔ S.label f ∈ Entries.keys es := by
    rw [Entries.keys_cons, List.mem_cons, or_iff_right hne]
  simp only [fill, hmem]

theorem set_content (d : Draft S) (f g : S.Field) :
    d.set f (c f) g = if f = g then some (c g) else d g := by
  unfold set
  by_cases h : f = g
  · subst h
    rw [dif_pos rfl, if_pos rfl]
  · rw [dif_neg h, if_neg h]

/-- An entry whose key is the label of `f` sets the content of `f`. -/
theorem fill_cons_of_some (hS : S.Named) {f : S.Field} (h : S.field? k = some f) :
    d.fill c ((k, v) :: es) = (d.set f (c f)).fill c es := by
  funext g
  have hname : S.label g = k ↔ f = g := by
    refine ⟨?_, ?_⟩
    · rintro rfl
      exact Option.some.inj (h.symm.trans (hS g))
    · rintro rfl
      exact label_of_field? h
  simp only [fill, set_content, Entries.keys_cons, List.mem_cons, hname]
  by_cases hes : S.label g ∈ es.keys
  · simp [hes]
  · simp [hes]

/-- After all entries are read, every field is filled or has its default as content. -/
theorem fill_or_default {L : Layout S} (h : L.Writes c es) (f : S.Field) :
    ((empty.fill c es f).or (L.default? f)) = some (c f) := by
  unfold fill
  by_cases hf : S.label f ∈ es.keys
  · rw [if_pos hf]
    rfl
  · have hnone : es.lookup (S.label f) = none := by
      rw [← Option.not_isSome_iff_eq_none, Entries.isSome_lookup_iff]
      exact hf
    rw [if_neg hf, h.left_out f hnone]
    rfl

end Shape.Draft

/-! ## What can be written

For each form a condition under which a value has a datum. -/

namespace Form

/-- The form has a datum for the value `a`. -/
def Writes (F : Form α) (a : α) : Prop := ∃ d, F a d

variable {F : Form α}

theorem writes_text (s : String) : text.Writes s := ⟨_, rfl⟩

theorem writes_flag (b : Bool) : flag.Writes b := ⟨_, rfl⟩

theorem writes_optional {o : Option α} (h : ∀ a ∈ o, F.Writes a) : F.optional.Writes o := by
  cases o with
  | none => exact ⟨.null, rfl⟩
  | some a => exact h a rfl

/-- If each member of `as` is related to something, the list is related to a list. -/
theorem exists_forall₂ {β : Type} {R : α → β → Prop} {as : List α} (h : ∀ a ∈ as, ∃ b, R a b) :
    ∃ bs, List.Forall₂ R as bs := by
  induction as with
  | nil => exact ⟨[], .nil⟩
  | cons a as ih =>
    obtain ⟨⟨b, hb⟩, has⟩ := List.forall_mem_cons.mp h
    obtain ⟨bs, hbs⟩ := ih has
    exact ⟨b :: bs, .cons hb hbs⟩

theorem writes_items {as : List α} (h : ∀ a ∈ as, F.Writes a) : F.items.Writes as := by
  obtain ⟨ds, hds⟩ := exists_forall₂ h
  exact ⟨.list ds, ds, rfl, hds⟩

theorem writes_map {es : Entries α} (hes : es.keys.Nodup) (h : ∀ e ∈ es, F.Writes e.2) :
    F.map.Writes es := by
  have hentries : ∀ e ∈ es, ∃ e' : String × Datum, e.1 = e'.1 ∧ F e.2 e'.2 := by
    intro e he
    obtain ⟨d, hd⟩ := h e he
    exact ⟨(e.1, d), rfl, hd⟩
  obtain ⟨ds, hds⟩ := exists_forall₂ hentries
  exact ⟨.ofEntries ds, ds, rfl, hes, hds⟩

end Form

/-- If the content of each field can be written, the record can be written without other keys. -/
theorem Layout.exists_writes {L : Layout S} {c : (f : S.Field) → S.Content f} (hS : S.Named)
    (h : ∀ f, (L.form f).Writes (c f)) :
    ∃ es, L.Writes c es ∧ ∀ k ∈ es.keys, ∃ f, S.label f = k := by
  choose d hd using h
  have hlabel : Function.Injective S.label := by
    intro f g hfg
    have hf := hS f
    rw [hfg, hS g] at hf
    exact (Option.some.inj hf).symm
  have hkeys : Entries.keys (S.fields.dedup.map fun f => (S.label f, d f)) =
      S.fields.dedup.map S.label := by
    rw [Entries.keys, List.map_map]
    rfl
  have hdistinct : (Entries.keys (S.fields.dedup.map fun f => (S.label f, d f))).Nodup := by
    rw [hkeys]
    exact (List.nodup_dedup S.fields).map hlabel
  refine ⟨_, ⟨hdistinct, fun f => ?_⟩, ?_⟩
  · have hf : f ∈ S.fields.dedup := List.mem_dedup.mpr (List.mem_of_find?_eq_some (hS f))
    rw [Entries.lookup_of_mem hdistinct (List.mem_map_of_mem hf)]
    exact hd f
  · intro k hk
    rw [hkeys] at hk
    obtain ⟨f, -, hf⟩ := List.mem_map.mp hk
    exact ⟨f, hf⟩

theorem Layout.writes_record {L : Layout S} {content : α → (f : S.Field) → S.Content f} {a : α}
    (hS : S.Named) (h : ∀ f, (L.form f).Writes (content a f)) : (L.record content).Writes a := by
  obtain ⟨es, hes, -⟩ := exists_writes hS h
  exact ⟨_, es, rfl, hes⟩

/-! ## Lawful sources

The specification of sources, and the readers that undo forms over any of them. -/

/-- A type whose values show data. -/
class Showing (ν : Type) where
  /-- what a value shows -/
  Shows : ν → Datum → Prop

export Showing (Shows)

variable {ν : Type} [Showing ν]

/-- `read` returns `a` for every value that shows `d`. -/
def Finds (read : ν → Reading α) (a : α) (d : Datum) : Prop := ∀ v, Shows v d → read v = pure a

/-- `read` returns `a` for every value that shows a datum of the form for `a`. -/
def Undoes (read : ν → Reading α) (F : Form α) : Prop := ∀ a d, F a d → Finds read a d

/-- The invariant of reading fields: the entries `es` remain, and `d` is the draft so far. -/
structure Fillable (read : (f : S.Field) → ν → Reading (S.Content f))
    (c : (f : S.Field) → S.Content f) (es : Entries Datum) (d : S.Draft) : Prop where
  /-- no key of the remaining entries is repeated -/
  distinct : es.keys.Nodup
  /-- the content of each field that they write can be read -/
  found : ∀ f v, es.lookup (S.label f) = some v → Finds (read f) (c f) v
  /-- the draft has none of these fields -/
  unmet : ∀ f, S.label f ∈ es.keys → d f = none

namespace Fillable

variable {read : (f : S.Field) → ν → Reading (S.Content f)} {c : (f : S.Field) → S.Content f}
  {es : Entries Datum} {d : S.Draft} {k : String} {v : Datum}

/-- After an entry that writes no field, `Fillable` holds of the others with the same draft. -/
theorem tail_of_none (h : Fillable read c ((k, v) :: es) d) : Fillable read c es d := by
  obtain ⟨hk, hes⟩ := List.nodup_cons.mp h.distinct
  refine ⟨hes, ?_, ?_⟩
  · intro f w hw
    have hmem : S.label f ∈ es.keys := by rw [← Entries.isSome_lookup_iff, hw]; rfl
    have hne : S.label f ≠ k := ne_of_mem_of_not_mem hmem hk
    exact h.found f w ((Entries.lookup_cons _ _).trans ((if_neg hne).trans hw))
  · exact fun f hf => h.unmet f (List.mem_cons_of_mem _ hf)

/-- After an entry that writes the field `f`, `Fillable` holds of the others with `f` set in the
draft. -/
theorem tail_of_some (h : Fillable read c ((k, v) :: es) d) {f : S.Field}
    (hf : S.field? k = some f) :
    d f = none ∧ Finds (read f) (c f) v ∧ Fillable read c es (d.set f (c f)) := by
  obtain rfl := Shape.label_of_field? hf
  obtain ⟨hk, -⟩ := List.nodup_cons.mp h.distinct
  refine ⟨h.unmet f (List.mem_cons_self ..), ?_, ?_⟩
  · exact h.found f v ((Entries.lookup_cons _ _).trans (if_pos rfl))
  · refine ⟨h.tail_of_none.distinct, h.tail_of_none.found, ?_⟩
    intro g hg
    have hne : f ≠ g := by
      rintro rfl
      exact hk hg
    rw [Shape.Draft.set_content, if_neg hne]
    exact h.tail_of_none.unmet g hg

/-- Before the first entry, `Fillable` holds if the entries write the record. -/
theorem of_writes {L : Layout S} (hread : ∀ f, Undoes (read f) (L.form f)) (h : L.Writes c es) :
    Fillable read c es .empty :=
  ⟨h.distinct, fun f v hv => hread f _ v (h.written f hv), fun _ _ => rfl⟩

end Fillable

/-- A source whose operations find what they ask for, one law for each operation. -/
class LawfulSource (ν : Type) [Source ν] [Showing ν] : Prop where
  text (s : String) : Finds (Source.text (ν := ν)) s (.text s)
  flag (b : Bool) : Finds (Source.flag (ν := ν)) b (.boolean b)
  choice {names : List String} {name : String} {i : Nat}
    (h : names.findIdx? (· == name) = some i) : Finds (Source.choice (ν := ν) names) i (.text name)
  optional_null {α : Type} (read : ν → Reading α) : Finds (Source.optional read) none .null
  optional_some {α : Type} {read : ν → Reading α} {a : α} {d : Datum} (hd : d ≠ .null)
    (h : Finds read a d) : Finds (Source.optional read) (some a) d
  items {α : Type} {read : ν → Reading α} {as : List α} {ds : List Datum}
    (h : List.Forall₂ (Finds read) as ds) : Finds (Source.items read) as (.list ds)
  entries {α : Type} {read : ν → Reading α} {es : List (String × α)} {ds : Entries Datum}
    (h : List.Forall₂ (fun e e' => e.1 = e'.1 ∧ Finds read e.2 e'.2) es ds) :
    Finds (Source.entries read) es (.ofEntries ds)
  record {α : Type} {S : Shape} {read : (f : S.Field) → ν → Reading (S.Content f)}
    {build : S.Draft → Except Cause α} {c : (f : S.Field) → S.Content f} {es : Entries Datum}
    {a : α} (hS : S.Named) (h : Fillable read c es .empty)
    (hbuild : build (Shape.Draft.empty.fill c es) = .ok a) :
    Finds (Source.record S read build) a (.ofEntries es)
  datum (d : Datum) : Finds (Source.datum (ν := ν)) d d
  depth {v : ν} {d : Datum} (h : Shows v d) : d.depth ≤ Source.depth v

namespace Undoes

variable [Source ν] [LawfulSource ν]

theorem text : Undoes (Source.text (ν := ν)) Form.text := by
  rintro s _ rfl
  exact LawfulSource.text s

theorem flag : Undoes (Source.flag (ν := ν)) Form.flag := by
  rintro b _ rfl
  exact LawfulSource.flag b

variable {read : ν → Reading α} {F : Form α}

theorem optional (h : Undoes read F) (hF : F.Solid) : Undoes (Source.optional read) F.optional := by
  rintro (_ | a) d hd
  · cases hd
    exact LawfulSource.optional_null read
  · refine LawfulSource.optional_some ?_ (h a d hd)
    rintro rfl
    exact hF a hd

theorem items (h : Undoes read F) : Undoes (Source.items read) F.items := by
  rintro as _ ⟨ds, rfl, hds⟩
  exact LawfulSource.items (hds.imp h)

/-- `Source.entries` followed by `Entries.collect` undoes `Form.map`, since `collect` is the
identity on entries with distinct keys. -/
theorem map (h : Undoes read F) :
    Undoes (fun v => Entries.collect <$> Source.entries read v) F.map := by
  rintro es _ ⟨ds, rfl, hes, hds⟩ v hv
  have hentries := LawfulSource.entries (hds.imp fun e e' he => ⟨he.1, h e.2 e'.2 he.2⟩) v hv
  change Entries.collect <$> Source.entries read v = _
  rw [hentries, map_pure, Entries.collect_of_nodup hes]

/-- **Reading records.** `Source.record` undoes `Layout.record` if the reader of each field undoes
the form of the field, and if `build` returns the record for each draft that has its contents or
leaves the defaults out. -/
theorem record {L : Layout S} {read : (f : S.Field) → ν → Reading (S.Content f)}
    {build : S.Draft → Except Cause α} {content : α → (f : S.Field) → S.Content f} (hS : S.Named)
    (hread : ∀ f, Undoes (read f) (L.form f))
    (hbuild : ∀ a (d : S.Draft), (∀ f, (d f).or (L.default? f) = some (content a f)) →
      build d = .ok a) :
    Undoes (Source.record S read build) (L.record content) := by
  rintro a _ ⟨es, rfl, hes⟩
  exact LawfulSource.record hS (.of_writes hread hes) (hbuild a _ (Shape.Draft.fill_or_default hes))

end Undoes

/-! ## Data

The source of data, in which a value shows itself. -/

namespace Datum

theorem depthItems_le_iff {ds : List Datum} {n : Nat} :
    depthItems ds ≤ n ↔ ∀ d ∈ ds, d.depth ≤ n := by
  induction ds with
  | nil => simp [depthItems]
  | cons d ds ih => rw [depthItems, Nat.max_le, ih, List.forall_mem_cons]

theorem depthEntries_le_iff {es : List (Datum × Datum)} {n : Nat} :
    depthEntries es ≤ n ↔ ∀ e ∈ es, e.2.depth ≤ n := by
  induction es with
  | nil => simp [depthEntries]
  | cons e es ih =>
    obtain ⟨k, v⟩ := e
    rw [depthEntries, Nat.max_le, ih, List.forall_mem_cons]

/-- A mapping has a greater depth than the values of its entries. -/
theorem depth_lt_of_mem {es : Entries Datum} {e : String × Datum} (h : e ∈ es) :
    e.2.depth < (ofEntries es).depth := by
  have hmem : (Datum.text e.1, e.2) ∈ es.map fun e => (Datum.text e.1, e.2) :=
    List.mem_map_of_mem h
  have hvalue := depthEntries_le_iff.mp (Nat.le_refl _) _ hmem
  exact Nat.lt_succ_of_le hvalue

theorem depth_lt_of_lookup {es : Entries Datum} {k : String} {v : Datum}
    (h : es.lookup k = some v) : v.depth < (ofEntries es).depth := by
  obtain ⟨before, after, rfl, -⟩ := List.lookup_eq_some_iff.mp h
  have hmem : (k, v) ∈ before ++ (k, v) :: after :=
    List.mem_append_right _ (List.mem_cons_self ..)
  exact depth_lt_of_mem hmem

/-- Data show themselves. -/
instance : Showing Datum := ⟨fun v d => v = d⟩

variable {read : Datum → Reading α}

theorem readItems_list {as : List α} {ds : List Datum} (h : List.Forall₂ (Finds read) as ds) :
    readItems read (.list ds) = pure as := by
  change ds.mapM read = _
  induction h with
  | nil => rfl
  | cons ha _ ih => rw [List.mapM_cons, ha _ rfl, pure_bind, ih, pure_bind]

theorem readEntries_ofEntries {es : List (String × α)} {ds : Entries Datum}
    (h : List.Forall₂ (fun e e' => e.1 = e'.1 ∧ Finds read e.2 e'.2) es ds) :
    readEntries read (.ofEntries ds) = pure es := by
  change List.mapM _ (ds.map _) = _
  induction h with
  | nil => rfl
  | cons he _ ih =>
    rw [List.map_cons, List.mapM_cons, ih]
    simp only [readText, pure_bind, he.2 _ rfl, ← he.1]

/-- If `Fillable` holds, `readFields` returns the draft after `Shape.Draft.fill`. The induction is
on the entries. -/
theorem readFields_fillable (hS : S.Named) {read : (f : S.Field) → Datum → Reading (S.Content f)}
    {c : (f : S.Field) → S.Content f} {es : Entries Datum} {d : S.Draft}
    (h : Fillable read c es d) :
    readFields S read d (es.map fun e => (.text e.1, e.2)) = pure (d.fill c es) := by
  induction es generalizing d with
  | nil => rw [Shape.Draft.fill_nil]; rfl
  | cons e es ih =>
    obtain ⟨k, v⟩ := e
    rw [List.map_cons, readFields, fieldOf?, pure_bind]
    cases hk : S.field? k with
    | none =>
      rw [Shape.Draft.fill_cons_of_none hS hk]
      exact ih h.tail_of_none
    | some f =>
      obtain ⟨hunmet, hfinds, htail⟩ := h.tail_of_some hk
      rw [Shape.Draft.fill_cons_of_some hS hk]
      simp only [hunmet, hfinds v rfl, pure_bind]
      exact ih htail

/-- If `Fillable` holds at the start and `build` succeeds on the filled draft, `readRecord` returns
its result. -/
theorem readRecord_ofEntries (hS : S.Named) {read : (f : S.Field) → Datum → Reading (S.Content f)}
    {build : S.Draft → Except Cause α} {c : (f : S.Field) → S.Content f} {es : Entries Datum}
    {a : α} (h : Fillable read c es .empty) (hbuild : build (Shape.Draft.empty.fill c es) = .ok a) :
    readRecord S read build (.ofEntries es) = pure a := by
  rw [ofEntries, readRecord, readFields_fillable hS h, pure_bind, hbuild]
  rfl

instance : LawfulSource Datum where
  text s := by rintro _ rfl; rfl
  flag b := by rintro _ rfl; rfl
  choice h := by
    rintro _ rfl
    change position _ _ = _
    rw [position, h]
  optional_null read := by rintro _ rfl; rfl
  optional_some hd h := by
    rintro d rfl
    cases d with
    | null => exact absurd rfl hd
    | _ => exact (congrArg (some <$> ·) (h _ rfl)).trans (map_pure ..)
  items h := by rintro _ rfl; exact readItems_list h
  entries h := by rintro _ rfl; exact readEntries_ofEntries h
  record hS h hbuild := by rintro _ rfl; exact readRecord_ofEntries hS h hbuild
  datum d := by rintro _ rfl; rfl
  depth h := Nat.le_of_eq (congrArg Datum.depth h.symm)

end Datum

end SwaggerRequests.Reading
