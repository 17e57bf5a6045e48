import SwaggerRequests.Model.Document
import SwaggerRequests.Proofs.Forms

/-!
# The written forms of the model

For each kind of record of the model this module defines its `Layout`: what a field holds
(`content`), what it may be written as (`form`), and what it holds if it is left out (`default?`).
The layout gives the form `WrittenAs` of the record, and `undoes_read` shows that `read` undoes this
form in every `LawfulSource`.

* `Schema`, with the forms of the schemas inside it as a parameter of the layout
* `Parameter`, with `Location.WrittenAs` for its location
* `Descriptor`, which is a reference or a parameter
* `Operation` and `PathItem`
* `Info` and `Document`

The proof of `undoes_read` has the same three parts for every kind: the labels of the shape are
distinct (`named_shape`), the draft with all fields filled or left to their defaults builds the
record (`ofDraft_eq`), and each field is read back (`undoes_readField`). `Undoes.record` puts them
together.

Two kinds need more. Schemas are nested, so `Schema.readWithin` takes a bound, which is large enough
if the datum is not as deep (`Schema.undoes_readWithin`). And `Descriptor.read` tries a reference
first, which has to fail for a parameter (`Descriptor.readReference_of_not_mem`).
-/

namespace SwaggerRequests

open Reading

/-! ## Contents and drafts

What a builder gets from a field of a draft, if the field is filled with the content or left to the
default that has it. -/

section

variable {α : Type}

/-- An optional field with default `none`, flattened by `Option.join`. -/
theorem join_of_or {o : Option (Option α)} {a : Option α} (h : o.or (some none) = some a) :
    o.join = a := by
  cases o with
  | none => exact Option.some.inj h
  | some b => exact Option.some.inj h

/-- A field with the default `b`, taken by `Option.getD`. -/
theorem getD_of_or {o : Option α} {a b : α} (h : o.or (some a) = some b) : o.getD a = b := by
  cases o with
  | none => exact Option.some.inj h
  | some c => exact Option.some.inj h

end

namespace Reading.Shape.Draft

variable {S : Shape} {d : S.Draft} {f : S.Field}

/-- `Draft.require` returns the content of a required field. -/
theorem require_of_or {c : S.Content f} (h : (d f).or none = some c) : d.require f = .ok c := by
  rw [Option.or_none] at h
  rw [require, h]

/-- `Draft.require` refuses a field that is not filled, by its label. -/
theorem require_of_eq_none (h : d f = none) : d.require f = .error (.missingField (S.label f)) := by
  rw [require, h]

end Reading.Shape.Draft

/-! ## Schemas

`WrittenWithin n` is defined by recursion on `n`, since the layout of a schema needs the form of the
schemas inside. `WrittenAs` is the union. -/

namespace Schema

/-- The content of each field of the schema. -/
def content (s : Schema) : (f : SchemaField) → f.Content
  | .reference => s.reference
  | .type => s.type
  | .format => s.format
  | .items => s.items
  | .properties => s.properties
  | .required => s.required
  | .description => s.description

/-- The form of each field, with `inner` for the schemas in `items` and `properties`. -/
def form (inner : Form Schema) : (f : SchemaField) → Form f.Content
  | .reference | .type | .format | .description => Form.text.optional
  | .items => inner.optional
  | .properties => inner.map
  | .required => Form.text.items

/-- The content of a field that is left out. Every field of a schema may be left out. -/
def default? : (f : SchemaField) → Option f.Content
  | .reference | .type | .format | .description => some none
  | .items => some none
  | .properties => some []
  | .required => some []

/-- The layout of schemas, with `inner` for the schemas inside. -/
def layout (inner : Form Schema) : Layout shape := ⟨form inner, default?⟩

/-- The schema is written as the datum, and schemas are nested less than `n` deep in it. -/
def WrittenWithin : Nat → Form Schema
  | 0 => fun _ _ => False
  | n + 1 => (layout (WrittenWithin n)).record content

/-- The schema is written as the datum. -/
def WrittenAs : Form Schema := fun s d => ∃ n, WrittenWithin n s d

/-- No schema is written as `Datum.null`. -/
theorem solid_writtenAs : Form.Solid WrittenAs := by
  rintro s ⟨_ | n, h⟩
  · exact h
  · exact Layout.solid_record _ _ s h

/-- The labels of `SchemaField` are distinct. -/
theorem named_shape : shape.Named := by
  intro f
  cases f <;> rfl

/-- `ofDraft` returns the schema if each field of the draft is filled with its content or left to a
default that is its content. -/
theorem ofDraft_eq {s : Schema} {d : shape.Draft}
    (h : ∀ f, (d f).or (default? f) = some (s.content f)) : ofDraft d = s := by
  obtain ⟨reference, type, format, items, properties, required, description⟩ := s
  unfold ofDraft
  congr 1
  · exact join_of_or (h .reference)
  · exact join_of_or (h .type)
  · exact join_of_or (h .format)
  · exact join_of_or (h .items)
  · exact getD_of_or (h .properties)
  · exact getD_of_or (h .required)
  · exact join_of_or (h .description)

/-- The form of a field says what is in the datum of the field, so the schemas inside are written as
data of smaller depth. -/
theorem form_below {F : Form Schema} {m : Nat} {f : SchemaField} {c : f.Content} {d : Datum}
    (h : form F f c d) (hd : d.depth < m) :
    form (fun s d => F s d ∧ d.depth < m) f c d := by
  cases f with
  | items =>
    cases c with
    | none => exact h
    | some s => exact ⟨h, hd⟩
  | properties =>
    obtain ⟨ds, rfl, hkeys, hds⟩ := h
    have hdepth : ∀ e ∈ ds, e.2.depth < m :=
      fun e he => Nat.lt_trans (Datum.depth_lt_of_mem he) hd
    refine ⟨ds, rfl, hkeys, ?_⟩
    have hbelow := (List.forall₂_and_left _ _).mpr ⟨hdepth, hds.flip⟩
    exact hbelow.flip.imp fun _ _ h => ⟨h.2.1, h.2.2, h.1⟩
  | _ => exact h

variable {ν : Type} [Source ν] [Showing ν] [LawfulSource ν]

/-- If `read` undoes the form `F` of the schemas inside, `readField read` undoes the form of each
field. There is one case for each field, closed by the lemma of `Undoes` for its form. -/
theorem undoes_readField {read : ν → Reading Schema} {F : Form Schema} (h : Undoes read F)
    (hF : F.Solid) (f : shape.Field) : Undoes (readField read f) ((layout F).form f) := by
  cases f with
  | items => exact h.optional hF
  | properties => exact h.map
  | required => exact Undoes.text.items
  | _ => exact Undoes.text.optional Form.solid_text

/-- `readWithin m` undoes the form of schemas whose datum has a depth less than `m`. The induction
is on `m`, with `form_below` for the fields. -/
theorem undoes_readWithin (m n : Nat) :
    Undoes (readWithin (ν := ν) m) fun s d => WrittenWithin n s d ∧ d.depth < m := by
  induction m generalizing n with
  | zero =>
    rintro s d ⟨-, hd⟩
    exact absurd hd (Nat.not_lt_zero _)
  | succ m ih =>
    rintro s d ⟨h, hd⟩
    cases n with
    | zero => exact h.elim
    | succ n =>
      obtain ⟨es, rfl, hes⟩ := h
      -- the data in the mapping have a smaller depth, so the induction hypothesis applies to them
      have hbelow : (layout fun s d => WrittenWithin n s d ∧ d.depth < m).Writes s.content es := by
        refine ⟨hes.distinct, fun f => ?_⟩
        cases hv : es.lookup (shape.label f) with
        | none => exact hes.left_out f hv
        | some v =>
          have hdepth := Nat.lt_of_lt_of_le (Datum.depth_lt_of_lookup hv) (Nat.le_of_lt_succ hd)
          exact form_below (hes.written f hv) hdepth
      have hsolid : Form.Solid fun s d => WrittenWithin n s d ∧ d.depth < m :=
        fun s hs => solid_writtenAs s ⟨n, hs.1⟩
      exact Undoes.record named_shape (undoes_readField (ih n) hsolid)
        (fun s d h => congrArg Except.ok (ofDraft_eq h)) s _ ⟨es, rfl, hbelow⟩

/-- `Schema.read` undoes `Schema.WrittenAs`, since a lawful source bounds the depth of what it
shows. -/
theorem undoes_read : Undoes (read (ν := ν)) WrittenAs := by
  rintro s d ⟨n, h⟩ v hv
  have hd : d.depth < Source.depth v + 1 := Nat.lt_succ_of_le (LawfulSource.depth hv)
  exact undoes_readWithin _ n s d ⟨h, hd⟩ v hv

end Schema

/-! ## Parameters

A location is a text among the names of `Location.all`. The name and the location are required. -/

/-- A location is written as the text `Location.name`. -/
def Location.WrittenAs : Form Location := fun l d => d = .text l.name

/-- The position of the name of a location among all names gives the location back. -/
theorem Location.getD_position (l : Location) :
    ∃ i, (all.map name).findIdx? (· == l.name) = some i ∧ all.getD i .path = l := by
  cases l <;> exact ⟨_, rfl, rfl⟩

namespace Parameter

/-- The content of each field of the parameter. -/
def content (p : Parameter) : (f : ParameterField) → f.Content
  | .name => p.name
  | .location => p.location
  | .required => p.required
  | .description => p.description
  | .type => p.type
  | .format => p.format
  | .schema => p.schema
  | .items => p.items

/-- The form of each field. -/
def form : (f : ParameterField) → Form f.Content
  | .name => Form.text
  | .location => Location.WrittenAs
  | .required => Form.flag
  | .description | .type | .format => Form.text.optional
  | .schema | .items => Form.optional Schema.WrittenAs

/-- The content of a field that is left out. A parameter without a name or a location cannot be
written. -/
def default? : (f : ParameterField) → Option f.Content
  | .name => none
  | .location => none
  | .required => some false
  | .description | .type | .format => some none
  | .schema | .items => some none

/-- The layout of parameters. -/
def layout : Layout shape := ⟨form, default?⟩

/-- The parameter is written as the datum. -/
def WrittenAs : Form Parameter := layout.record content

theorem named_shape : shape.Named := by
  intro f
  cases f <;> rfl

theorem ofDraft_eq {p : Parameter} {d : shape.Draft}
    (h : ∀ f, (d f).or (default? f) = some (p.content f)) : ofDraft d = .ok p := by
  obtain ⟨name, location, required, description, type, format, schema, items⟩ := p
  have hname : d.require ParameterField.name = .ok name := Shape.Draft.require_of_or (h .name)
  have hlocation : d.require ParameterField.location = .ok location :=
    Shape.Draft.require_of_or (h .location)
  rw [ofDraft, hname, hlocation]
  refine congrArg Except.ok ?_
  congr 1
  · exact getD_of_or (h .required)
  · exact join_of_or (h .description)
  · exact join_of_or (h .type)
  · exact join_of_or (h .format)
  · exact join_of_or (h .schema)
  · exact join_of_or (h .items)

variable {ν : Type} [Source ν] [Showing ν] [LawfulSource ν]

/-- `readLocation` undoes `Location.WrittenAs`. -/
theorem undoes_readLocation : Undoes (readLocation (ν := ν)) Location.WrittenAs := by
  rintro l _ rfl v hv
  obtain ⟨i, hi, hl⟩ := l.getD_position
  rw [readLocation, LawfulSource.choice hi v hv, pure_bind, hl]

theorem undoes_readField (f : shape.Field) : Undoes (readField (ν := ν) f) (layout.form f) := by
  cases f with
  | name => exact Undoes.text
  | location => exact undoes_readLocation
  | required => exact Undoes.flag
  | schema => exact Schema.undoes_read.optional Schema.solid_writtenAs
  | items => exact Schema.undoes_read.optional Schema.solid_writtenAs
  | _ => exact Undoes.text.optional Form.solid_text

/-- `Parameter.read` undoes `Parameter.WrittenAs`. -/
theorem undoes_read : Undoes (read (ν := ν)) WrittenAs :=
  Undoes.record named_shape undoes_readField fun _ _ => ofDraft_eq

end Parameter

/-! ## Descriptors

`Descriptor.read` keeps the datum, reads a reference from it, and reads a parameter only if this
fails. -/

namespace Descriptor

/-- The content of each field of a reference. -/
def referenceContent (target : String) (name : Option String) :
    (f : referenceShape.Field) → referenceShape.Content f
  | .target => target
  | .name => name

/-- The layout of references. The target is required, the name is optional. -/
def referenceLayout : Layout referenceShape where
  form
    | .target => Form.text
    | .name => Form.text.optional
  default?
    | .target => none
    | .name => some none

/-- The descriptor is written as the datum. An inline parameter has no key `$ref`, but it may have
other keys that are not labels of its fields. -/
def WrittenAs : Form Descriptor
  | .reference target name, d =>
    ∃ es, d = .ofEntries es ∧ referenceLayout.Writes (referenceContent target name) es
  | .inline p, d =>
    ∃ es, d = .ofEntries es ∧ Parameter.layout.Writes p.content es ∧ "$ref" ∉ es.keys

theorem named_referenceShape : referenceShape.Named := by
  intro f
  cases f <;> rfl

theorem undoes_readReferenceField (f : referenceShape.Field) :
    Undoes (readReferenceField f) (referenceLayout.form f) := by
  cases f with
  | target => exact Undoes.text (ν := Datum)
  | name => exact (Undoes.text (ν := Datum)).optional Form.solid_text

variable {es : Entries Datum}

/-- `readReference` returns the reference from a mapping that writes it. -/
theorem readReference_of_writes {target : String} {name : Option String}
    (h : referenceLayout.Writes (referenceContent target name) es) :
    readReference (.ofEntries es) = pure (.reference target name) := by
  have hor := Shape.Draft.fill_or_default h
  have htarget := Shape.Draft.require_of_or (hor ReferenceField.target)
  have hname : Option.join _ = name := join_of_or (hor ReferenceField.name)
  have hfields := Datum.readFields_fillable named_referenceShape
    (.of_writes undoes_readReferenceField h)
  rw [Datum.ofEntries, readReference, hfields, pure_bind, htarget, hname]
  rfl

/-- `readReference` fails for a mapping without `$ref`, because the target is required. The entries
can be read into a draft, but the draft has no target. -/
theorem readReference_of_not_mem {p : Parameter} (h : Parameter.layout.Writes p.content es)
    (htarget : "$ref" ∉ es.keys) :
    ∃ failure, (readReference (.ofEntries es)).outcome = .error failure := by
  -- the target given here does not matter, since only the name is read
  have hfillable : Fillable readReferenceField (referenceContent "" (some p.name)) es .empty := by
    refine ⟨h.distinct, ?_, fun _ _ => rfl⟩
    rintro (_ | _) v hv
    · exact absurd (Entries.isSome_lookup_iff.mp (Option.isSome_of_eq_some hv)) htarget
    · exact undoes_readReferenceField .name (some p.name) v (h.written ParameterField.name hv)
  have hfields := Datum.readFields_fillable named_referenceShape hfillable
  have hrequire : (Shape.Draft.empty.fill (referenceContent "" (some p.name)) es).require
      ReferenceField.target = .error (.missingField "$ref") :=
    Shape.Draft.require_of_eq_none (if_neg htarget)
  rw [Datum.ofEntries, readReference, hfields, pure_bind, hrequire]
  exact ⟨_, rfl⟩

/-- `ofDatum?` returns a reference or an inline parameter from what it is written as. A reference is
found at the first attempt; for an inline parameter this attempt fails and the second succeeds. -/
theorem ofDatum?_of_writtenAs {r : Descriptor} {d : Datum} (h : r.WrittenAs d) :
    ofDatum? d = some r := by
  cases r with
  | reference target name =>
    obtain ⟨es, rfl, hes⟩ := h
    rw [ofDatum?, readReference_of_writes hes]
    rfl
  | inline p =>
    obtain ⟨es, rfl, hes, htarget⟩ := h
    obtain ⟨failure, hfails⟩ := readReference_of_not_mem hes htarget
    have hread : Parameter.read (Datum.ofEntries es) = pure p :=
      Parameter.undoes_read p _ ⟨es, rfl, hes⟩ _ rfl
    rw [ofDatum?, hfails, hread]
    rfl

variable {ν : Type} [Source ν] [Showing ν] [LawfulSource ν]

/-- `Descriptor.read` undoes `Descriptor.WrittenAs`. -/
theorem undoes_read : Undoes (read (ν := ν)) WrittenAs := by
  intro r d h v hv
  rw [read, LawfulSource.datum d v hv, pure_bind, ofDatum?_of_writtenAs h]

end Descriptor

/-! ## Operations and paths

All fields of `Operation` and `PathItem` may be left out. The parameters are lists of
descriptors. -/

namespace Operation

/-- The content of each field of the operation. -/
def content (o : Operation) : (f : OperationField) → f.Content
  | .id => o.id
  | .summary => o.summary
  | .description => o.description
  | .tags => o.tags
  | .consumes => o.consumes
  | .parameters => o.parameters
  | .deprecated => o.deprecated

/-- The form of each field. -/
def form : (f : OperationField) → Form f.Content
  | .id | .summary | .description => Form.text.optional
  | .tags | .consumes => Form.text.items
  | .parameters => Form.items Descriptor.WrittenAs
  | .deprecated => Form.flag

/-- The content of a field that is left out. -/
def default? : (f : OperationField) → Option f.Content
  | .id | .summary | .description => some none
  | .tags | .consumes => some []
  | .parameters => some []
  | .deprecated => some false

/-- The layout of operations. -/
def layout : Layout shape := ⟨form, default?⟩

/-- The operation is written as the datum. -/
def WrittenAs : Form Operation := layout.record content

theorem named_shape : shape.Named := by
  intro f
  cases f <;> rfl

theorem ofDraft_eq {o : Operation} {d : shape.Draft}
    (h : ∀ f, (d f).or (default? f) = some (o.content f)) : ofDraft d = o := by
  obtain ⟨id, summary, description, tags, consumes, parameters, deprecated⟩ := o
  unfold ofDraft
  congr 1
  · exact join_of_or (h .id)
  · exact join_of_or (h .summary)
  · exact join_of_or (h .description)
  · exact getD_of_or (h .tags)
  · exact getD_of_or (h .consumes)
  · exact getD_of_or (h .parameters)
  · exact getD_of_or (h .deprecated)

variable {ν : Type} [Source ν] [Showing ν] [LawfulSource ν]

theorem undoes_readField (f : shape.Field) : Undoes (readField (ν := ν) f) (layout.form f) := by
  cases f with
  | tags => exact Undoes.text.items
  | consumes => exact Undoes.text.items
  | parameters => exact Descriptor.undoes_read.items
  | deprecated => exact Undoes.flag
  | _ => exact Undoes.text.optional Form.solid_text

/-- `Operation.read` undoes `Operation.WrittenAs`. -/
theorem undoes_read : Undoes (read (ν := ν)) WrittenAs :=
  Undoes.record named_shape undoes_readField fun _ _ h => congrArg Except.ok (ofDraft_eq h)

end Operation

namespace PathItem

/-- The content of each field of the path: one for each `Method`, and the shared descriptors. -/
def content (item : PathItem) : (f : PathItemField) → f.Content
  | .operation method => item.operation? method
  | .parameters => item.parameters

/-- The form of each field. -/
def form : (f : PathItemField) → Form f.Content
  | .operation _ => Form.optional Operation.WrittenAs
  | .parameters => Form.items Descriptor.WrittenAs

/-- The content of a field that is left out. -/
def default? : (f : PathItemField) → Option f.Content
  | .operation _ => some none
  | .parameters => some []

/-- The layout of paths. -/
def layout : Layout shape := ⟨form, default?⟩

/-- The path is written as the datum. -/
def WrittenAs : Form PathItem := layout.record content

theorem named_shape : shape.Named := by
  rintro (method | _)
  · cases method <;> rfl
  · rfl

theorem ofDraft_eq {item : PathItem} {d : shape.Draft}
    (h : ∀ f, (d f).or (default? f) = some (item.content f)) : ofDraft d = item := by
  obtain ⟨operation?, parameters⟩ := item
  unfold ofDraft
  congr 1
  · funext method
    exact join_of_or (h (.operation method))
  · exact getD_of_or (h .parameters)

variable {ν : Type} [Source ν] [Showing ν] [LawfulSource ν]

theorem undoes_readField (f : shape.Field) : Undoes (readField (ν := ν) f) (layout.form f) := by
  cases f with
  | operation method =>
    exact Operation.undoes_read.optional (Layout.solid_record Operation.layout Operation.content)
  | parameters => exact Descriptor.undoes_read.items

/-- `PathItem.read` undoes `PathItem.WrittenAs`. -/
theorem undoes_read : Undoes (read (ν := ν)) WrittenAs :=
  Undoes.record named_shape undoes_readField fun _ _ h => congrArg Except.ok (ofDraft_eq h)

end PathItem

/-! ## Documents

The records at the top. A document has maps of `PathItem`, `Schema` and `Parameter`. -/

namespace Info

/-- The content of each field. -/
def content (info : Info) : InfoField → Option String
  | .title => info.title
  | .description => info.description

/-- The layout of `Info`, with two optional texts. -/
def layout : Layout shape where
  form _ := Form.text.optional
  default? _ := some none

/-- The title and description are written as the datum. -/
def WrittenAs : Form Info := layout.record content

theorem named_shape : shape.Named := by
  intro f
  cases f <;> rfl

theorem ofDraft_eq {info : Info} {d : shape.Draft}
    (h : ∀ f, (d f).or (layout.default? f) = some (info.content f)) : ofDraft d = info := by
  obtain ⟨title, description⟩ := info
  unfold ofDraft
  congr 1
  · exact join_of_or (h .title)
  · exact join_of_or (h .description)

variable {ν : Type} [Source ν] [Showing ν] [LawfulSource ν]

/-- `Info.read` undoes `Info.WrittenAs`. -/
theorem undoes_read : Undoes (read (ν := ν)) WrittenAs :=
  Undoes.record named_shape (fun _ => Undoes.text.optional Form.solid_text) fun _ _ h =>
    congrArg Except.ok (ofDraft_eq h)

end Info

namespace Document

/-- The content of each field of the document. -/
def content (s : Document) : (f : DocumentField) → f.Content
  | .info => s.info
  | .basePath => s.basePath
  | .consumes => s.consumes
  | .paths => s.paths
  | .definitions => s.definitions
  | .parameters => s.parameters

/-- The form of each field. -/
def form : (f : DocumentField) → Form f.Content
  | .info => Info.WrittenAs
  | .basePath => Form.text.optional
  | .consumes => Form.text.items
  | .paths => Form.map PathItem.WrittenAs
  | .definitions => Form.map Schema.WrittenAs
  | .parameters => Form.map Parameter.WrittenAs

/-- The content of a field that is left out. A document without `info` has an `Info` without
texts. -/
def default? : (f : DocumentField) → Option f.Content
  | .info => some (⟨none, none⟩ : Info)
  | .basePath => some none
  | .consumes => some []
  | .paths => some []
  | .definitions => some []
  | .parameters => some []

/-- The layout of documents. -/
def layout : Layout shape := ⟨form, default?⟩

/-- The document is written as the datum. -/
def WrittenAs : Form Document := layout.record content

theorem named_shape : shape.Named := by
  intro f
  cases f <;> rfl

theorem ofDraft_eq {s : Document} {d : shape.Draft}
    (h : ∀ f, (d f).or (default? f) = some (s.content f)) : ofDraft d = s := by
  obtain ⟨info, basePath, consumes, paths, definitions, parameters⟩ := s
  unfold ofDraft
  congr 1
  · exact getD_of_or (h .info)
  · exact join_of_or (h .basePath)
  · exact getD_of_or (h .consumes)
  · exact getD_of_or (h .paths)
  · exact getD_of_or (h .definitions)
  · exact getD_of_or (h .parameters)

variable {ν : Type} [Source ν] [Showing ν] [LawfulSource ν]

theorem undoes_readField (f : shape.Field) : Undoes (readField (ν := ν) f) (layout.form f) := by
  cases f with
  | info => exact Info.undoes_read
  | basePath => exact Undoes.text.optional Form.solid_text
  | consumes => exact Undoes.text.items
  | paths => exact PathItem.undoes_read.map
  | definitions => exact Schema.undoes_read.map
  | parameters => exact Parameter.undoes_read.map

/-- `Document.read` undoes `Document.WrittenAs`. -/
theorem undoes_read : Undoes (read (ν := ν)) WrittenAs :=
  Undoes.record named_shape undoes_readField fun _ _ h => congrArg Except.ok (ofDraft_eq h)

end Document

end SwaggerRequests
