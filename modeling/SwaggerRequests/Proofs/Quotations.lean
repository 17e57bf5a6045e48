import SwaggerRequests.Proofs.StringLiterals
import SwaggerRequests.Proofs.TypeExpressions

/-!
# Names in quotes

The names of parameters and properties are written between single quotes into the texts of a bundle,
as they are. This module determines which names are written so, and when a reader finds the name
again.

A text is divided into `Piece`s, which are bare or quoted. `Bundle.quotations` divides all texts of
the image of typed parameters (`Bundle.texts_image`), and `quoted_mem_quotations_iff` lists its
quoted pieces: the names of parameters, in braces for a placeholder of the path, and the names of
properties that a type writes out (`Parameter.WritesOut`).

`ReadsBack s after` means that a reader of string literals, `readLiteral`, finds the text of the
quoted piece `s` and continues with the pieces after it. By `readsBack_iff` this is the case exactly
if `s` is `Plain`, without quotes, backslashes and line ends. The theorem is therefore an
equivalence.
-/

namespace SwaggerRequests

/-! ## Pieces of a text

Texts as lists of pieces, and the property of a list that all quoted pieces are found again. -/

/-- A piece of a text: part of the language, or a text that is written in quotes. -/
inductive Piece where
  | bare (text : String)
  | quoted (text : String)
  deriving DecidableEq

/-- The text of a piece. A `quoted` one is put in quotes without escapes. -/
def Piece.text : Piece → String
  | .bare text => text
  | .quoted text => "'" ++ text ++ "'"

/-- The texts of the pieces `ps`, concatenated. -/
def textOf (ps : List Piece) : String := String.join (ps.map Piece.text)

variable {ps qs before after : List Piece} {s : String}

@[simp] theorem textOf_nil : textOf [] = "" := rfl

@[simp] theorem textOf_cons (p : Piece) (ps : List Piece) :
    textOf (p :: ps) = p.text ++ textOf ps :=
  String.join_cons

@[simp] theorem textOf_append : textOf (ps ++ qs) = textOf ps ++ textOf qs := by
  rw [textOf, List.map_append, String.join_append]
  rfl

theorem textOf_flatMap {α : Type} (f : α → List Piece) (xs : List α) :
    textOf (xs.flatMap f) = String.join (xs.map fun x => textOf (f x)) := by
  induction xs with
  | nil => rfl
  | cons x xs ih => rw [List.flatMap_cons, textOf_append, ih, List.map_cons, String.join_cons]

/-- `textOf` commutes with `List.intercalate`. -/
theorem textOf_intercalate (sep : String) (pss : List (List Piece)) :
    textOf ([.bare sep].intercalate pss) = sep.intercalate (pss.map textOf) := by
  induction pss with
  | nil => rfl
  | cons ps pss ih =>
    rcases pss with _ | ⟨qs, pss⟩
    · rw [List.intercalate_singleton]
      rfl
    · rw [List.intercalate_cons_cons, textOf_append, textOf_append, ih]
      simp [Piece.text, String.intercalate_cons_cons]

/-- What is not in `sep` is in `sep.intercalate xss` exactly if it is in a member of `xss`. -/
theorem mem_intercalate_iff {α : Type} {sep : List α} {x : α} (hx : x ∉ sep) {xss : List (List α)} :
    x ∈ sep.intercalate xss ↔ ∃ xs ∈ xss, x ∈ xs := by
  induction xss with
  | nil => simp
  | cons xs xss ih =>
    rcases xss with _ | ⟨ys, xss⟩
    · simp
    · rw [List.intercalate_cons_cons, List.mem_append, List.mem_append, ih,
        List.exists_mem_cons_iff]
      simp [hx]

/-- A reader of literals at the quoted piece `s` finds its text and continues with `after`. -/
def ReadsBack (s : String) (after : List Piece) : Prop :=
  readLiteral (textOf (.quoted s :: after)).toList = some (utf16 s.toList, (textOf after).toList)

instance (s : String) (after : List Piece) : Decidable (ReadsBack s after) :=
  inferInstanceAs (Decidable (_ = _))

/-- Every quoted piece of `ps` satisfies `ReadsBack`. -/
def Faithful (ps : List Piece) : Prop :=
  ∀ before s after, ps = before ++ .quoted s :: after → ReadsBack s after

/-- A quoted piece is found again exactly if its text is `Plain`. This is `readLiteral_quoted_iff`,
since the text of the quoted piece is the literal. -/
theorem readsBack_iff : ReadsBack s after ↔ Plain s.toList := by
  have htext : (textOf (.quoted s :: after)).toList =
      '\'' :: (s.toList ++ '\'' :: (textOf after).toList) := by
    simp [Piece.text]
  rw [ReadsBack, htext, readLiteral_quoted_iff]

/-- A list of pieces is `Faithful` exactly if all its quoted pieces are `Plain`. Every quoted piece
has some pieces before and after it, and by `readsBack_iff` those after it do not matter. -/
theorem faithful_iff : Faithful ps ↔ ∀ s, .quoted s ∈ ps → Plain s.toList := by
  refine ⟨fun h s hs => ?_, ?_⟩
  · obtain ⟨before, after, hsplit⟩ := List.append_of_mem hs
    exact readsBack_iff.mp (h before s after hsplit)
  · rintro h before s after rfl
    exact readsBack_iff.mpr (h s (List.mem_append_right _ (List.mem_cons_self ..)))

/-! ## Names of properties

The quoted pieces of a type. The walk is the one of `Schema.text?`, into the properties of
objects. -/

mutual
/-- The pieces of a type expression. The names in its keys are quoted. -/
def TypeExpression.pieces : TypeExpression → List Piece
  | .name word => [.bare word]
  | .array item => item.pieces ++ [.bare "[]"]
  | .object members =>
    .bare "\x7b" :: ([.bare ";"].intercalate (memberPieces members) ++ [.bare "\x7d"])
/-- The pieces of each member of an object type, beginning with its key. -/
def memberPieces : List (MemberKey × TypeExpression) → List (List Piece)
  | [] => []
  | (key, type) :: members =>
    (.quoted key.name :: .bare (if key.required then "" else "?") :: .bare ":" :: type.pieces) ::
      memberPieces members
end

mutual
/-- The text of the pieces is `TypeExpression.text`. -/
theorem TypeExpression.textOf_pieces : ∀ type : TypeExpression, textOf type.pieces = type.text
  | .name word => by simp [TypeExpression.pieces, TypeExpression.text, Piece.text]
  | .array item => by
    simp [TypeExpression.pieces, TypeExpression.text, Piece.text, item.textOf_pieces]
  | .object members => by
    simp [TypeExpression.pieces, TypeExpression.text, Piece.text, textOf_intercalate,
      map_textOf_memberPieces members, Typing.objectType, String.append_assoc]
theorem map_textOf_memberPieces : ∀ members : List (MemberKey × TypeExpression),
    (memberPieces members).map textOf = memberTexts members
  | [] => by simp [memberPieces, memberTexts]
  | (key, type) :: members => by
    simp [memberPieces, memberTexts, Piece.text, MemberKey.text, type.textOf_pieces,
      map_textOf_memberPieces members, String.append_assoc]
end

/-- The schema, or one that is reached by `Inside`, is `WrittenOut` with a property `name`. -/
def Schema.WritesOut (s : Schema) (name : String) : Prop :=
  ∃ t, Relation.ReflTransGen Schema.Inside s t ∧ t.WrittenOut ∧ name ∈ t.properties.map Prod.fst

/-- The parameter has a schema that `WritesOut` the name. -/
def Parameter.WritesOut (p : Parameter) (name : String) : Prop :=
  ∃ s, p.schema = some s ∧ s.WritesOut name

variable {name : String}

/-- A primitive type has no quoted piece. -/
theorem quoted_not_mem_primitiveExpression (type format : Option String) :
    .quoted name ∉ (primitiveExpression type format).pieces := by
  rw [primitiveExpression]
  split <;> simp [TypeExpression.pieces]

namespace Schema

/-- A name is written out by a schema if it is `WrittenOut` and the name is that of a property or
written out by one. -/
theorem writesOut_iff {s : Schema} :
    s.WritesOut name ↔
      s.WrittenOut ∧ ∃ p ∈ s.properties, p.1 = name ∨ p.2.WritesOut name := by
  have hinside : s.WritesOut name ↔ (s.WrittenOut ∧ name ∈ s.properties.map Prod.fst) ∨
      (s.WrittenOut ∧ ∃ p ∈ s.properties, p.2.WritesOut name) := exists_inside_iff
  rw [hinside, ← and_or_left, List.mem_map]
  refine and_congr_right fun _ => ?_
  refine ⟨?_, ?_⟩
  · rintro (⟨p, hp, hname⟩ | ⟨p, hp, hinside⟩)
    · exact ⟨p, hp, Or.inl hname⟩
    · exact ⟨p, hp, Or.inr hinside⟩
  · rintro ⟨p, hp, hname | hinside⟩
    · exact Or.inl ⟨p, hp, hname⟩
    · exact Or.inr ⟨p, hp, hinside⟩

theorem not_writesOut {s : Schema} (h : ¬ s.WrittenOut) : ¬ s.WritesOut name :=
  fun hname => h (writesOut_iff.mp hname).1

/-- The quoted pieces of `memberPieces` are the names of the properties, and the names that these
`WritesOut`. -/
theorem quoted_mem_memberPieces_iff {required : List String} {properties : List (String × Schema)}
    {members : List (MemberKey × TypeExpression)}
    (h : ∀ p ∈ properties, ∀ type, p.2.expression? = some type →
      (.quoted name ∈ type.pieces ↔ p.2.WritesOut name))
    (hmembers : memberExpressions? required properties = some members) :
    (∃ ps ∈ memberPieces members, .quoted name ∈ ps) ↔
      ∃ p ∈ properties, p.1 = name ∨ p.2.WritesOut name := by
  induction properties generalizing members with
  | nil =>
    rw [memberExpressions?] at hmembers
    obtain rfl := Option.some.inj hmembers
    simp [memberPieces]
  | cons p properties ih =>
    obtain ⟨key, schema⟩ := p
    obtain ⟨hhead, htail⟩ := List.forall_mem_cons.mp h
    rw [memberExpressions?, Option.bind_eq_some_iff] at hmembers
    obtain ⟨type, htype, hmembers⟩ := hmembers
    obtain ⟨members', hmembers', rfl⟩ := Option.map_eq_some_iff.mp hmembers
    rw [memberPieces, List.exists_mem_cons_iff, List.exists_mem_cons_iff, ih htail hmembers',
      ← hhead type htype]
    simp [eq_comm]

/-- `itemExpression` has no quoted piece. -/
theorem quoted_not_mem_itemExpression (s : Schema) : .quoted name ∉ s.itemExpression.pieces := by
  unfold itemExpression
  rcases s.reference with _ | reference
  · exact quoted_not_mem_primitiveExpression s.type s.format
  · simp [TypeExpression.pieces]

/-- The quoted pieces in the type of a schema are the names that it `WritesOut`. The induction is
`Schema.induction`. An array or an item has no quoted pieces; a written-out object has those of its
members. -/
theorem quoted_mem_pieces_iff (s : Schema) :
    ∀ type, s.expression? = some type → (.quoted name ∈ type.pieces ↔ s.WritesOut name) := by
  induction s using Schema.induction with
  | node s ih =>
    intro type h
    rcases expression?_inv h with ⟨hs, members, hmembers, rfl⟩ | ⟨hs, htype⟩
    · rw [writesOut_iff, ← quoted_mem_memberPieces_iff ih hmembers, TypeExpression.pieces]
      simp [mem_intercalate_iff, hs]
    · have hpieces : .quoted name ∉ type.pieces := by
        rcases htype with rfl | rfl
        · exact quoted_not_mem_itemExpression _
        · simp [TypeExpression.pieces, quoted_not_mem_itemExpression]
      exact ⟨fun hname => absurd hname hpieces, fun hname => absurd hname (not_writesOut hs)⟩

end Schema

/-- The quoted pieces in the type of a parameter are the names that it `WritesOut`. -/
theorem Parameter.quoted_mem_pieces_iff {p : Parameter} {type : TypeExpression}
    (h : p.expression? = some type) : .quoted name ∈ type.pieces ↔ p.WritesOut name := by
  obtain ⟨own, location, required, description, tag, format, schema, items⟩ := p
  rcases schema with _ | schema
  · -- without a schema there are no properties
    have hwrites : ¬ WritesOut ⟨own, location, required, description, tag, format, none, items⟩
        name := by
      rintro ⟨s, hs, -⟩
      cases hs
    rcases items with _ | items
    · obtain rfl := Option.some.inj h
      have hpieces := @quoted_not_mem_primitiveExpression name tag format
      exact ⟨fun hname => absurd hname hpieces, fun hname => absurd hname hwrites⟩
    · obtain rfl := Option.some.inj h
      simp [TypeExpression.pieces, Schema.quoted_not_mem_itemExpression, hwrites]
  · rw [schema.quoted_mem_pieces_iff type h]
    simp [WritesOut]

/-! ## The pieces of a bundle

For each fragment its pieces, with one lemma for their text and one for the quoted pieces among
them. -/

namespace TypedParameter

/-- The pieces of the type of the parameter. -/
def typePieces (t : TypedParameter) : List Piece :=
  (t.parameter.expression?.map TypeExpression.pieces).getD []

/-- The pieces of `TypedParameter.member`. -/
def signaturePieces (t : TypedParameter) : List Piece :=
  .bare ("\n    /** " ++ commentText (t.parameter.description.getD "") ++ " */\n    " ++
      t.binding ++ (if t.parameter.required then "" else "?") ++ ":") ::
    (t.typePieces ++ [.bare ","])

/-- The pieces of `TypedParameter.entry`. -/
def entryPieces (t : TypedParameter) : List Piece :=
  [.quoted t.parameter.name, .bare (":" ++ t.value)]

/-- The pieces of `TypedParameter.formData`, with the name quoted twice. -/
def formDataPieces (t : TypedParameter) : List Piece :=
  [.bare ("if(" ++ t.value ++ ")\x7b\n" ++
      "        if(Object.prototype.toString.call(" ++ t.value ++ ") === '[object Array]')\x7b\n" ++
      "          for (const item of " ++ t.value ++ ") \x7b\n" ++ "            data.append("),
    .quoted t.parameter.name,
    .bare (",item as any)\n" ++ "          \x7d\n" ++ "        \x7d else \x7b\n" ++
      "          data.append("),
    .quoted t.parameter.name,
    .bare ("," ++ t.value ++ " as any)\n" ++ "        \x7d\n" ++ "      \x7d\n")]

/-- The pieces of `TypedParameter.replacement`, with the name quoted in braces. -/
def replacementPieces (t : TypedParameter) : List Piece :=
  [.bare "url = url.replace(", .quoted ("\x7b" ++ t.parameter.name ++ "\x7d"),
    .bare ("," ++ t.value ++ "+'')\n")]

/-- The pieces of `TypedParameter.bodyText`. The name of a single parameter is not written. -/
def bodyPieces : List TypedParameter → List Piece
  | [] => []
  | [t] => [.bare t.value]
  | t :: u :: ts =>
    .bare "\x7b" :: ([.bare ","].intercalate ((t :: u :: ts).map entryPieces) ++ [.bare "\x7d"])

variable (t : TypedParameter)

theorem textOf_typePieces : textOf t.typePieces = t.type := by
  obtain ⟨type, htype, htext⟩ := t.exists_expression
  rw [typePieces, htype, ← htext]
  exact type.textOf_pieces

/-- The quoted pieces of the type are the names that the parameter `WritesOut`. -/
theorem quoted_mem_typePieces_iff : .quoted name ∈ t.typePieces ↔ t.parameter.WritesOut name := by
  obtain ⟨type, htype, -⟩ := t.exists_expression
  rw [typePieces, htype]
  exact Parameter.quoted_mem_pieces_iff htype

theorem textOf_signaturePieces : textOf t.signaturePieces = t.member := by
  unfold member Fragment.member
  simp only [signaturePieces, textOf_cons, textOf_append, textOf_nil, textOf_typePieces, Piece.text,
    String.append_assoc, String.append_empty]

theorem textOf_entryPieces : textOf t.entryPieces = t.entry := by
  have hclose : "':" = "'" ++ ":" := by decide +kernel
  unfold entry Fragment.entry
  simp only [hclose, entryPieces, textOf_cons, textOf_nil, Piece.text, value, String.append_assoc,
    String.append_empty, -String.reduceAppend]

theorem textOf_formDataPieces : textOf t.formDataPieces = t.formData := by
  have hitem : "            data.append('" = "            data.append(" ++ "'" := by decide +kernel
  have hitem' : "',item as any)\n" = "'" ++ ",item as any)\n" := by decide +kernel
  have hvalue : "          data.append('" = "          data.append(" ++ "'" := by decide +kernel
  have hvalue' : "'," = "'" ++ "," := by decide +kernel
  unfold formData Fragment.formData
  simp only [hitem, hitem', hvalue, hvalue', formDataPieces, textOf_cons, textOf_nil, Piece.text,
    value, String.append_assoc, String.append_empty, -String.reduceAppend]

theorem textOf_replacementPieces : textOf t.replacementPieces = t.replacement := by
  have hopen : "url = url.replace('\x7b" = "url = url.replace(" ++ "'" ++ "\x7b" := by
    decide +kernel
  have hclose : "\x7d'," = "\x7d" ++ "'" ++ "," := by decide +kernel
  unfold replacement Fragment.replacement
  simp only [hopen, hclose, replacementPieces, textOf_cons, textOf_nil, Piece.text, value,
    String.append_assoc, String.append_empty, -String.reduceAppend]

theorem textOf_bodyPieces (ts : List TypedParameter) : textOf (bodyPieces ts) = bodyText ts := by
  match ts with
  | [] => rfl
  | [t] => simp [bodyPieces, bodyText, Piece.text]
  | t :: u :: ts =>
    simp [bodyPieces, bodyText, Piece.text, textOf_intercalate, textOf_entryPieces,
      Function.comp_def, String.append_assoc]

theorem quoted_mem_signaturePieces_iff :
    .quoted s ∈ t.signaturePieces ↔ t.parameter.WritesOut s := by
  simp [signaturePieces, quoted_mem_typePieces_iff]

theorem quoted_mem_entryPieces_iff : .quoted s ∈ t.entryPieces ↔ t.parameter.name = s := by
  simp [entryPieces, eq_comm]

theorem quoted_mem_formDataPieces_iff : .quoted s ∈ t.formDataPieces ↔ t.parameter.name = s := by
  simp [formDataPieces, eq_comm]

theorem quoted_mem_replacementPieces_iff :
    .quoted s ∈ t.replacementPieces ↔ "\x7b" ++ t.parameter.name ++ "\x7d" = s := by
  simp [replacementPieces, eq_comm]

/-- The quoted pieces of `bodyPieces ts` are the names of the parameters, if there are several. -/
theorem quoted_mem_bodyPieces_iff {ts : List TypedParameter} :
    .quoted s ∈ bodyPieces ts ↔ 1 < ts.length ∧ ∃ t ∈ ts, t.parameter.name = s := by
  match ts with
  | [] => simp [bodyPieces]
  | [t] => simp [bodyPieces]
  | t :: u :: ts =>
    rw [bodyPieces, List.mem_cons, List.mem_append, mem_intercalate_iff (by simp)]
    simp [quoted_mem_entryPieces_iff]

theorem mem_located_iff {l : Location} {ts : List TypedParameter} {t : TypedParameter} :
    t ∈ located l ts ↔ t ∈ ts ∧ t.parameter.location = l := by
  rw [located, List.mem_filter, beq_iff_eq]

end TypedParameter

open TypedParameter (located)

namespace Bundle

/-- All texts of the bundle apart from `imports`. -/
def texts (b : Bundle) : List String :=
  b.signature :: b.formData :: b.replacements :: b.body :: (b.query ++ b.headers)

/-- The pieces of the texts of `Bundle.image ts`, text by text. -/
def quotations (ts : List TypedParameter) : List (List Piece) :=
  ts.flatMap TypedParameter.signaturePieces ::
    (located .formData ts).flatMap TypedParameter.formDataPieces ::
    (located .path ts).flatMap TypedParameter.replacementPieces ::
    TypedParameter.bodyPieces (located .body ts) ::
    ((located .query ts).map TypedParameter.entryPieces ++
      (located .header ts).map TypedParameter.entryPieces)

/-- The texts of `Bundle.image ts` are those of `Bundle.quotations ts`. There is one equation for
each text, `textOf_signaturePieces` to `textOf_bodyPieces`. -/
theorem texts_image (ts : List TypedParameter) :
    (Bundle.image ts).texts = (quotations ts).map textOf := by
  simp [texts, quotations, Bundle.image, textOf_flatMap, TypedParameter.textOf_signaturePieces,
    TypedParameter.textOf_formDataPieces, TypedParameter.textOf_replacementPieces,
    TypedParameter.textOf_bodyPieces, TypedParameter.textOf_entryPieces, Function.comp_def]

end Bundle

/-- The quoted text for the name of the parameter: in braces for `Location.path`, and `none` for a
body that is not `merged`. -/
def Parameter.label? (merged : Bool) (p : Parameter) : Option String :=
  match p.location with
  | .path => some ("\x7b" ++ p.name ++ "\x7d")
  | .body => if merged then some p.name else none
  | .query | .header | .formData => some p.name

/-- `Parameter.label?` location by location. -/
theorem Parameter.label?_eq_some_iff {merged : Bool} {p : Parameter} :
    p.label? merged = some s ↔
      (p.location = .formData ∧ p.name = s) ∨
      (p.location = .path ∧ "\x7b" ++ p.name ++ "\x7d" = s) ∨
      (p.location = .body ∧ p.name = s ∧ merged = true) ∨
      (p.location = .query ∧ p.name = s) ∨ (p.location = .header ∧ p.name = s) := by
  rcases h : p.location <;> simp [label?, h]
  exact and_comm

/-- The quoted pieces of `Bundle.quotations ts` are the `label?` of each parameter, and the names
that it `WritesOut`. Each location contributes to one of the texts, and the signature contributes
for all locations. -/
theorem quoted_mem_quotations_iff (ts : List TypedParameter) :
    (∃ ps ∈ Bundle.quotations ts, .quoted s ∈ ps) ↔
      ∃ t ∈ ts, t.parameter.WritesOut s ∨
        t.parameter.label? (severalBodies (ts.map TypedParameter.parameter)) = some s := by
  have hentries : ∀ us : List TypedParameter,
      (∃ ps ∈ us.map TypedParameter.entryPieces, .quoted s ∈ ps) ↔
        ∃ t ∈ us, t.parameter.name = s := by
    intro us
    simp [TypedParameter.quoted_mem_entryPieces_iff]
  rw [Bundle.quotations, List.exists_mem_cons_iff, List.exists_mem_cons_iff,
    List.exists_mem_cons_iff, List.exists_mem_cons_iff, ← List.map_append, hentries]
  simp only [List.mem_flatMap, List.mem_append, or_and_right,
    TypedParameter.quoted_mem_signaturePieces_iff, TypedParameter.quoted_mem_formDataPieces_iff,
    TypedParameter.quoted_mem_replacementPieces_iff, TypedParameter.quoted_mem_bodyPieces_iff,
    TypedParameter.mem_located_iff,
    Parameter.label?_eq_some_iff, severalBodies_map, decide_eq_true_eq, and_or_left, exists_or,
    and_assoc]
  -- location by location, the two sides differ in the order of the conjuncts for the body only
  refine or_congr_right (or_congr_right (or_congr_right (or_congr_left ⟨?_, ?_⟩)))
  · rintro ⟨hseveral, t, ht, hbody, hname⟩
    exact ⟨t, ht, hbody, hname, hseveral⟩
  · rintro ⟨t, ht, hbody, hname, hseveral⟩
    exact ⟨hseveral, t, ht, hbody, hname⟩

/-- The label of a parameter is `Plain` exactly if its name is, since braces are plain. -/
theorem Parameter.plain_label?_iff {merged : Bool} {p : Parameter} :
    (∀ label, p.label? merged = some label → Plain label.toList) ↔
      ((p.location = .body → merged = true) → Plain p.name.toList) := by
  have hbraces : Plain ('\x7b' :: (p.name.toList ++ ['\x7d'])) ↔ Plain p.name.toList := by
    rw [plain_cons, plain_append]
    exact ⟨fun h => h.2.1, fun h => ⟨by decide, h, by decide⟩⟩
  rcases h : p.location <;> simp [label?, h, hbraces]

/-- **Names in quotes.** Let `b` be a bundle, the image of the typed parameters that satisfy
`IsEmitted`.

* Its texts are the texts of `Bundle.quotations`, whose quoted pieces are the labels of the
  parameters and the names that their types write out.
* Each quoted piece `ReadsBack` exactly if it is `Plain`.
* So all texts are `Faithful` exactly if all written-out names and all names of emitted parameters
  are `Plain`, except for the name of a single parameter of the body. -/
theorem bundle_quotations_faithful_iff (ds : List Descriptor) (useHeaders : Bool)
    (document : Document) (b : Bundle) (h : (bundle ds useHeaders document).result = .ok b) :
    ∃ typed : List TypedParameter, b = Bundle.image typed ∧
      (∀ p, p ∈ typed.map TypedParameter.parameter ↔
        ∃ d, IsEmitted ds useHeaders document d p) ∧
      b.texts = (Bundle.quotations typed).map textOf ∧
      (∀ s, (∃ ps ∈ Bundle.quotations typed, .quoted s ∈ ps) ↔
        ∃ t ∈ typed, t.parameter.WritesOut s ∨
          t.parameter.label? (severalBodies (typed.map TypedParameter.parameter)) = some s) ∧
      (∀ ps ∈ Bundle.quotations typed, ∀ before s after, ps = before ++ .quoted s :: after →
        (ReadsBack s after ↔ Plain s.toList)) ∧
      ((∀ ps ∈ Bundle.quotations typed, Faithful ps) ↔
        ∀ d p, IsEmitted ds useHeaders document d p →
          (∀ name, p.WritesOut name → Plain name.toList) ∧
          ((p.location = .body → severalBodies (typed.map TypedParameter.parameter) = true) →
            Plain p.name.toList)) := by
  obtain ⟨typed, rfl, hemitted⟩ := exists_image_of_bundle h
  have hquoted := fun s => @quoted_mem_quotations_iff s typed
  refine ⟨typed, rfl, hemitted, Bundle.texts_image typed, hquoted,
    fun ps _ before s after _ => readsBack_iff, ?_, ?_⟩
  · intro hfaithful d p hp
    obtain ⟨t, ht, rfl⟩ := List.mem_map.mp ((hemitted p).mpr ⟨d, hp⟩)
    have hplain : ∀ s, (∃ ps ∈ Bundle.quotations typed, .quoted s ∈ ps) → Plain s.toList :=
      fun s ⟨ps, hps, hs⟩ => faithful_iff.mp (hfaithful ps hps) s hs
    refine ⟨fun name hname => ?_, Parameter.plain_label?_iff.mp fun label hlabel => ?_⟩
    · exact hplain name ((hquoted name).mpr ⟨t, ht, Or.inl hname⟩)
    · exact hplain label ((hquoted label).mpr ⟨t, ht, Or.inr hlabel⟩)
  · intro hnames ps hps
    refine faithful_iff.mpr fun s hs => ?_
    obtain ⟨t, ht, hname⟩ := (hquoted s).mp ⟨ps, hps, hs⟩
    obtain ⟨d, hp⟩ := (hemitted t.parameter).mp (List.mem_map_of_mem ht)
    obtain ⟨hproperties, hlabel⟩ := hnames d t.parameter hp
    rcases hname with hname | hname
    · exact hproperties s hname
    · exact Parameter.plain_label?_iff.mpr hlabel s hname

/-- A body with a property `first "name"` that ends with a line separator, U+2028. -/
def petParameter : Parameter :=
  let pet : Schema :=
    { Schema.any with
      type := some "object"
      properties := [("first \"name\"\u2028", { Schema.any with type := some "string" })] }
  ⟨"pet", .body, true, none, none, none, some pet, none⟩

/-- Parameters for each place where a name is quoted. -/
def placedParameters : List Parameter :=
  [textAt .query "per-page", textAt .header "X-Trace (1)", textAt .path "pet id",
    textAt .formData "photo of `😀`", petParameter, textAt .body "note;"]

/-- All names of `placedParameters` are plain. -/
theorem bundle_quotations_faithful_placedParameters :
    ∃ b, (bundle (placedParameters.map .inline) true Document.empty).result = .ok b ∧
      b.body = "\x7b'pet':params['pet'],'note;':params['note']\x7d" ∧
      b.replacements = "url = url.replace('\x7bpet id\x7d',params['petId']+'')\n" ∧
      ∃ typed : List TypedParameter, b = Bundle.image typed ∧
        ∀ ps ∈ Bundle.quotations typed, Faithful ps := by
  obtain ⟨b, hb, hbody, hreplacements⟩ :
      ∃ b, (bundle (placedParameters.map .inline) true Document.empty).result = .ok b ∧
        b.body = "\x7b'pet':params['pet'],'note;':params['note']\x7d" ∧
        b.replacements = "url = url.replace('\x7bpet id\x7d',params['petId']+'')\n" := by
    refine ⟨_, rfl, ?_, ?_⟩ <;> decide +kernel
  obtain ⟨typed, himage, -, -, -, -, hiff⟩ :=
    bundle_quotations_faithful_iff (placedParameters.map .inline) true Document.empty b hb
  refine ⟨b, hb, hbody, hreplacements, typed, himage, hiff.mpr fun d p hp => ?_⟩
  have hresolved : (keptDescriptors (placedParameters.map .inline)).mapM
      (Descriptor.resolve Document.empty) = .ok placedParameters := rfl
  have hp : p ∈ placedParameters := hp.mem_resolved hresolved
  have hnames : ∀ p ∈ placedParameters, Plain p.name.toList := by decide +kernel
  refine ⟨fun name hname => ?_, fun _ => hnames p hp⟩
  have hschemas : ∀ p ∈ placedParameters, p.schema = none ∨ p = petParameter := by
    intro p hp
    simp only [placedParameters, List.mem_cons, List.not_mem_nil, or_false] at hp
    rcases hp with rfl | rfl | rfl | rfl | rfl | rfl
    case inr.inr.inr.inr.inl => exact Or.inr rfl
    all_goals exact Or.inl rfl
  rcases hschemas p hp with hschema | rfl
  · obtain ⟨s, hs, -⟩ := hname
    rw [hschema] at hs
    cases hs
  · obtain rfl : name = "first \"name\"\u2028" := by
      have hquoted := (Parameter.quoted_mem_pieces_iff rfl).mpr hname
      simpa [TypeExpression.pieces, memberPieces, primitiveExpression] using hquoted
    decide +kernel

/-- For the name `it's` the literal denotes `it`, and the reader continues with the rest of the
name. -/
theorem quotation_cut_short :
    ∃ b, (bundle [.inline (textAt .query "it's")] false Document.empty).result = .ok b ∧
      b.query = ["'it's':params['itS']"] ∧
      (∃ d p, IsEmitted [.inline (textAt .query "it's")] false Document.empty d p ∧
        p.name = "it's" ∧ ¬ Plain p.name.toList) ∧
      readLiteral "'it's':params['itS']".toList =
        some (utf16 "it".toList, "s':params['itS']".toList) := by
  refine ⟨_, rfl, ?_, ?_, ?_⟩
  · decide +kernel
  · have hresolved : (keptDescriptors [.inline (textAt .query "it's")]).mapM
        (Descriptor.resolve Document.empty) = .ok [textAt .query "it's"] := rfl
    have hused : (textAt .query "it's").location ≠ .header := by decide
    obtain ⟨d, hp⟩ := exists_isEmitted hresolved (List.mem_singleton.mpr rfl) fun _ => hused
    exact ⟨d, _, hp, rfl, by decide +kernel⟩
  · decide +kernel

end SwaggerRequests
