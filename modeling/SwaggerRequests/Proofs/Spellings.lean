import SwaggerRequests.Reading.FromNode
import SwaggerRequests.Proofs.Forms

/-!
# Nodes that spell a datum

The nodes of a YAML document are a `LawfulSource`, like the data of `Forms`. `Node.Spells n node d`
says that `node` has no tags and no aliases, that its sequences and mappings are the lists and
mappings of the datum `d`, nested at most `n` deep, and that each of its scalars means a datum
without help (`Means`).

An operation of `Source Spot` that finds a value in a datum finds it in every spot whose node spells
the datum, so `Shows s d` is `s.node.Spells s.depth d`. The instance is assembled from one lemma for
each operation: `textAs_of_shows`, `readFlag_of_shows`, `readChoice_of_shows`,
`readOptional_of_shows`, `readItems_of_shows`, `readEntries_of_shows`, `readRecord_of_shows` and
`readDatum_of_shows`.

Two arguments repeat. `follow_of_shows` says that no alias has to be followed, since an alias spells
nothing. And `enter_of_depth` says that `Spot.enter` does not refuse: `Spells (n + 1)` of a
collection implies `Spells n` of its members, which is exactly the budget that the spots of the
members have.
-/

namespace SwaggerRequests

open Reading

variable {α : Type}

/-- If `R a b` and `Q c b` imply `T a c`, then `List.Forall₂ R as bs` and `List.Forall₂ Q cs bs`
imply `List.Forall₂ T as cs`. -/
theorem forall₂_through {β γ : Type} {R : α → β → Prop} {Q : γ → β → Prop} {T : α → γ → Prop}
    (h : ∀ a b c, R a b → Q c b → T a c) {as : List α} {bs : List β} {cs : List γ}
    (hR : List.Forall₂ R as bs) (hQ : List.Forall₂ Q cs bs) : List.Forall₂ T as cs := by
  induction hR generalizing cs with
  | nil =>
    cases hQ
    exact .nil
  | cons ha _ ih =>
    cases hQ with
    | cons hc hcs => exact .cons (h _ _ _ ha hc) (ih hcs)

/-- What `R` implies of its second argument holds for all members of the second list. -/
theorem forall_of_forall₂ {β : Type} {R : α → β → Prop} {P : β → Prop}
    (hP : ∀ a b, R a b → P b) {as : List α} {bs : List β} (h : List.Forall₂ R as bs) :
    ∀ b ∈ bs, P b := by
  induction h with
  | nil => exact fun _ hb => absurd hb List.not_mem_nil
  | cons hab _ ih => exact List.forall_mem_cons.mpr ⟨hP _ _ hab, ih⟩

/-! ## What scalars mean

The inversion of `resolvePlain` and `resolveScalar` for each kind of datum. -/

namespace Yaml

theorem resolvePlain_eq_null_iff {s : String} :
    resolvePlain s = .null ↔ (s.isEmpty || isNullText s) = true := by
  unfold resolvePlain
  grind

/-- If `resolvePlain s` is a text, it is `s` itself. -/
theorem eq_of_resolvePlain_eq_text {s t : String} (h : resolvePlain s = .text t) : s = t := by
  unfold resolvePlain at h
  grind

theorem boolean?_of_resolvePlain {s : String} {b : Bool} (h : resolvePlain s = .boolean b) :
    boolean? s = some b := by
  unfold resolvePlain at h
  grind

/-- `resolvePlain` returns leaves only, no lists and no mappings. -/
theorem depth_resolvePlain (s : String) : (resolvePlain s).depth = 0 := by
  unfold resolvePlain
  split
  · rfl
  split
  · rfl
  split
  · rfl
  split
  · rfl
  split <;> rfl

/-- The scalar `text` of the given style, without a tag, resolves to the datum `d`. Integers of more
than 64 bits are excluded, because `Spot.scalarDatum` refuses them. -/
def Means (style : Style) (text : String) (d : Datum) : Prop :=
  resolveScalar none style text = .ok d ∧ ∀ n, d = .integer n → Spot.isWide n = false

namespace Means

variable {style : Style} {text : String} {d : Datum}

/-- A plain scalar means what `resolvePlain` returns, and one in any other style means its text. -/
theorem plain_or_text (h : Means style text d) :
    style = .plain ∧ resolvePlain text = d ∨ style ≠ .plain ∧ .text text = d := by
  have hd : (if style == .plain then resolvePlain text else .text text) = d := Except.ok.inj h.1
  by_cases hstyle : style = .plain
  · rw [hstyle] at hd
    exact Or.inl ⟨hstyle, hd⟩
  · rw [beq_false_of_ne hstyle] at hd
    exact Or.inr ⟨hstyle, hd⟩

theorem text_eq {s : String} (h : Means style text (.text s)) : text = s := by
  rcases h.plain_or_text with ⟨-, h⟩ | ⟨-, h⟩
  · exact eq_of_resolvePlain_eq_text h
  · exact Datum.text.inj h

theorem boolean_eq {b : Bool} (h : Means style text (.boolean b)) :
    style = .plain ∧ boolean? text = some b := by
  rcases h.plain_or_text with ⟨hstyle, h⟩ | ⟨-, h⟩
  · exact ⟨hstyle, boolean?_of_resolvePlain h⟩
  · cases h

theorem isNull_of_null (h : Means style text .null) (m : Mark) :
    Spot.isNull (.scalar m none style text) = .ok true := by
  rcases h.plain_or_text with ⟨rfl, hnull⟩ | ⟨-, hnull⟩
  · exact congrArg Except.ok (resolvePlain_eq_null_iff.mp hnull)
  · cases hnull

/-- `Spot.isNull` is false for a scalar that means something else than `Datum.null`. -/
theorem isNull_of_ne (h : Means style text d) (hd : d ≠ .null) (m : Mark) :
    Spot.isNull (.scalar m none style text) = .ok false := by
  rcases h.plain_or_text with ⟨rfl, rfl⟩ | ⟨hstyle, -⟩
  · have htext := mt resolvePlain_eq_null_iff.mpr hd
    exact congrArg Except.ok ((Bool.not_eq_true _).mp htext)
  · cases style with
    | plain => exact absurd rfl hstyle
    | _ => rfl

theorem depth_eq (h : Means style text d) : d.depth = 0 := by
  rcases h.plain_or_text with ⟨-, rfl⟩ | ⟨-, rfl⟩
  · exact depth_resolvePlain text
  · rfl

/-- `Spot.scalarDatum` returns the meaning of the scalar. -/
theorem scalarDatum (h : Means style text d) : Spot.scalarDatum none style text = pure d := by
  rw [Spot.scalarDatum, h.1, Reading.ofExcept, pure_bind]
  cases d with
  | integer n => simp only [h.2 n rfl]; rfl
  | _ => rfl

end Means

/-! ## Spelling

The relation, by recursion on the depth that is allowed, and its inversion for leaves, lists and
mappings. -/

namespace Node

/-- `Spells n node d`: the node has neither tags nor aliases, its collections are nested at most `n`
deep, and it spells the datum `d`. A mapping spells its entries in their order, keys and values
alike. -/
def Spells : Nat → Node → Datum → Prop
  | _, .scalar _ none style text, d => Means style text d
  | n + 1, .sequence _ none items, .list ds => List.Forall₂ (Spells n) items ds
  | n + 1, .mapping _ none entries, .mapping es =>
    List.Forall₂ (fun e e' => Spells n e.1 e'.1 ∧ Spells n e.2 e'.2) entries es
  | _, _, _ => False

namespace Spells

variable {n : Nat} {node : Node} {d : Datum}

/-- A node that spells `d` is a scalar, a sequence or a mapping, and `d` is a leaf, a list or a
mapping accordingly. Every proof about a node begins with this case distinction. -/
theorem scalar_or_sequence_or_mapping (h : Spells n node d) :
    (∃ m style text, node = .scalar m none style text ∧ Means style text d) ∨
    (∃ k m items ds, n = k + 1 ∧ node = .sequence m none items ∧ d = .list ds ∧
      List.Forall₂ (Spells k) items ds) ∨
    ∃ k m entries es, n = k + 1 ∧ node = .mapping m none entries ∧ d = .mapping es ∧
      List.Forall₂ (fun e e' => Spells k e.1 e'.1 ∧ Spells k e.2 e'.2) entries es := by
  unfold Spells at h
  split at h
  · exact Or.inl ⟨_, _, _, rfl, h⟩
  · exact Or.inr (Or.inl ⟨_, _, _, _, rfl, rfl, rfl, h⟩)
  · exact Or.inr (Or.inr ⟨_, _, _, _, rfl, rfl, rfl, h⟩)
  · cases h

/-- A node that spells a datum of depth `0` is a scalar. -/
theorem of_leaf (h : Spells n node d) (hd : d.depth = 0) :
    ∃ m style text, node = .scalar m none style text ∧ Means style text d := by
  rcases h.scalar_or_sequence_or_mapping with h | ⟨_, _, _, _, -, -, rfl, -⟩ |
    ⟨_, _, _, _, -, -, rfl, -⟩
  · exact h
  · cases hd
  · cases hd

theorem of_list {ds : List Datum} (h : Spells n node (.list ds)) :
    ∃ k m items, n = k + 1 ∧ node = .sequence m none items ∧ List.Forall₂ (Spells k) items ds := by
  rcases h.scalar_or_sequence_or_mapping with ⟨_, _, _, -, h⟩ |
    ⟨k, m, items, _, hn, hnode, hd, h⟩ | ⟨_, _, _, _, -, -, hd, -⟩
  · cases h.depth_eq
  · cases hd
    exact ⟨k, m, items, hn, hnode, h⟩
  · cases hd

theorem of_mapping {es : List (Datum × Datum)} (h : Spells n node (.mapping es)) :
    ∃ k m entries, n = k + 1 ∧ node = .mapping m none entries ∧
      List.Forall₂ (fun e e' => Spells k e.1 e'.1 ∧ Spells k e.2 e'.2) entries es := by
  rcases h.scalar_or_sequence_or_mapping with ⟨_, _, _, -, h⟩ | ⟨_, _, _, _, -, -, hd, -⟩ |
    ⟨k, m, entries, _, hn, hnode, hd, h⟩
  · cases h.depth_eq
  · cases hd
  · cases hd
    exact ⟨k, m, entries, hn, hnode, h⟩

/-- The depth of a datum that is spelled within `n` is at most `n`. -/
theorem depth_le (h : Spells n node d) : d.depth ≤ n := by
  induction n generalizing node d with
  | zero =>
    rcases h.scalar_or_sequence_or_mapping with ⟨_, _, _, -, h⟩ | ⟨_, _, _, _, hn, -⟩ |
      ⟨_, _, _, _, hn, -⟩
    · exact Nat.le_of_eq h.depth_eq
    · cases hn
    · cases hn
  | succ n ih =>
    rcases h.scalar_or_sequence_or_mapping with ⟨_, _, _, -, h⟩ | ⟨_, _, _, _, hn, -, rfl, h⟩ |
      ⟨_, _, _, _, hn, -, rfl, h⟩
    · exact h.depth_eq ▸ Nat.zero_le _
    · cases hn
      have hitems := forall_of_forall₂ (fun _ _ hd => ih hd) h
      exact Nat.succ_le_succ (Datum.depthItems_le_iff.mpr hitems)
    · cases hn
      have hvalues := forall_of_forall₂ (fun _ _ he => ih he.2) h
      exact Nat.succ_le_succ (Datum.depthEntries_le_iff.mpr hvalues)

end Spells

end Node

end Yaml

/-! ## Reading nodes

One lemma for each operation of `Source Spot`. In each, the node of the spot spells what the
operation asks for, and the operation finds it. -/

namespace Reading.Spot

open Yaml

/-- A spot shows what its node spells within the depth that is left there. -/
instance : Showing Spot := ⟨fun s d => s.node.Spells s.depth d⟩

/-- A reading that does not fail has no failure to be claimed at a mark. -/
@[simp] theorem claimedAt_pure (m : Mark) (a : α) :
    Reading.claimedAt m (pure a) = (pure a : Reading α) := rfl

@[simp] theorem within_pure (g : Segment) (a : α) :
    Reading.within g (pure a) = (pure a : Reading α) := rfl

variable {s : Spot} {d : Datum}

/-- A spot that shows a datum is not at an alias, so `Spot.follow` returns it. So each operation can
be unfolded at the node itself. -/
theorem follow_of_shows (h : Shows s d) : s.follow = pure s := by
  obtain ⟨document, limit, depth, node⟩ := s
  rcases Node.Spells.scalar_or_sequence_or_mapping h with ⟨_, _, _, hnode, -⟩ |
    ⟨_, _, _, _, -, hnode, -⟩ | ⟨_, _, _, _, -, hnode, -⟩
  all_goals
    change node = _ at hnode
    rw [hnode]
    rfl

/-- `Spot.enter` reduces a positive depth by one. -/
theorem enter_of_depth {k : Nat} (h : s.depth = k + 1) :
    s.enter = pure { s with depth := k } := by
  rw [enter, h]

/-- `Spot.textAs` returns the text that the spot shows, whatever the expectation is called. -/
theorem textAs_of_shows {t : String} (expected : Expected) (h : Shows s (.text t)) :
    textAs expected s = pure t := by
  rw [textAs, follow_of_shows h, pure_bind]
  obtain ⟨m, style, text, hnode, ht⟩ := Node.Spells.of_leaf h rfl
  rw [hnode, ht.text_eq]
  rfl

theorem readFlag_of_shows {b : Bool} (h : Shows s (.boolean b)) : readFlag s = pure b := by
  rw [readFlag, follow_of_shows h, pure_bind]
  obtain ⟨m, style, text, hnode, hs⟩ := Node.Spells.of_leaf h rfl
  obtain ⟨rfl, hb⟩ := hs.boolean_eq
  rw [hnode]
  simp only [mayBeFlag, beq_self_eq_true, Bool.true_or, if_true, hb]
  rfl

/-- `Spot.readChoice` returns the index of the name among `names`. -/
theorem readChoice_of_shows {names : List String} {name : String} {i : Nat}
    (hi : names.findIdx? (· == name) = some i) (h : Shows s (.text name)) :
    readChoice names s = pure i := by
  obtain ⟨m, style, text, hnode, ht⟩ := Node.Spells.of_leaf h rfl
  obtain ⟨document, limit, depth, node⟩ := s
  obtain rfl : node = _ := hnode
  obtain rfl := ht.text_eq
  change Reading.claimedAt m (readChoice.position names text) = _
  rw [readChoice.position, hi]
  rfl

variable {read : Spot → Reading α}

theorem readOptional_of_shows_null : Finds (readOptional read) none .null := by
  intro s h
  obtain ⟨m, style, text, hnode, hs⟩ := Node.Spells.of_leaf h rfl
  rw [readOptional, follow_of_shows h, pure_bind, hnode, hs.isNull_of_null]
  rfl

theorem isNull_of_shows (h : Shows s d) (hd : d ≠ .null) : isNull s.node = .ok false := by
  rcases Node.Spells.scalar_or_sequence_or_mapping h with ⟨m, style, text, hnode, hs⟩ |
    ⟨_, _, _, _, -, hnode, -⟩ | ⟨_, _, _, _, -, hnode, -⟩
  · rw [hnode, hs.isNull_of_ne hd]
  · rw [hnode]
    rfl
  · rw [hnode]
    rfl

/-- `Spot.readOptional` of a datum other than `Datum.null` is what `read` finds there. -/
theorem readOptional_of_shows {a : α} (hd : d ≠ .null) (ha : Finds read a d) :
    Finds (readOptional read) (some a) d := by
  intro s h
  rw [readOptional, follow_of_shows h, pure_bind, isNull_of_shows h hd, ha s h]
  rfl

/-- If `read` returns the members of `as` at the nodes, `Spot.eachItem` returns `as`. -/
theorem eachItem_eq {nodes : List Node} {as : List α} (i : Nat)
    (h : List.Forall₂ (fun node a => read (s.goto node) = pure a) nodes as) :
    eachItem read s i nodes = pure as := by
  induction h generalizing i with
  | nil => rfl
  | cons ha _ ih => rw [eachItem, ha, within_pure, pure_bind, ih, pure_bind]

/-- `Spot.readItems` returns what `read` finds in the members of a list. The items are entered with
one less of the depth, where they show the members of the list. -/
theorem readItems_of_shows {as : List α} {ds : List Datum} (hds : List.Forall₂ (Finds read) as ds) :
    Finds (readItems read) as (.list ds) := by
  intro s h
  obtain ⟨k, m, nodes, hk, hnode, hnodes⟩ := Node.Spells.of_list h
  have hitems : eachItem read { s with depth := k } 0 nodes = pure as :=
    eachItem_eq 0 (forall₂_through (fun _ _ _ hn ha => ha _ hn) hnodes hds)
  rw [readItems, follow_of_shows h, pure_bind, hnode]
  simp only [enter_of_depth hk, pure_bind, hitems, claimedAt_pure]

/-- If the keys and values of `es` are read at the nodes of the entries, `Spot.eachEntry` returns
`es`. -/
theorem eachEntry_eq {κ : Type} {readKey : Spot → Reading κ} {entries : List (Node × Node)}
    {es : List (κ × α)}
    (h : List.Forall₂ (fun e e' => readKey (s.goto e.1) = pure e'.1 ∧ read (s.goto e.2) = pure e'.2)
      entries es) :
    eachEntry readKey read s entries = pure es := by
  induction h with
  | nil => rfl
  | cons he _ ih =>
    rw [eachEntry, he.1, pure_bind, he.2, within_pure, pure_bind, ih, pure_bind]

/-- `Spot.readEntries` returns the keys with what `read` finds in the values. -/
theorem readEntries_of_shows {es : List (String × α)} {ds : Entries Datum}
    (hds : List.Forall₂ (fun e e' => e.1 = e'.1 ∧ Finds read e.2 e'.2) es ds) :
    Finds (readEntries read) es (.ofEntries ds) := by
  intro s h
  obtain ⟨k, m, entries, hk, hnode, hentries⟩ := Node.Spells.of_mapping h
  have hread : eachEntry (textAs .string) read { s with depth := k } entries = pure es := by
    apply eachEntry_eq
    rw [List.forall₂_map_right_iff] at hentries
    refine forall₂_through ?_ hentries hds
    rintro e e' a ⟨hkey, hvalue⟩ ⟨ha, hfinds⟩
    exact ⟨ha ▸ textAs_of_shows _ hkey, hfinds _ hvalue⟩
  rw [readEntries, follow_of_shows h, pure_bind, hnode]
  simp only [enter_of_depth hk, pure_bind, hread, claimedAt_pure]

variable {S : Shape}

/-- `Spot.readFields` fills the fields of the draft that the entries write (`Draft.fill`), one entry
after the other. The induction is on `Fillable`, which has a case for a field and one for an unknown
key. -/
theorem readFields_fillable (hS : S.Named) {read : (f : S.Field) → Spot → Reading (S.Content f)}
    {c : (f : S.Field) → S.Content f} {entries : List (Node × Node)} {es : Entries Datum}
    {d : S.Draft} (hentries : List.Forall₂
      (fun e e' => Shows (s.goto e.1) (.text e'.1) ∧ Shows (s.goto e.2) e'.2) entries es)
    (h : Fillable read c es d) :
    readFields S read s d entries = pure (d.fill c es) := by
  induction hentries generalizing d with
  | nil => rw [Shape.Draft.fill_nil]; rfl
  | cons he _ ih =>
    obtain ⟨hkey, hvalue⟩ := he
    rw [readFields, textAs_of_shows _ hkey, pure_bind]
    cases hk : S.field? _ with
    | none =>
      rw [Shape.Draft.fill_cons_of_none hS hk]
      exact ih h.tail_of_none
    | some f =>
      obtain ⟨hunmet, hfinds, htail⟩ := h.tail_of_some hk
      rw [Shape.Draft.fill_cons_of_some hS hk]
      simp only [hunmet, hfinds _ hvalue, within_pure, pure_bind]
      exact ih htail

/-- `Spot.readRecord` returns what `build` makes of the filled draft. The entries of the node show
the keys and values of `es`, to which `readFields_fillable` applies. -/
theorem readRecord_of_shows (hS : S.Named) {read : (f : S.Field) → Spot → Reading (S.Content f)}
    {build : S.Draft → Except Cause α} {c : (f : S.Field) → S.Content f} {es : Entries Datum}
    {a : α} (hes : Fillable read c es .empty)
    (hbuild : build (Shape.Draft.empty.fill c es) = .ok a) :
    Finds (readRecord S read build) a (.ofEntries es) := by
  intro s h
  obtain ⟨k, m, entries, hk, hnode, hentries⟩ := Node.Spells.of_mapping h
  have hfields : readFields S read { s with depth := k } .empty entries =
      pure (Shape.Draft.empty.fill c es) :=
    readFields_fillable hS (List.forall₂_map_right_iff.mp hentries) hes
  rw [readRecord, follow_of_shows h, pure_bind, hnode]
  simp only [enter_of_depth hk, pure_bind, hfields, hbuild]
  rfl

/-- `Spot.readDatum` returns the meaning of a scalar for every `Purpose`. -/
theorem readDatum_of_means (purpose : Purpose) {n : Nat} {m : Mark} {style : Style} {text : String}
    (hnode : s.node = .scalar m none style text) (h : Means style text d) :
    readDatum purpose (n + 1) s = pure d := by
  have hfollow : s.follow = pure s := by rw [follow, hnode]
  rw [readDatum, hfollow, pure_bind, hnode]
  change Reading.claimedAt m (scalarDatum none style text >>= pure) = _
  rw [h.scalarDatum, pure_bind, claimedAt_pure]

/-- `Spot.readDatum` returns the datum that the spot shows, with fuel one more than the depth. The
fuel and the depth decrease together in every collection. -/
theorem readDatum_of_shows {n : Nat} (hn : s.depth = n) (h : Shows s d) :
    readDatum .variant (n + 1) s = pure d := by
  -- the fuel is one more than the depth, and entering a collection takes one of each
  induction n generalizing s d with
  | zero =>
    rcases Node.Spells.scalar_or_sequence_or_mapping h with ⟨m, style, text, hnode, hs⟩ |
      ⟨_, _, _, _, hk, -⟩ | ⟨_, _, _, _, hk, -⟩
    · exact readDatum_of_means .variant hnode hs
    · cases hn.symm.trans hk
    · cases hn.symm.trans hk
  | succ n ih =>
    rcases Node.Spells.scalar_or_sequence_or_mapping h with ⟨m, style, text, hnode, hs⟩ |
      ⟨k, m, items, ds, hk, hnode, rfl, hitems⟩ | ⟨k, m, entries, es, hk, hnode, rfl, hentries⟩
    · exact readDatum_of_means .variant hnode hs
    · obtain rfl : n = k := Nat.succ.inj (hn.symm.trans hk)
      have hread : eachItem (readDatum .variant (n + 1)) { s with depth := n } 0 items = pure ds :=
        eachItem_eq 0 (hitems.imp fun _ _ hi => ih rfl hi)
      rw [readDatum, follow_of_shows h, pure_bind, hnode]
      simp only [enter_of_depth hk, pure_bind, hread, map_pure]
      rfl
    · obtain rfl : n = k := Nat.succ.inj (hn.symm.trans hk)
      have hread : eachEntry (readDatum .variant (n + 1)) (readDatum .variant (n + 1))
          { s with depth := n } entries = pure es :=
        eachEntry_eq (hentries.imp fun _ _ he => ⟨ih rfl he.1, ih rfl he.2⟩)
      rw [readDatum, follow_of_shows h, pure_bind, hnode]
      simp only [enter_of_depth hk, pure_bind, hread]
      rfl

instance : LawfulSource Spot where
  text _ _ h := textAs_of_shows .string h
  flag _ _ h := readFlag_of_shows h
  choice hi _ h := readChoice_of_shows hi h
  optional_null _ := readOptional_of_shows_null
  optional_some := readOptional_of_shows
  items := readItems_of_shows
  entries := readEntries_of_shows
  record hS := readRecord_of_shows hS
  datum _ _ h := readDatum_of_shows rfl h
  depth := Node.Spells.depth_le

end Reading.Spot

end SwaggerRequests
