import SwaggerRequests.Proofs.Comments
import SwaggerRequests.Proofs.Imports

/-!
# What a request sends

A request sends form data, a body or nothing. Three parts of the program decide which:
`Bundle.hasFormData` and `Bundle.hasBody` on the fragments, `contentType`, and
`RequestFunction.payload`, the lines that are written. This module shows that the three decisions
agree with each other and with the emitted parameters, for every function of a document
(`SendsWhatIsEmitted`).

The flags test whether a text is empty. This is correct because no fragment is empty, whatever the
name of its parameter is (`Bundle.hasFormData_image_iff`, `Bundle.hasBody_image_iff`). The text of a
function is divided into an opening, the payload and a closing, and `RequestFunction.Sends` states
what is between (`RequestFunction.sends_statements_iff`).

It remains to show that the opening sends nothing. It would need one of the `sendingWords`, and
`RequestFunction.mentions_opening` shows that such a word can occur in the opening only within a
text of the document. The texts around these insertions are fences (`IsFence`): they do not contain
the word, and no occurrence of the word can overlap with them, because their first and last
characters are not in it.
-/

namespace SwaggerRequests

variable {document : Document} {useHeaders : Bool}

/-! ## Flags of a bundle

The flags of a bundle, in terms of the emitted parameters. -/

open TypedParameter (located)

/-- The operation has an emitted parameter at the location `l`. -/
def Endpoint.Emits (document : Document) (useHeaders : Bool) (e : Endpoint) (l : Location) : Prop :=
  ∃ d p, IsEmitted e.descriptors useHeaders document d p ∧ p.location = l

theorem TypedParameter.located_ne_nil_iff {l : Location} {ts : List TypedParameter} :
    located l ts ≠ [] ↔ ∃ t ∈ ts, t.parameter.location = l := by
  simp [located]

theorem join_eq_empty_iff {ss : List String} : String.join ss = "" ↔ ∀ s ∈ ss, s = "" := by
  induction ss with
  | nil => simp
  | cons s ss ih => rw [String.join_cons, String.append_eq_empty_iff, ih, List.forall_mem_cons]

/-- `Fragment.formData` is not empty, since it begins with a condition. -/
theorem formData_ne_empty (p : Parameter) (binding : String) :
    Fragment.formData p binding ≠ "" := by
  unfold Fragment.formData
  simp only [String.append_assoc]
  intro hempty
  have hcondition := (String.append_eq_empty_iff.mp hempty).1
  exact absurd hcondition (by decide)

namespace Bundle

/-- The image of typed parameters has form data exactly if one of them is at `Location.formData`. -/
theorem hasFormData_image_iff {ts : List TypedParameter} :
    (image ts).hasFormData = true ↔ ∃ t ∈ ts, t.parameter.location = .formData := by
  have hempty : (image ts).formData = "" ↔ located .formData ts = [] := by
    simp [image, join_eq_empty_iff, TypedParameter.formData, formData_ne_empty,
      List.eq_nil_iff_forall_not_mem]
  rw [hasFormData, Bool.not_eq_true', ← Bool.not_eq_true, String.isEmpty_iff, hempty]
  exact TypedParameter.located_ne_nil_iff

/-- The image of typed parameters has a body exactly if one of them is at `Location.body`. -/
theorem hasBody_image_iff {ts : List TypedParameter} :
    (image ts).hasBody = true ↔ ∃ t ∈ ts, t.parameter.location = .body := by
  have hempty : (image ts).body = "" ↔ located .body ts = [] := by
    rw [image]
    rcases located .body ts with _ | ⟨t, _ | ⟨u, us⟩⟩
    · simp [TypedParameter.bodyText]
    · simp [TypedParameter.bodyText, TypedParameter.value, Fragment.value]
    · simp [TypedParameter.bodyText]
  rw [hasBody, Bool.not_eq_true', ← Bool.not_eq_true, String.isEmpty_iff, hempty]
  exact TypedParameter.located_ne_nil_iff

end Bundle

/-- The flags of the bundle of an operation say at which locations it `Emits` a parameter. -/
theorem Endpoint.emits_iff {e : Endpoint} {b : Bundle}
    (h : e.outcome document useHeaders = .ok b) :
    (b.hasFormData = true ↔ e.Emits document useHeaders .formData) ∧
      (b.hasBody = true ↔ e.Emits document useHeaders .body) := by
  obtain ⟨typed, rfl, htyped⟩ := exists_image_of_bundle h
  have hlocated : ∀ l, (∃ t ∈ typed, t.parameter.location = l) ↔
      e.Emits document useHeaders l := by
    intro l
    constructor
    · rintro ⟨t, ht, rfl⟩
      obtain ⟨d, hd⟩ := (htyped t.parameter).mp (List.mem_map_of_mem ht)
      exact ⟨d, t.parameter, hd, rfl⟩
    · rintro ⟨d, p, hp, rfl⟩
      obtain ⟨t, ht, rfl⟩ := List.mem_map.mp ((htyped p).mpr ⟨d, hp⟩)
      exact ⟨t, ht, rfl⟩
  rw [Bundle.hasFormData_image_iff, Bundle.hasBody_image_iff, hlocated, hlocated]
  exact ⟨Iff.rfl, Iff.rfl⟩

/-! ## The statements of a function

The body of a function, divided into named lists of lines. -/

namespace RequestFunction

variable {f : RequestFunction}

/-- The line that passes the content type `type` to the runtime. -/
def configuration (f : RequestFunction) (type : String) : String :=
  "  const configs: RequestConfig = getConfigs('" ++ f.method.lowerName ++ "', '" ++ type ++
    "', url, options);"

/-- The lines of `RequestFunction.body` before `configuration`. -/
def declaration (f : RequestFunction) : List String :=
  ["export function " ++ f.name ++ "(params: \x7b" ++ f.bundle.signature ++
      "\n  \x7d = \x7b\x7d as any, options: RequestOptions = \x7b\x7d): Promise<any> \x7b",
    "  let url = basePath + '" ++ f.path ++ "';"] ++
  (lines f.bundle.replacements).map ("  " ++ ·)

/-- The lines of `RequestFunction.body` about the query and the headers. -/
def settings (f : RequestFunction) : List String :=
  (if f.bundle.query.isEmpty then [] else
    ["  configs.params = \x7b" ++ ",".intercalate f.bundle.query ++ "\x7d;"]) ++
  if f.bundle.headers.isEmpty then [] else
    ["  configs.headers = \x7b...configs.headers, " ++ ",".intercalate f.bundle.headers ++ "\x7d;"]

/-- The lines of `RequestFunction.body` before the `payload`. -/
def opening (f : RequestFunction) : List String :=
  f.declaration ++ f.configuration f.contentType :: f.settings

/-- The lines of `RequestFunction.body` after the `payload`. -/
def closing : List String := ["  return request(configs);", "\x7d"]

/-- The body of a function is its `opening`, its `payload` and the `closing`. -/
theorem body_eq (f : RequestFunction) : f.body = f.opening ++ payload f.bundle ++ closing := by
  have hregroup : ∀ (before query headers sent after : List String) (line : String),
      before ++ [line] ++ query ++ headers ++ sent ++ after =
        before ++ line :: (query ++ headers) ++ sent ++ after := by
    simp
  exact hregroup _ _ _ _ _ _

theorem text_split (f : RequestFunction) :
    f.text =
      unlines (f.comment ++ f.opening) ++ unlines (payload f.bundle) ++ unlines closing := by
  rw [text, body_eq, ← unlines_append, ← unlines_append, List.append_assoc, List.append_assoc,
    List.append_assoc]

/-- The function passes the content type `type` to the runtime. -/
def HandsOver (f : RequestFunction) (type : String) : Prop :=
  f.body = f.declaration ++ f.configuration type :: f.settings ++ payload f.bundle ++ closing

/-- `statements` is the text of the function between its `opening` and its `closing`. -/
def Sends (f : RequestFunction) (statements : String) : Prop :=
  f.text = unlines (f.comment ++ f.opening) ++ statements ++ unlines closing

/-- The statements for form data: `data` is created, appended to, and assigned to `configs.data`. -/
def formStatements (b : Bundle) : String :=
  "  let data = new FormData();\n" ++ unlines ((lines b.formData).map ("  " ++ ·)) ++
    "  configs.data = data;\n"

/-- The statement that assigns the body to `configs.data`. -/
def bodyStatement (b : Bundle) : String := "  configs.data = " ++ b.body ++ ";\n"

theorem configuration_inj {type type' : String} :
    f.configuration type = f.configuration type' ↔ type = type' := by
  unfold configuration
  rw [String.append_left_inj, String.append_right_inj]

/-- The content type that a function passes is `RequestFunction.contentType`. -/
theorem handsOver_iff {type : String} : f.HandsOver type ↔ f.contentType = type := by
  unfold HandsOver
  rw [body_eq]
  unfold opening
  rw [List.append_left_inj, List.append_left_inj, List.append_right_inj, List.cons.injEq,
    configuration_inj, and_iff_left rfl]

/-- The statements that a function `Sends` are the text of its `payload`. -/
theorem sends_iff {statements : String} :
    f.Sends statements ↔ unlines (payload f.bundle) = statements := by
  rw [Sends, text_split, String.append_left_inj, String.append_right_inj]

/-- The text of `payload b` is `formStatements b`, `bodyStatement b` or empty, by the flags of
`b`. -/
theorem payload_cases (b : Bundle) :
    (b.hasFormData = true ∧ unlines (payload b) = formStatements b) ∨
      (b.hasFormData = false ∧ b.hasBody = true ∧ unlines (payload b) = bodyStatement b) ∨
        (b.hasFormData = false ∧ b.hasBody = false ∧ unlines (payload b) = "") := by
  unfold payload
  cases b.hasFormData with
  | true =>
    left
    refine ⟨rfl, ?_⟩
    rw [if_pos rfl, unlines_append, unlines_append]
    rfl
  | false =>
    right
    cases b.hasBody with
    | true =>
      left
      refine ⟨rfl, rfl, ?_⟩
      have hend : ";\n" = ";" ++ "\n" := by decide
      unfold bodyStatement
      rw [if_neg Bool.false_ne_true, if_pos rfl, hend, ← String.append_assoc, unlines_cons]
      exact String.append_empty
    | false => exact Or.inr ⟨rfl, rfl, rfl⟩

/-- `formStatements b`, `bodyStatement b` and the empty text are different, already in the third
character. -/
theorem statements_distinct (b : Bundle) :
    formStatements b ≠ bodyStatement b ∧ formStatements b ≠ "" ∧ bodyStatement b ≠ "" := by
  have hform : (formStatements b).toList.take 3 = [' ', ' ', 'l'] := by
    have hlong : 3 ≤ "  let data = new FormData();\n".toList.length := by decide +kernel
    unfold formStatements
    rw [String.append_assoc, String.toList_append, List.take_append_of_le_length hlong]
    decide +kernel
  have hbody : (bodyStatement b).toList.take 3 = [' ', ' ', 'c'] := by
    have hlong : 3 ≤ "  configs.data = ".toList.length := by decide +kernel
    unfold bodyStatement
    rw [String.append_assoc, String.toList_append, List.take_append_of_le_length hlong]
    decide +kernel
  refine ⟨?_, ?_, ?_⟩
  · intro h
    rw [h, hbody] at hform
    exact absurd hform (by decide)
  · intro h
    rw [h] at hform
    cases hform
  · intro h
    rw [h] at hbody
    cases hbody

/-- Which statements a function `Sends` is determined by the flags of its bundle. -/
theorem sends_statements_iff :
    (f.Sends (formStatements f.bundle) ↔ f.bundle.hasFormData = true) ∧
      (f.Sends (bodyStatement f.bundle) ↔
        f.bundle.hasBody = true ∧ f.bundle.hasFormData = false) ∧
      (f.Sends "" ↔ f.bundle.hasBody = false ∧ f.bundle.hasFormData = false) := by
  obtain ⟨hne, hform, hbody⟩ := statements_distinct f.bundle
  rw [sends_iff, sends_iff, sends_iff]
  rcases payload_cases f.bundle with ⟨h, hsent⟩ | ⟨h, h', hsent⟩ | ⟨h, h', hsent⟩
  · simp [h, hsent, hne, hform]
  · simp [h, h', hsent, hne.symm, hbody]
  · simp [h, h', hsent, hform.symm, hbody.symm]

end RequestFunction

/-! ## Words in texts

A calculus of occurrences: a word occurs in a text with fences exactly if it occurs between them. -/

/-- `word` occurs in `text`. -/
def Mentions (text word : String) : Prop := word.toList <:+: text.toList

instance (text word : String) : Decidable (Mentions text word) :=
  inferInstanceAs (Decidable (_ <:+: _))

/-- No occurrence of `word` overlaps with `text`. -/
structure IsFence (word text : String) : Prop where
  /-- `text` does not contain `word` -/
  silent : ¬ Mentions text word
  /-- the first character of `text` is not in `word` -/
  first : ∃ c ∈ text.toList.head?, c ∉ word.toList
  /-- the last character of `text` is not in `word` -/
  last : ∃ c ∈ text.toList.getLast?, c ∉ word.toList

instance (word text : String) : Decidable (IsFence word text) :=
  decidable_of_iff (¬ Mentions text word ∧ text.toList.head?.any (· ∉ word.toList) = true ∧
      text.toList.getLast?.any (· ∉ word.toList) = true) (by
    simp only [Option.any_eq_true, decide_eq_true_eq]
    exact ⟨fun h => ⟨h.1, h.2.1, h.2.2⟩, fun h => ⟨h.silent, h.first, h.last⟩⟩)

variable {word fence : String}

/-- An occurrence of `w` in `xs ++ ys` is in one of the two, if the first character of `ys` is not
in `w`. -/
theorem infix_append_of_head? {w xs ys : List Char} (h : ∃ c ∈ ys.head?, c ∉ w) :
    w <:+: xs ++ ys ↔ w <:+: xs ∨ w <:+: ys := by
  obtain ⟨c, hc, hw⟩ := h
  rw [List.infix_append_iff]
  constructor
  · rintro (hxs | hys | ⟨front, back, rfl, hfront, hback⟩)
    · exact Or.inl hxs
    · exact Or.inr hys
    · -- what is at the start of the second list would start with a foreign character
      cases back with
      | nil =>
        rw [List.append_nil]
        exact Or.inl hfront.isInfix
      | cons d back =>
        obtain ⟨rest, rfl⟩ := hback
        obtain rfl := Option.some.inj hc
        simp at hw
  · rintro (hxs | hys)
    · exact Or.inl hxs
    · exact Or.inr (Or.inl hys)

/-- The same if the last character of `xs` is not in `w`. -/
theorem infix_append_of_getLast? {w xs ys : List Char} (h : ∃ c ∈ xs.getLast?, c ∉ w) :
    w <:+: xs ++ ys ↔ w <:+: xs ∨ w <:+: ys := by
  have hreverse : ∃ c ∈ xs.reverse.head?, c ∉ w.reverse := by simpa using h
  rw [← List.reverse_infix, List.reverse_append, infix_append_of_head? hreverse,
    List.reverse_infix, List.reverse_infix, or_comm]

namespace IsFence

theorem mentions_append_left (h : IsFence word fence) (text : String) :
    Mentions (fence ++ text) word ↔ Mentions text word := by
  rw [Mentions, String.toList_append, infix_append_of_getLast? h.last]
  exact or_iff_right h.silent

theorem mentions_append_right (h : IsFence word fence) (text : String) :
    Mentions (text ++ fence) word ↔ Mentions text word := by
  rw [Mentions, String.toList_append, infix_append_of_head? h.first]
  exact or_iff_left h.silent

/-- `word` occurs in `text ++ fence ++ text'` exactly if it occurs in `text` or in `text'`. -/
theorem mentions_append (h : IsFence word fence) (text text' : String) :
    Mentions (text ++ (fence ++ text')) word ↔ Mentions text word ∨ Mentions text' word := by
  have hfirst : ∃ c ∈ (fence ++ text').toList.head?, c ∉ word.toList := by
    obtain ⟨c, hc, hword⟩ := h.first
    refine ⟨c, ?_, hword⟩
    rw [String.toList_append, List.head?_append]
    simpa using Or.inl hc
  rw [Mentions, String.toList_append, infix_append_of_head? hfirst]
  exact or_congr_right (h.mentions_append_left text')

theorem not_mentions_empty (h : IsFence word fence) : ¬ Mentions "" word := by
  intro hempty
  apply h.silent
  rw [Mentions, String.toList_empty, List.infix_nil] at hempty
  rw [Mentions, hempty]
  exact List.nil_infix

/-- `word` occurs in `fence.intercalate ss` exactly if it occurs in a member of `ss`. -/
theorem mentions_intercalate (h : IsFence word fence) {ss : List String} :
    Mentions (fence.intercalate ss) word ↔ ∃ s ∈ ss, Mentions s word := by
  induction ss with
  | nil => simpa using h.not_mentions_empty
  | cons s ss ih =>
    cases ss with
    | nil => simp
    | cons t ss =>
      rw [String.intercalate_cons_cons, String.append_assoc, h.mentions_append, ih,
        List.exists_mem_cons_iff _ s]

/-- `word` occurs in `unlines ls` exactly if it occurs in a line, if the line feed is a fence. -/
theorem mentions_unlines (h : IsFence word "\n") {ls : List String} :
    Mentions (unlines ls) word ↔ ∃ l ∈ ls, Mentions l word := by
  induction ls with
  | nil =>
    have hempty : unlines [] = "" := rfl
    simpa [hempty] using h.not_mentions_empty
  | cons l ls ih =>
    rw [unlines_cons, String.append_assoc, h.mentions_append, ih, List.exists_mem_cons_iff]

end IsFence

/-- Each of the `lines` of a text is a contiguous part of it. -/
theorem infix_of_mem_lines {text line : String} (h : line ∈ lines text) :
    line.toList <:+: text.toList := by
  obtain ⟨ended, last, hsplit, hlines⟩ := lines_spec text
  rw [hsplit.joined, String.toList_append]
  rw [hlines, List.mem_append] at h
  rcases h with h | h
  · obtain ⟨l, hl, rfl⟩ := List.mem_map.mp h
    obtain ⟨before, after, rfl⟩ := List.append_of_mem hl
    have hreturn : (withoutReturn l).toList <:+: l.toList := by
      unfold withoutReturn
      split
      · rw [String.toList_ofList]
        exact (List.dropLast_prefix _).isInfix
      · exact List.infix_refl _
    refine hreturn.trans ⟨(unlines before).toList, ("\n" ++ unlines after ++ last).toList, ?_⟩
    simp only [unlines_append, unlines_cons, String.toList_append, List.append_assoc]
  · have hlast : line = last := by
      split at h
      · cases h
      · exact List.mem_singleton.mp h
    rw [hlast]
    exact (List.suffix_append _ _).isInfix

/-! ## The opening

The opening consists of the `openingTexts`, which are fences for the `sendingWords`, and of
insertions. -/

/-- Words without which a function sends nothing: `configs.data` and `FormData`. -/
def sendingWords : List String := ["configs.data", "FormData"]

/-- The texts in `opening` around the texts of the document. -/
def openingTexts : List String :=
  ["export function ", "(params: \x7b",
    "\n  \x7d = \x7b\x7d as any, options: RequestOptions = \x7b\x7d): Promise<any> \x7b",
    "  let url = basePath + '", "';", "  ",
    "  const configs: RequestConfig = getConfigs('", "', '", "', url, options);",
    "  configs.params = \x7b", "  configs.headers = \x7b...configs.headers, ", ",", "\x7d;", "\n"]

/-- All `openingTexts` are fences for all `sendingWords`, by evaluation. -/
theorem isFence_openingTexts :
    ∀ word ∈ sendingWords, ∀ text ∈ openingTexts, IsFence word text := by
  decide +kernel

theorem Method.not_mentions_lowerName (method : Method) :
    ∀ word ∈ sendingWords, ¬ Mentions method.lowerName word := by
  cases method <;> decide +kernel

/-- Between two fences, `word` occurs exactly if it occurs in the text between them. -/
theorem mentions_between {before after : String} (hbefore : IsFence word before)
    (hafter : IsFence word after) (text : String) :
    Mentions (before ++ text ++ after) word ↔ Mentions text word := by
  rw [String.append_assoc, hbefore.mentions_append_left, hafter.mentions_append_right]

/-- Between three fences, `word` occurs exactly if it occurs in one of the two texts. -/
theorem mentions_between_two {before middle after : String} (hbefore : IsFence word before)
    (hmiddle : IsFence word middle) (hafter : IsFence word after) (text text' : String) :
    Mentions (before ++ text ++ middle ++ text' ++ after) word ↔
      Mentions text word ∨ Mentions text' word := by
  simp only [String.append_assoc]
  rw [hbefore.mentions_append_left, hmiddle.mentions_append, hafter.mentions_append_right]

/-- Between two fences, `word` occurs in texts with commas exactly if it occurs in one of them. -/
theorem mentions_list {before after : String} (hbefore : IsFence word before)
    (hcomma : IsFence word ",") (hafter : IsFence word after) (texts : List String) :
    Mentions (before ++ ",".intercalate texts ++ after) word ↔ ∃ t ∈ texts, Mentions t word := by
  rw [mentions_between hbefore hafter, hcomma.mentions_intercalate]

namespace RequestFunction

variable {f : RequestFunction}

/-- The texts of the document in `opening`. -/
def insertions (f : RequestFunction) : List String :=
  [f.name, f.bundle.signature, f.path, f.bundle.replacements, f.contentType] ++
    f.bundle.query ++ f.bundle.headers

theorem mentions_declaration (hfence : ∀ text ∈ openingTexts, IsFence word text) {line : String}
    (hline : line ∈ f.declaration) (h : Mentions line word) :
    ∃ t ∈ f.insertions, Mentions t word := by
  simp only [declaration, List.mem_append, List.mem_pair, List.mem_map] at hline
  rcases hline with (rfl | rfl) | ⟨l, hl, rfl⟩
  · rw [mentions_between_two (hfence _ (by simp [openingTexts]))
      (hfence _ (by simp [openingTexts])) (hfence _ (by simp [openingTexts]))] at h
    rcases h with h | h
    · exact ⟨f.name, by simp [insertions], h⟩
    · exact ⟨f.bundle.signature, by simp [insertions], h⟩
  · rw [mentions_between (hfence _ (by simp [openingTexts]))
      (hfence _ (by simp [openingTexts]))] at h
    exact ⟨f.path, by simp [insertions], h⟩
  · rw [(hfence _ (by simp [openingTexts])).mentions_append_left] at h
    exact ⟨f.bundle.replacements, by simp [insertions], h.trans (infix_of_mem_lines hl)⟩

/-- A word occurs in the `configuration` exactly if it occurs in the name of the method or in the
content type. -/
theorem mentions_configuration (hfence : ∀ text ∈ openingTexts, IsFence word text)
    {type : String} :
    Mentions (f.configuration type) word ↔
      Mentions f.method.lowerName word ∨ Mentions type word := by
  unfold configuration
  rw [mentions_between_two]
  · exact hfence _ (by simp [openingTexts])
  · exact hfence _ (by simp [openingTexts])
  · exact hfence _ (by simp [openingTexts])

theorem mentions_settings (hfence : ∀ text ∈ openingTexts, IsFence word text) {line : String}
    (hline : line ∈ f.settings) (h : Mentions line word) :
    ∃ t ∈ f.insertions, Mentions t word := by
  have hcomma : IsFence word "," := hfence _ (by simp [openingTexts])
  have hend : IsFence word "\x7d;" := hfence _ (by simp [openingTexts])
  simp only [settings, List.mem_append, List.mem_ite_nil_left, List.mem_singleton] at hline
  rcases hline with ⟨-, rfl⟩ | ⟨-, rfl⟩
  · rw [mentions_list (hfence _ (by simp [openingTexts])) hcomma hend] at h
    obtain ⟨t, ht, h⟩ := h
    exact ⟨t, by simp [insertions, ht], h⟩
  · rw [mentions_list (hfence _ (by simp [openingTexts])) hcomma hend] at h
    obtain ⟨t, ht, h⟩ := h
    exact ⟨t, by simp [insertions, ht], h⟩

/-- One of the `sendingWords` occurs in the `opening` only if it occurs in one of the
`insertions`. -/
theorem mentions_opening (hword : word ∈ sendingWords) (h : Mentions (unlines f.opening) word) :
    ∃ t ∈ f.insertions, Mentions t word := by
  have hfence := isFence_openingTexts word hword
  have hfeed : IsFence word "\n" := hfence _ (by simp [openingTexts])
  -- the line feed is a fence, so the words can be looked for in each line
  obtain ⟨line, hline, h⟩ := hfeed.mentions_unlines.mp h
  rcases List.mem_append.mp hline with hline | hline
  · exact mentions_declaration hfence hline h
  · rcases List.mem_cons.mp hline with rfl | hline
    · have htype := ((mentions_configuration hfence).mp h).resolve_left
        (f.method.not_mentions_lowerName word hword)
      exact ⟨f.contentType, by simp [insertions], htype⟩
    · exact mentions_settings hfence hline h

end RequestFunction

/-! ## Agreement

The specification of a function with regard to what it sends, and its proof. -/

open RequestFunction

/-- The bundle, the content type and the text of the function `f` agree with the parameters that the
operation `e` emits. -/
structure SendsWhatIsEmitted (document : Document) (useHeaders : Bool) (e : Endpoint)
    (f : RequestFunction) : Prop where
  /-- the bundle is that of the descriptors of `e` -/
  bundled : (bundle e.descriptors useHeaders document).result = .ok f.bundle
  /-- `hasFormData` holds exactly if `e` emits a parameter at `Location.formData` -/
  hasFormData_iff : f.bundle.hasFormData = true ↔ e.Emits document useHeaders .formData
  /-- `hasBody` holds exactly if `e` emits a parameter at `Location.body` -/
  hasBody_iff : f.bundle.hasBody = true ↔ e.Emits document useHeaders .body
  /-- the content type is that of form data if there is any -/
  type_of_formData : f.bundle.hasFormData = true → f.contentType = "multipart/form-data"
  /-- otherwise it is the first in `consumes` of the operation or else of the document, or the
  default -/
  type_of_consumes : f.bundle.hasFormData = false →
    (e.operation.consumes ++ document.consumes ++ ["application/json"]).head? = some f.contentType
  /-- the function passes this content type to the runtime, and no other -/
  type_handed : ∀ type, f.HandsOver type ↔ f.contentType = type
  /-- its statements are `formStatements` exactly if there is form data -/
  sends_form : f.Sends (formStatements f.bundle) ↔ f.bundle.hasFormData = true
  /-- its statements are `bodyStatement` exactly if there is a body and no form data -/
  sends_body : f.Sends (bodyStatement f.bundle) ↔
    f.bundle.hasBody = true ∧ f.bundle.hasFormData = false
  /-- it has no statements exactly if there is neither -/
  sends_nothing : f.Sends "" ↔ f.bundle.hasBody = false ∧ f.bundle.hasFormData = false
  /-- a function that creates form data passes the content type of form data -/
  form_handsOver : f.Sends (formStatements f.bundle) → f.HandsOver "multipart/form-data"
  /-- a body is sent unless there is form data as well -/
  body_sent : e.Emits document useHeaders .body → ¬ e.Emits document useHeaders .formData →
    f.Sends (bodyStatement f.bundle)
  /-- before the payload the words occur only within texts of the document -/
  opening_mentions : ∀ word ∈ sendingWords, Mentions (unlines f.opening) word →
    ∃ t ∈ f.insertions, Mentions t word
  /-- after the payload they do not occur -/
  closing_silent : ∀ word ∈ sendingWords, ¬ Mentions (unlines closing) word

theorem contentType_of_hasFormData {o : Operation} {b : Bundle} (h : b.hasFormData = true) :
    contentType document o b = "multipart/form-data" := by
  rw [contentType, if_pos h]

/-- Without form data, `contentType` is the first in `consumes` of the operation or else of the
document, or the default. -/
theorem contentType_of_consumes {o : Operation} {b : Bundle} (h : b.hasFormData = false) :
    (o.consumes ++ document.consumes ++ ["application/json"]).head? =
      some (contentType document o b) := by
  rw [contentType, h, if_neg Bool.false_ne_true, List.head?_append, List.head?_append]
  cases o.consumes.head? <;> cases document.consumes.head? <;> rfl

/-- Every function that `requestFunction` returns satisfies the specification. -/
theorem SendsWhatIsEmitted.of_ok {taken : List String} {e : Endpoint} {f : RequestFunction}
    (h : (requestFunction document useHeaders taken e).result = .ok f) :
    SendsWhatIsEmitted document useHeaders e f := by
  obtain ⟨b, hb, rfl⟩ := requestFunction_ok_inv h
  -- the flags of the bundle give what is emitted, and the other two decisions depend on the flags
  obtain ⟨hform, hbody⟩ := Endpoint.emits_iff hb
  exact {
    bundled := hb
    hasFormData_iff := hform
    hasBody_iff := hbody
    type_of_formData := contentType_of_hasFormData
    type_of_consumes := contentType_of_consumes
    type_handed := fun _ => handsOver_iff
    sends_form := sends_statements_iff.1
    sends_body := sends_statements_iff.2.1
    sends_nothing := sends_statements_iff.2.2
    form_handsOver := fun hsends =>
      handsOver_iff.mpr (contentType_of_hasFormData (sends_statements_iff.1.mp hsends))
    body_sent := fun hemits hno =>
      sends_statements_iff.2.1.mpr ⟨hbody.mpr hemits, eq_false_of_ne_true (mt hform.mp hno)⟩
    opening_mentions := fun _ => mentions_opening
    closing_silent := by decide +kernel }

/-- **What is sent.** Every function of a document satisfies `SendsWhatIsEmitted` for the operation
at its position. The bundle has form data or a body exactly if a parameter is emitted there, the
content type is chosen accordingly, and the function creates and assigns form data, assigns the body
or assigns nothing. Elsewhere the `sendingWords` occur only within texts of the document. -/
theorem requestFunctions_send_what_is_emitted {fs : List RequestFunction}
    (h : (requestFunctions document useHeaders).result = .ok fs) :
    List.Forall₂ (SendsWhatIsEmitted document useHeaders) document.endpoints fs :=
  (requestFunctionsFrom_forall₂ h).imp fun _ _ ⟨_, hf⟩ => .of_ok hf

/-- Three operations: one without parameters, one with two parameters of the body, and one with form
data and a body. -/
def photoShop : Document :=
  let sends (ps : List Parameter) : Operation :=
    { Operation.empty with parameters := ps.map .inline, consumes := ["application/json"] }
  { Document.empty with
    consumes := ["application/xml", "text/plain"]
    paths := [("/photos", {
      operation? := fun
        | .get => some Operation.empty
        | .put => some (sends [textAt .body "title", textAt .body "place"])
        | .post => some (sends [textAt .body "title", textAt .formData "photo"])
        | _ => none
      parameters := [] })] }

/-- The second operation of `photoShop` sends an object, and the third sends its form data and not
its body. -/
theorem requestFunctions_send_what_is_emitted_photoShop :
    ∃ ask describe send, (requestFunctions photoShop false).result = .ok [ask, describe, send] ∧
      ask.HandsOver "application/xml" ∧ ask.Sends "" ∧
      describe.HandsOver "application/json" ∧
      describe.Sends
        "  configs.data = \x7b'title':params['title'],'place':params['place']\x7d;\n" ∧
      send.bundle.hasBody = true ∧ send.HandsOver "multipart/form-data" ∧
      send.Sends (formStatements send.bundle) := by
  obtain ⟨ask, describe, send, hfs, hask, hdescribe, hbody, hsend⟩ :
      ∃ ask describe send, (requestFunctions photoShop false).result = .ok [ask, describe, send] ∧
        ask.bundle = .empty ∧ describe.bundle.hasFormData = false ∧
        describe.bundle.body = "\x7b'title':params['title'],'place':params['place']\x7d" ∧
        send.bundle.hasFormData = true ∧ send.bundle.hasBody = true := by
    refine ⟨_, _, _, rfl, ?_⟩
    decide +kernel
  obtain ⟨haskSends, hrest⟩ :=
    List.forall₂_cons.mp (requestFunctions_send_what_is_emitted hfs)
  obtain ⟨hdescribeSends, hrest⟩ := List.forall₂_cons.mp hrest
  have hsendSends := (List.forall₂_cons.mp hrest).1
  refine ⟨ask, describe, send, hfs, ?_, ?_, ?_, ?_, hsend.2, ?_, ?_⟩
  · have htype := haskSends.type_of_consumes (by rw [hask]; rfl)
    exact (haskSends.type_handed _).mpr (Option.some.inj htype).symm
  · refine haskSends.sends_nothing.mpr ?_
    rw [hask]
    exact ⟨rfl, rfl⟩
  · have htype := hdescribeSends.type_of_consumes hdescribe
    exact (hdescribeSends.type_handed _).mpr (Option.some.inj htype).symm
  · have hsends := hdescribeSends.sends_body.mpr ⟨by rw [Bundle.hasBody, hbody]; rfl, hdescribe⟩
    unfold bodyStatement at hsends
    rw [hbody] at hsends
    exact hsends
  · exact hsendSends.form_handsOver (hsendSends.sends_form.mpr hsend.1)
  · exact hsendSends.sends_form.mpr hsend.1

end SwaggerRequests
