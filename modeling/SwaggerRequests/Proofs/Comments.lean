import SwaggerRequests.Module.Text
import SwaggerRequests.Proofs.Operations
import Mathlib.Data.List.Chain

/-!
# Comments that stay closed

Texts of the document are written into comments: the description of a parameter before its member of
`params`, and the documentation of an operation before its function. A comment ends at the first
`*/`, so `commentText` puts a backslash into each `*/` of such a text. It has to be shown that no
`*/` arises in other places: within a changed text, where it meets the text around it, and where the
documentation is divided into lines.

`EndsNoComment` says that a text contains no `*/`. It is a property of neighbouring characters
(`endsNoComment_iff_isChain`), so the concatenation of two such texts is one if the characters where
they meet are `Harmless` (`endsNoComment_append`). From a text of this kind before a `*/` it follows
that this is the first one, `FirstEnd`, and the two theorems of this form are `firstEnd_member` and
`RequestFunction.firstEnd_text`.

`BrokenUp` and `FallsIntoLines` specify what `commentText` and `lines` do with a text.
-/

namespace SwaggerRequests

variable {cs ds : List Char}

/-! ## Ends of comments

The calculus of `EndsNoComment`, by `List.IsChain` over the relation `Harmless`. -/

/-- The text does not contain `*/`. -/
def EndsNoComment (cs : List Char) : Prop := ¬ ['*', '/'] <:+: cs

/-- `text` is `before`, a `*/` and `after`, and it has no earlier `*/`. -/
structure FirstEnd (text before after : String) : Prop where
  /-- the two parts around the end of the comment -/
  split : text = before ++ "*/" ++ after
  /-- no other end is earlier -/
  first : ∀ earlier rest : String, text = earlier ++ "*/" ++ rest →
    before.length ≤ earlier.length

/-- The two characters, one after the other, are not `*/`. -/
def Harmless (c d : Char) : Prop := ¬ (c = '*' ∧ d = '/')

instance (c d : Char) : Decidable (Harmless c d) :=
  inferInstanceAs (Decidable (¬ (c = '*' ∧ d = '/')))

/-- `EndsNoComment` states of all neighbouring characters that they are `Harmless`. -/
theorem endsNoComment_iff_isChain : EndsNoComment cs ↔ cs.IsChain Harmless := by
  rw [List.isChain_iff_forall_rel_of_append_cons_cons]
  refine ⟨?_, ?_⟩
  · rintro h c d before after rfl ⟨rfl, rfl⟩
    exact h ⟨before, after, by simp⟩
  · rintro h ⟨before, after, hcs⟩
    have hsplit : cs = before ++ '*' :: '/' :: after := by
      rw [← hcs]
      simp
    exact h hsplit ⟨rfl, rfl⟩

instance : DecidablePred EndsNoComment := fun _ =>
  decidable_of_iff _ endsNoComment_iff_isChain.symm

theorem endsNoComment_nil : EndsNoComment [] :=
  endsNoComment_iff_isChain.mpr List.IsChain.nil

theorem endsNoComment_cons {c : Char} :
    EndsNoComment (c :: cs) ↔ (∀ d ∈ cs.head?, Harmless c d) ∧ EndsNoComment cs := by
  simp only [endsNoComment_iff_isChain, List.isChain_cons]

/-- A concatenation satisfies `EndsNoComment` exactly if both parts do and the characters where they
meet are `Harmless`. -/
theorem endsNoComment_append :
    EndsNoComment (cs ++ ds) ↔ EndsNoComment cs ∧ EndsNoComment ds ∧
      ∀ c ∈ cs.getLast?, ∀ d ∈ ds.head?, Harmless c d := by
  simp only [endsNoComment_iff_isChain, List.isChain_append]

/-- The same with a simpler condition on where they meet: no star at the end of the first part, or
no slash at the start of the second. -/
theorem EndsNoComment.append (hcs : EndsNoComment cs) (hds : EndsNoComment ds)
    (hmeet : cs.getLast? ≠ some '*' ∨ ds.head? ≠ some '/') : EndsNoComment (cs ++ ds) := by
  refine endsNoComment_append.mpr ⟨hcs, hds, ?_⟩
  rintro c hc d hd ⟨rfl, rfl⟩
  exact hmeet.elim (fun h => h hc) fun h => h hd

/-- A `*/` after a text that satisfies `EndsNoComment` is the first one: an earlier one would
overlap with it or lie in the text. -/
theorem FirstEnd.of_endsNoComment {before : String} (h : EndsNoComment before.toList)
    (after : String) : FirstEnd (before ++ "*/" ++ after) before after := by
  refine ⟨rfl, fun earlier rest heq => ?_⟩
  have hchars := congrArg String.toList heq
  simp only [String.toList_append, List.append_assoc] at hchars
  rw [← String.length_toList, ← String.length_toList]
  rcases List.append_eq_append_iff.mp hchars with ⟨more, hearlier, -⟩ | ⟨more, hbefore, hmore⟩
  · rw [hearlier, List.length_append]
    exact Nat.le_add_right _ _
  · -- an end that starts earlier would overlap with the other one, or lie before it
    match more, hmore with
    | [], _ => rw [hbefore, List.append_nil]
    | [_], hmore => cases hmore
    | c :: d :: more, hmore =>
      obtain ⟨rfl, rfl, -⟩ : '*' = c ∧ '/' = d ∧ _ := by simpa using hmore
      exact absurd ⟨earlier.toList, more, by simp [hbefore]⟩ h

/-! ## Defused text

`defuse` puts a backslash into every `*/`. It keeps the first character, which decides whether a
star before the text is harmless. -/

/-- `defuse` keeps the first character. -/
theorem head?_defuse (cs : List Char) : (defuse cs).head? = cs.head? := by
  fun_cases defuse cs <;> rfl

/-- The result of `defuse` contains no `*/`. The induction follows the cases of `defuse`. -/
theorem endsNoComment_defuse (cs : List Char) : EndsNoComment (defuse cs) := by
  fun_induction defuse cs with
  | case1 cs ih =>
    rw [endsNoComment_cons, endsNoComment_cons, endsNoComment_cons]
    simp [Harmless, ih]
  | case2 c cs hpair ih =>
    refine endsNoComment_cons.mpr ⟨?_, ih⟩
    rw [head?_defuse]
    rintro d hd ⟨rfl, rfl⟩
    obtain ⟨rest, rfl⟩ := List.head?_eq_some_iff.mp hd
    exact hpair rest rfl rfl
  | case3 => exact endsNoComment_nil

/-- The result of `commentText` contains no `*/`. -/
theorem endsNoComment_commentText (s : String) : EndsNoComment (commentText s).toList := by
  rw [commentText, String.toList_ofList]
  exact endsNoComment_defuse _

/-- `broken` is `text` with a backslash in each `*/`: both consist of the same pieces, which contain
no `*/`, with different separators. -/
def BrokenUp (text broken : String) : Prop :=
  ∃ pieces : List String, (∀ piece ∈ pieces, EndsNoComment piece.toList) ∧
    text = "*/".intercalate pieces ∧ broken = "*\\/".intercalate pieces

/-- A character before a text belongs to its first piece. -/
theorem intercalate_cons_head (sign : List Char) (c : Char) (piece : List Char)
    (pieces : List (List Char)) :
    sign.intercalate ((c :: piece) :: pieces) = c :: sign.intercalate (piece :: pieces) := by
  rcases pieces with _ | ⟨p, pieces⟩
  · rfl
  · rw [List.intercalate_cons_cons, List.intercalate_cons_cons]
    rfl

/-- A text and its image under `defuse` consist of the same pieces. The induction follows the cases
of `defuse`. -/
theorem exists_pieces (cs : List Char) :
    ∃ piece pieces, (∀ p ∈ piece :: pieces, EndsNoComment p) ∧
      cs = ['*', '/'].intercalate (piece :: pieces) ∧
      defuse cs = ['*', '\\', '/'].intercalate (piece :: pieces) := by
  fun_induction defuse cs with
  | case1 cs ih =>
    obtain ⟨piece, pieces, hpieces, hcs, hdefuse⟩ := ih
    refine ⟨[], piece :: pieces, List.forall_mem_cons.mpr ⟨endsNoComment_nil, hpieces⟩, ?_, ?_⟩
    · rw [List.intercalate_cons_cons, ← hcs]
      rfl
    · rw [List.intercalate_cons_cons, ← hdefuse]
      rfl
  | case2 c cs hpair ih =>
    obtain ⟨piece, pieces, hpieces, hcs, hdefuse⟩ := ih
    obtain ⟨hpiece, hpieces⟩ := List.forall_mem_cons.mp hpieces
    refine ⟨c :: piece, pieces, List.forall_mem_cons.mpr ⟨?_, hpieces⟩, ?_, ?_⟩
    · refine endsNoComment_cons.mpr ⟨?_, hpiece⟩
      rintro d hd ⟨rfl, rfl⟩
      -- then the rest of the text would begin with a slash, which was excluded
      obtain ⟨rest, rfl⟩ := List.head?_eq_some_iff.mp hd
      rw [intercalate_cons_head] at hcs
      exact hpair _ rfl hcs
    · rw [intercalate_cons_head, ← hcs]
    · rw [intercalate_cons_head, ← hdefuse]
  | case3 => exact ⟨[], [], List.forall_mem_singleton.mpr endsNoComment_nil, rfl, rfl⟩

/-- `commentText` satisfies its specification `BrokenUp`. -/
theorem brokenUp_commentText (s : String) : BrokenUp s (commentText s) := by
  obtain ⟨piece, pieces, hpieces, hs, hdefuse⟩ := exists_pieces s.toList
  have hchars : ((piece :: pieces).map String.ofList).map String.toList = piece :: pieces := by
    simp [Function.comp_def]
  refine ⟨(piece :: pieces).map String.ofList, ?_, ?_, ?_⟩
  · intro p hp
    obtain ⟨q, hq, rfl⟩ := List.mem_map.mp hp
    rw [String.toList_ofList]
    exact hpieces q hq
  · rw [← String.toList_inj, String.toList_intercalate, hchars]
    exact hs
  · rw [← String.toList_inj, String.toList_intercalate, hchars, commentText, String.toList_ofList]
    exact hdefuse

/-! ## Lines

The specification of `lines`, by a division of the text at its line feeds. -/

theorem unlines_cons (line : String) (ls : List String) :
    unlines (line :: ls) = line ++ "\n" ++ unlines ls := by
  rw [unlines, List.map_cons, String.join_cons]
  rfl

theorem unlines_append (ls ls' : List String) :
    unlines (ls ++ ls') = unlines ls ++ unlines ls' := by
  rw [unlines, List.map_append, String.join_append]
  rfl

/-- Lines without a `*/` make a text without one, since a line feed is `Harmless` on both sides. -/
theorem endsNoComment_unlines {ls : List String} (h : ∀ line ∈ ls, EndsNoComment line.toList) :
    EndsNoComment (unlines ls).toList := by
  induction ls with
  | nil => exact endsNoComment_nil
  | cons line ls ih =>
    obtain ⟨hline, hls⟩ := List.forall_mem_cons.mp h
    rw [unlines_cons, String.toList_append, String.toList_append]
    refine (hline.append ?_ (Or.inr ?_)).append (ih hls) (Or.inl ?_)
    · decide
    · decide
    · simp

/-- `text` consists of the lines `ended`, each with a line feed after it, and of the rest `last`. -/
structure FallsIntoLines (text : String) (ended : List String) (last : String) : Prop where
  /-- the parts make up the text -/
  joined : text = unlines ended ++ last
  /-- the lines have no other line feed -/
  ended : ∀ line ∈ ended, '\n' ∉ line.toList
  /-- the rest has no line feed -/
  last : '\n' ∉ last.toList

/-- The line without a carriage return at its end. -/
def withoutReturn (line : String) : String :=
  if line.toList.getLast? = some '\r' then String.ofList line.toList.dropLast else line

theorem withoutReturn_ofList_reverse (line : List Char) :
    withoutReturn (String.ofList line.reverse) =
      String.ofList (match line with
        | '\r' :: rest => rest
        | line => line).reverse := by
  rw [withoutReturn, String.toList_ofList, List.getLast?_reverse]
  split
  · rename_i hhead
    obtain ⟨rest, rfl⟩ := List.head?_eq_some_iff.mp hhead
    rw [List.reverse_cons, List.dropLast_concat]
    rfl
  · rename_i hhead
    split
    · exact absurd rfl hhead
    · rfl

/-- `linesFrom line` divides the text at its line feeds, where `line` is the line that has been
started. The induction is on the text. -/
theorem linesFrom_spec {line : List Char} (hline : '\n' ∉ line) :
    ∃ ended last, FallsIntoLines (String.ofList (line.reverse ++ cs)) ended last ∧
      (linesFrom line cs).map String.ofList =
        ended.map withoutReturn ++ if last = "" then [] else [last] := by
  fun_induction linesFrom line cs with
  | case1 line hempty =>
    obtain rfl := List.isEmpty_iff.mp hempty
    exact ⟨[], "", ⟨rfl, List.forall_mem_nil _, List.not_mem_nil⟩, rfl⟩
  | case2 line hempty =>
    refine ⟨[], String.ofList line.reverse, ⟨?_, List.forall_mem_nil _, ?_⟩, ?_⟩
    · rw [List.append_nil]
      exact String.empty_append.symm
    · rwa [String.toList_ofList, List.mem_reverse]
    · rw [if_neg]
      · rfl
      · simpa using hempty
  | case3 line cs first ih =>
    obtain ⟨ended, last, hsplit, hlines⟩ := ih List.not_mem_nil
    refine ⟨String.ofList line.reverse :: ended, last, ⟨?_, ?_, hsplit.last⟩, ?_⟩
    · have hjoined : String.ofList cs = unlines ended ++ last := hsplit.joined
      rw [unlines_cons, String.append_assoc, ← hjoined, String.ofList_append, String.append_assoc]
      have hfeed : String.ofList (['\n'] ++ cs) = "\n" ++ String.ofList cs := String.ofList_append
      exact congrArg _ hfeed
    · refine List.forall_mem_cons.mpr ⟨?_, hsplit.ended⟩
      rwa [String.toList_ofList, List.mem_reverse]
    · rw [List.map_cons, List.map_cons, withoutReturn_ofList_reverse, hlines]
      rfl
  | case4 line c cs hc ih =>
    have hline' : '\n' ∉ c :: line := List.not_mem_cons_of_ne_of_not_mem (Ne.symm hc) hline
    obtain ⟨ended, last, hsplit, hlines⟩ := ih hline'
    rw [List.reverse_cons, List.append_assoc] at hsplit
    exact ⟨ended, last, hsplit, hlines⟩

/-- The lines of a text are those that end with a line feed, without a carriage return before it,
and the rest if it is not empty. -/
theorem lines_spec (s : String) :
    ∃ ended last, FallsIntoLines s ended last ∧
      lines s = ended.map withoutReturn ++ if last = "" then [] else [last] := by
  have hstart : '\n' ∉ ([] : List Char) := List.not_mem_nil
  obtain ⟨ended, last, hsplit, hlines⟩ := @linesFrom_spec s.toList [] hstart
  rw [List.reverse_nil, List.nil_append, String.ofList_toList] at hsplit
  exact ⟨ended, last, hsplit, hlines⟩

/-! ## Comments before members and functions

The two places where a comment is written: `Fragment.member` and `RequestFunction.text`. -/

/-- The first `*/` in the member of a parameter is the one after its description. -/
theorem firstEnd_member (p : Parameter) (binding type : String) :
    FirstEnd (Fragment.member p binding type)
      ("\n    /** " ++ commentText (p.description.getD "") ++ " ")
      ("\n    " ++ binding ++ (if p.required then "" else "?") ++ ":" ++ type ++ ",") := by
  have hbefore : EndsNoComment
      ("\n    /** " ++ commentText (p.description.getD "") ++ " ").toList := by
    rw [String.toList_append, String.toList_append]
    refine (EndsNoComment.append ?_ (endsNoComment_commentText _) (Or.inl ?_)).append ?_ (Or.inr ?_)
    all_goals decide
  have hclosing : " */\n    " = " " ++ "*/" ++ "\n    " := by decide
  have htext := FirstEnd.of_endsNoComment hbefore
    ("\n    " ++ binding ++ (if p.required then "" else "?") ++ ":" ++ type ++ ",")
  rw [Fragment.member, hclosing]
  simpa only [String.append_assoc] using htext

namespace RequestFunction

/-- The text of a function divided at the end of its comment. -/
theorem text_eq (f : RequestFunction) :
    f.text = unlines ("/**" :: (lines f.doc).map (" * " ++ commentText ·)) ++ " " ++ "*/" ++
      ("\n" ++ unlines f.body) := by
  have hclosing : " */" = " " ++ "*/" := by decide
  rw [text, comment, List.append_assoc, unlines_append, List.singleton_append,
    List.singleton_append, unlines_cons " */" f.body, hclosing]
  simp only [String.append_assoc]

/-- The first `*/` in the text of a function is the one after its documentation. -/
theorem firstEnd_text (f : RequestFunction) :
    FirstEnd f.text (unlines ("/**" :: (lines f.doc).map (" * " ++ commentText ·)) ++ " ")
      ("\n" ++ unlines f.body) := by
  have hlines : ∀ line ∈ "/**" :: (lines f.doc).map (" * " ++ commentText ·),
      EndsNoComment line.toList := by
    refine List.forall_mem_cons.mpr ⟨by decide, ?_⟩
    intro line hline
    obtain ⟨l, -, rfl⟩ := List.mem_map.mp hline
    rw [String.toList_append]
    exact EndsNoComment.append (by decide) (endsNoComment_commentText l) (Or.inl (by decide))
  have hbefore : EndsNoComment
      (unlines ("/**" :: (lines f.doc).map (" * " ++ commentText ·)) ++ " ").toList := by
    rw [String.toList_append]
    exact (endsNoComment_unlines hlines).append (by decide) (Or.inr (by decide))
  rw [text_eq]
  exact FirstEnd.of_endsNoComment hbefore _

end RequestFunction

/-- **Comments.** The first `*/`, in the sense of `FirstEnd`, is

* in the member of `params` for a parameter the one that `Fragment.member` writes after the
  description;
* in the text of a function the one after the lines of its documentation, all of which stand before
  it in their order.

The functions of a document have the documentation of their operations. What the lines of a text are
and what `commentText` does with them is specified by `FallsIntoLines` and `BrokenUp`, for every
text. -/
theorem comments_stay_closed :
    (∀ (p : Parameter) (binding type : String),
      FirstEnd (Fragment.member p binding type)
        ("\n    /** " ++ commentText (p.description.getD "") ++ " ")
        ("\n    " ++ binding ++ (if p.required then "" else "?") ++ ":" ++ type ++ ",")) ∧
    (∀ (o : Operation) (f : RequestFunction), f.doc = o.doc →
      FirstEnd f.text (unlines ("/**" :: (lines o.doc).map (" * " ++ commentText ·)) ++ " ")
        ("\n" ++ unlines f.body)) ∧
    (∀ document useHeaders fs, (requestFunctions document useHeaders).result = .ok fs →
      List.Forall₂ (fun e f => f.doc = e.operation.doc) document.endpoints fs) ∧
    (∀ s, ∃ ended last, FallsIntoLines s ended last ∧
      lines s = ended.map withoutReturn ++ if last = "" then [] else [last]) ∧
    ∀ s, BrokenUp s (commentText s) := by
  refine ⟨firstEnd_member, ?_, ?_, lines_spec, brokenUp_commentText⟩
  · intro o f hdoc
    rw [← hdoc]
    exact f.firstEnd_text
  · intro document useHeaders fs hfs
    refine (requestFunctionsFrom_forall₂ hfs).imp ?_
    rintro e f ⟨taken, hf⟩
    obtain ⟨b, -, rfl⟩ := requestFunction_ok_inv hf
    rfl

/-- A parameter whose description contains several characters of ends of comments. -/
def noisyLimit : Parameter :=
  ⟨"limit", .query, false, some "at most **// 10 *", some "string", none, none, none⟩

/-- An operation whose texts contain an end of a comment and different line breaks. -/
def noisyOperation : Operation :=
  { Operation.empty with
    summary := some "All pets */ alert(1) /*"
    description := some "Sorted by\r\nname **//\n*"
    parameters := [.inline noisyLimit]
    deprecated := true }

/-- The document with this operation. -/
def noisyPets : Document :=
  { Document.empty with
    paths := [("/pets", ⟨fun | .get => some noisyOperation | _ => none, []⟩)] }

/-- The comments of `noisyPets`, with their ends. -/
theorem comments_stay_closed_noisyPets :
    ∃ f, (requestFunctions noisyPets false).result = .ok [f] ∧
      f.bundle.signature = Fragment.member noisyLimit "limit" "string" ∧
      FirstEnd (Fragment.member noisyLimit "limit" "string")
        "\n    /** at most **\\// 10 * " "\n    limit?:string," ∧
      FirstEnd f.text
        ("/**\n * All pets *\\/ alert(1) /*\n * Sorted by\n * name **\\//\n * *\n" ++
          " * @deprecated\n ")
        ("\n" ++ unlines f.body) := by
  obtain ⟨f, hf, hsignature⟩ : ∃ f, (requestFunctions noisyPets false).result = .ok [f] ∧
      f.bundle.signature = Fragment.member noisyLimit "limit" "string" := by
    refine ⟨_, rfl, ?_⟩
    decide +kernel
  obtain ⟨hmember, htext, hdocs, -⟩ := comments_stay_closed
  refine ⟨f, hf, hsignature, ?_, ?_⟩
  · have hbefore : "\n    /** " ++ commentText (noisyLimit.description.getD "") ++ " " =
        "\n    /** at most **\\// 10 * " := by decide +kernel
    have hafter : "\n    " ++ "limit" ++ (if noisyLimit.required then "" else "?") ++ ":" ++
        "string" ++ "," = "\n    limit?:string," := by decide +kernel
    rw [← hbefore, ← hafter]
    exact hmember noisyLimit "limit" "string"
  · have hdoc : f.doc = noisyOperation.doc :=
      (List.forall₂_cons.mp (hdocs noisyPets false [f] hf)).1
    have hbefore : unlines ("/**" :: (lines noisyOperation.doc).map (" * " ++ commentText ·)) ++
        " " = "/**\n * All pets *\\/ alert(1) /*\n * Sorted by\n * name **\\//\n * *\n" ++
          " * @deprecated\n " := by decide +kernel
    rw [← hbefore]
    exact htext noisyOperation f hdoc

end SwaggerRequests
