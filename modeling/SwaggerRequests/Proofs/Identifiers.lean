import SwaggerRequests.Proofs.Declarations
import Mathlib.Data.List.DropRight
import Mathlib.Data.List.TakeWhile

/-!
# Identifiers

`className reference` is an identifier that ends with an underscore only if it is the underscore,
and which depends on the last segment of the reference only. Its form is the structure
`IsClassName`.

After the last segment is taken, `className` has three steps, and each could destroy what another
one has established. `replaceRuns` makes all characters legal and can put an underscore at the end;
`dropUnderscores` removes the underscores at the end and can bring a digit to the front or leave
nothing; `avoidLeadingDigit` corrects both by an underscore in front. That underscore is at the end
only if there is nothing else (`getLast?_avoidLeadingDigit`), so `IsClassName` holds after the last
step.

A text of this form passes all three steps unchanged (`classChars_of_isClassName`). It also has no
slash, so it is its own last segment, and therefore `className` is idempotent.
-/

namespace SwaggerRequests

variable {c by_ : Char} {cs : List Char} {inRun : Bool}

/-! ## Characters

`IsNameChar` is the specification of the characters of identifiers, without reference to the
program. -/

/-- A character that an identifier can have: a letter or a digit of ASCII, the underscore or the
dollar sign. -/
def IsNameChar (c : Char) : Prop := c.toNat < 128 ∧ (c.isAlphanum = true ∨ c = '_' ∨ c = '$')

instance : DecidablePred IsNameChar := fun c =>
  inferInstanceAs (Decidable (c.toNat < 128 ∧ (c.isAlphanum = true ∨ c = '_' ∨ c = '$')))

theorem isNameChar_underscore : IsNameChar '_' := by
  decide

theorem toNat_lt_of_isAlphanum (h : c.isAlphanum = true) : c.toNat < 128 := by
  rcases Bool.or_eq_true_iff.mp h with h | h
  · rcases Bool.or_eq_true_iff.mp h with h | h
    · have hupper : 65 ≤ c.toNat ∧ c.toNat ≤ 90 := decide_eq_true_iff.mp h
      omega
    · have hlower : c.toNat ≤ 122 := decide_eq_true_iff.mp (Bool.and_eq_true_iff.mp h).2
      omega
  · have hdigit : 48 ≤ c.toNat ∧ c.toNat ≤ 57 := Char.isDigit_iff_toNat.mp h
    omega

/-- The test `isIdentifierChar` of the program decides `IsNameChar`. -/
theorem isIdentifierChar_iff : isIdentifierChar c = true ↔ IsNameChar c := by
  simp only [isIdentifierChar, IsNameChar, Bool.or_eq_true, beq_iff_eq, or_assoc]
  constructor
  · intro h
    refine ⟨?_, h⟩
    rcases h with h | rfl | rfl
    · exact toNat_lt_of_isAlphanum h
    · decide
    · decide
  · exact And.right

/-! ## Runs of foreign characters

`replaceRuns by_` keeps the legal characters, in their order, and adds only the character `by_`. -/

/-- A character other than `by_` is in the result of `replaceRuns` exactly if it is in the text and
legal. -/
theorem mem_replaceRuns_iff (hc : c ≠ by_) :
    c ∈ replaceRuns by_ inRun cs ↔ c ∈ cs ∧ IsNameChar c := by
  rw [← isIdentifierChar_iff]
  fun_induction replaceRuns by_ inRun cs with
  | case1 inRun => simp
  | case2 inRun e cs he ih =>
    rw [List.mem_cons, List.mem_cons, ih]
    constructor
    · rintro (rfl | ⟨hmem, hname⟩)
      · exact ⟨Or.inl rfl, he⟩
      · exact ⟨Or.inr hmem, hname⟩
    · rintro ⟨rfl | hmem, hname⟩
      · exact Or.inl rfl
      · exact Or.inr ⟨hmem, hname⟩
  | case3 e cs he ih =>
    -- the run continues: this character is foreign, and it is dropped
    rw [ih, List.mem_cons]
    refine ⟨fun ⟨hmem, hname⟩ => ⟨Or.inr hmem, hname⟩, ?_⟩
    rintro ⟨rfl | hmem, hname⟩
    · exact absurd hname he
    · exact ⟨hmem, hname⟩
  | case4 inRun e cs he hrun ih =>
    rw [List.mem_cons, ih, List.mem_cons]
    constructor
    · rintro (rfl | ⟨hmem, hname⟩)
      · exact absurd rfl hc
      · exact ⟨Or.inr hmem, hname⟩
    · rintro ⟨rfl | hmem, hname⟩
      · exact absurd hname he
      · exact Or.inr ⟨hmem, hname⟩

/-- With underscores in place of the runs, all characters are legal. -/
theorem isNameChar_of_mem_replaceRuns (h : c ∈ replaceRuns '_' inRun cs) : IsNameChar c := by
  by_cases hc : c = '_'
  · subst hc
    exact isNameChar_underscore
  · exact ((mem_replaceRuns_iff hc).mp h).2

/-- A text of legal characters is not changed by `replaceRuns`. -/
theorem replaceRuns_of_forall (h : ∀ c ∈ cs, IsNameChar c) : replaceRuns by_ inRun cs = cs := by
  induction cs generalizing inRun with
  | nil => rfl
  | cons c cs ih =>
    obtain ⟨hc, hcs⟩ := List.forall_mem_cons.mp h
    rw [replaceRuns, if_pos (isIdentifierChar_iff.mpr hc), ih hcs]

/-! ## Underscores at the end

`dropUnderscores` is `List.rdropWhile`, whose lemmas give its properties. -/

theorem dropUnderscores_eq_rdropWhile (cs : List Char) :
    dropUnderscores cs = cs.rdropWhile (· == '_') := rfl

theorem mem_of_mem_dropUnderscores (h : c ∈ dropUnderscores cs) : c ∈ cs :=
  (List.rdropWhile_prefix (· == '_') (l := cs)).subset h

/-- After `dropUnderscores` the last character is not an underscore. -/
theorem getLast?_dropUnderscores (cs : List Char) : (dropUnderscores cs).getLast? ≠ some '_' := by
  intro h
  by_cases hnil : dropUnderscores cs = []
  · simp [hnil] at h
  · rw [List.getLast?_eq_some_getLast hnil, Option.some_inj] at h
    have hlast := List.rdropWhile_last_not (· == '_') cs hnil
    exact hlast (beq_iff_eq.mpr h)

/-- A text that does not end with an underscore is not changed by `dropUnderscores`. -/
theorem dropUnderscores_of_getLast? (h : cs.getLast? ≠ some '_') : dropUnderscores cs = cs := by
  rw [dropUnderscores_eq_rdropWhile, List.rdropWhile_eq_self_iff]
  intro hnil hlast
  apply h
  rw [List.getLast?_eq_some_getLast hnil, beq_iff_eq.mp hlast]

/-! ## Digits at the start

`avoidLeadingDigit` has two cases, in one of which it adds an underscore. -/

/-- Either `avoidLeadingDigit cs` is `cs` after an underscore, and `cs` is empty or starts with a
digit, or it is `cs`, which is not empty and does not start with a digit. -/
theorem avoidLeadingDigit_cases (cs : List Char) :
    (avoidLeadingDigit cs = '_' :: cs ∧ ∀ c, cs.head? = some c → c.isDigit = true) ∨
      (avoidLeadingDigit cs = cs ∧ cs ≠ [] ∧ ∀ c, cs.head? = some c → c.isDigit = false) := by
  cases cs with
  | nil => simp [avoidLeadingDigit]
  | cons c cs =>
    by_cases hc : c.isDigit = true
    · left
      simp [avoidLeadingDigit, hc]
    · right
      simp [avoidLeadingDigit, hc]

theorem avoidLeadingDigit_ne_nil (cs : List Char) : avoidLeadingDigit cs ≠ [] := by
  rcases avoidLeadingDigit_cases cs with ⟨h, -⟩ | ⟨h, hne, -⟩
  · rw [h]
    exact List.cons_ne_nil _ _
  · rwa [h]

theorem mem_avoidLeadingDigit (h : c ∈ avoidLeadingDigit cs) : c = '_' ∨ c ∈ cs := by
  rcases avoidLeadingDigit_cases cs with ⟨hcs, -⟩ | ⟨hcs, -, -⟩
  · rw [hcs] at h
    exact List.mem_cons.mp h
  · rw [hcs] at h
    exact Or.inr h

/-- After `avoidLeadingDigit` the first character is not a digit. -/
theorem isDigit_head?_avoidLeadingDigit (h : (avoidLeadingDigit cs).head? = some c) :
    c.isDigit = false := by
  rcases avoidLeadingDigit_cases cs with ⟨hcs, -⟩ | ⟨hcs, -, hstart⟩
  · rw [hcs] at h
    obtain rfl := Option.some.inj h
    decide
  · rw [hcs] at h
    exact hstart c h

/-- `avoidLeadingDigit` keeps the last character of a text that is not empty. -/
theorem getLast?_avoidLeadingDigit (hcs : cs ≠ []) :
    (avoidLeadingDigit cs).getLast? = cs.getLast? := by
  rcases avoidLeadingDigit_cases cs with ⟨h, -⟩ | ⟨h, -, -⟩
  · rw [h, List.getLast?_cons, List.getLast?_eq_some_getLast hcs]
    rfl
  · rw [h]

/-- A text that is not empty and does not start with a digit is not changed by
`avoidLeadingDigit`. -/
theorem avoidLeadingDigit_of_head? (hcs : cs ≠ [])
    (h : ∀ c, cs.head? = some c → c.isDigit = false) : avoidLeadingDigit cs = cs := by
  cases cs with
  | nil => exact absurd rfl hcs
  | cons c cs => rw [avoidLeadingDigit, h c rfl, if_neg Bool.false_ne_true]

/-- Characters `ds` at the end of a text that is not empty do not change what `avoidLeadingDigit`
does at its start. -/
theorem avoidLeadingDigit_append (hcs : cs ≠ []) (ds : List Char) :
    avoidLeadingDigit (cs ++ ds) = avoidLeadingDigit cs ++ ds := by
  cases cs with
  | nil => exact absurd rfl hcs
  | cons c cs =>
    rw [List.cons_append, avoidLeadingDigit, avoidLeadingDigit]
    split
    · rfl
    · rfl

/-! ## Last segments

`IsLastSegment` specifies the last segment of a reference as a string, and `isLastSegment_iff` shows
that `lastSegment` computes it. -/

/-- `segment` is the part of `reference` behind its last slash, or all of it if it has no slash. -/
def IsLastSegment (reference segment : String) : Prop :=
  '/' ∉ segment.toList ∧ (reference = segment ∨ ∃ front, reference = front ++ "/" ++ segment)

theorem slash_not_mem_lastSegment (cs : List Char) : '/' ∉ lastSegment cs := by
  intro h
  have hne := List.mem_takeWhile_imp (List.mem_reverse.mp h)
  exact absurd hne (by decide)

/-- The reversed text has no slash if the text has none, so `List.takeWhile` takes all of it. -/
theorem ne_slash_of_mem_reverse (h : '/' ∉ cs) : ∀ c ∈ cs.reverse, (c != '/') = true := by
  intro c hc
  rw [bne_iff_ne]
  rintro rfl
  exact h (List.mem_reverse.mp hc)

/-- A text without slashes is its own last segment. -/
theorem lastSegment_of_not_mem (h : '/' ∉ cs) : lastSegment cs = cs := by
  rw [lastSegment, List.takeWhile_eq_self_iff.mpr (ne_slash_of_mem_reverse h),
    List.reverse_reverse]

/-- The last segment of a text is what follows a slash behind which there is no other. -/
theorem lastSegment_append (front : List Char) (h : '/' ∉ cs) :
    lastSegment (front ++ '/' :: cs) = cs := by
  rw [lastSegment, List.reverse_append, List.reverse_cons, List.append_assoc,
    List.takeWhile_append_of_pos (ne_slash_of_mem_reverse h)]
  simp

/-- A text is its last segment, or its last segment after some `front` and a slash. -/
theorem eq_lastSegment_or_append (cs : List Char) :
    cs = lastSegment cs ∨ ∃ front, cs = front ++ '/' :: lastSegment cs := by
  have hsplit : cs = (cs.reverse.dropWhile (· != '/')).reverse ++ lastSegment cs := by
    rw [lastSegment, ← List.reverse_append, List.takeWhile_append_dropWhile, List.reverse_reverse]
  cases hrest : cs.reverse.dropWhile (· != '/') with
  | nil =>
    rw [hrest] at hsplit
    exact Or.inl hsplit
  | cons c rest =>
    have hhead := List.head?_dropWhile_not (· != '/') cs.reverse
    rw [hrest] at hhead hsplit
    have hslash : c = '/' := by simpa using hhead
    subst hslash
    refine Or.inr ⟨rest.reverse, ?_⟩
    conv_lhs => rw [hsplit]
    simp

/-- `lastSegment` computes the one segment that satisfies `IsLastSegment`. -/
theorem isLastSegment_iff {reference segment : String} :
    IsLastSegment reference segment ↔ segment.toList = lastSegment reference.toList := by
  constructor
  · rintro ⟨hslash, rfl | ⟨front, rfl⟩⟩
    · exact (lastSegment_of_not_mem hslash).symm
    · rw [String.toList_append, String.toList_append, List.append_assoc]
      exact (lastSegment_append front.toList hslash).symm
  · intro h
    refine ⟨h ▸ slash_not_mem_lastSegment _, ?_⟩
    rcases eq_lastSegment_or_append reference.toList with hall | ⟨front, hfront⟩
    · exact Or.inl (String.toList_inj.mp (hall.trans h.symm))
    · refine Or.inr ⟨String.ofList front, ?_⟩
      rw [← String.toList_inj, hfront, ← h]
      simp

/-! ## Classes

`classChars` has the three steps of `className` after the last segment is taken. -/

/-- The form of class names: identifiers that do not end with an underscore, except for the
underscore itself. -/
structure IsClassName (cs : List Char) : Prop where
  /-- the name is not empty -/
  nonempty : cs ≠ []
  /-- all characters are legal -/
  chars : ∀ c ∈ cs, IsNameChar c
  /-- the first character is not a digit -/
  start : ∀ c, cs.head? = some c → c.isDigit = false
  /-- only the underscore itself ends with an underscore -/
  ending : cs.getLast? = some '_' → cs = ['_']

/-- The name of the class with the given last segment of a reference. -/
def classChars (segment : List Char) : List Char :=
  avoidLeadingDigit (dropUnderscores (replaceRuns '_' false segment))

/-- `className` is `classChars` of the last segment. -/
theorem toList_className (reference : String) :
    (className reference).toList = classChars (lastSegment reference.toList) :=
  String.toList_ofList

/-- `classChars` always has the form `IsClassName`. -/
theorem isClassName_classChars (segment : List Char) : IsClassName (classChars segment) where
  nonempty := avoidLeadingDigit_ne_nil _
  chars := by
    intro c hc
    rcases mem_avoidLeadingDigit hc with rfl | hc
    · exact isNameChar_underscore
    · exact isNameChar_of_mem_replaceRuns (mem_of_mem_dropUnderscores hc)
  start := fun c hc => isDigit_head?_avoidLeadingDigit hc
  ending := by
    intro hlast
    by_cases hnil : dropUnderscores (replaceRuns '_' false segment) = []
    · rw [classChars, hnil]
      rfl
    · rw [classChars, getLast?_avoidLeadingDigit hnil] at hlast
      exact absurd hlast (getLast?_dropUnderscores _)

/-- A segment of the form `IsClassName` is not changed by `classChars`. -/
theorem classChars_of_isClassName {segment : List Char} (h : IsClassName segment) :
    classChars segment = segment := by
  rw [classChars, replaceRuns_of_forall h.chars]
  by_cases hlast : segment.getLast? = some '_'
  · -- the one underscore is cut and comes back in the place of nothing
    rw [h.ending hlast]
    rfl
  · rw [dropUnderscores_of_getLast? hlast]
    exact avoidLeadingDigit_of_head? h.nonempty h.start

/-- The class name of a reference is determined by its last segment. -/
theorem IsLastSegment.className_eq {reference segment : String}
    (h : IsLastSegment reference segment) :
    className reference = String.ofList (classChars segment.toList) := by
  rw [isLastSegment_iff.mp h]
  rfl

/-- A name of the form `IsClassName` has no slash, so it is its own last segment. -/
theorem IsClassName.isLastSegment {name : String} (h : IsClassName name.toList) :
    IsLastSegment name name := by
  refine ⟨fun hslash => ?_, Or.inl rfl⟩
  exact absurd (h.chars '/' hslash) (by decide)

/-- **Class names.** For every `reference`:

* `className reference` has the form `IsClassName`, and it is its own class name;
* the reference has a last segment, on which alone `className` depends, and if this segment has the
  form `IsClassName`, it is the class name;
* the `Descriptor.name` of the reference, if it has no name of its own, is not the name of an
  element, since `[` is not a character of class names. -/
theorem className_isClassName (reference : String) :
    IsClassName (className reference).toList ∧
    className (className reference) = className reference ∧
    (∃ segment, IsLastSegment reference segment) ∧
    (∀ segment, IsLastSegment reference segment →
      (∀ other, IsLastSegment other segment → className other = className reference) ∧
      (IsClassName segment.toList → className reference = segment)) ∧
    ¬ NamesElement (Descriptor.reference reference none).name := by
  have hform : IsClassName (className reference).toList := by
    rw [toList_className]
    exact isClassName_classChars _
  refine ⟨hform, ?_, ?_, ?_, ?_⟩
  · rw [hform.isLastSegment.className_eq, classChars_of_isClassName hform, String.ofList_toList]
  · refine ⟨String.ofList (lastSegment reference.toList), isLastSegment_iff.mpr ?_⟩
    exact String.toList_ofList
  · intro segment hsegment
    constructor
    · intro other hother
      rw [hother.className_eq, hsegment.className_eq]
    · intro hclass
      rw [hsegment.className_eq, classChars_of_isClassName hclass, String.ofList_toList]
  · intro helement
    have hbracket : '[' ∈ (className reference).toList := helement.subset (by decide)
    exact absurd (hform.chars '[' hbracket) (by decide)

/-- A reference with foreign characters in the middle and at the end, whose segment starts with a
digit. The class name that results is the last segment of other references, whose class it is. -/
theorem className_isClassName_petPage :
    className "#/definitions/1st«Page<Pet_»__" = "_1st_Page_Pet" ∧
      IsClassName "_1st_Page_Pet".toList ∧
      IsLastSegment "pets.json#/_1st_Page_Pet" "_1st_Page_Pet" ∧
      className "pets.json#/_1st_Page_Pet" = "_1st_Page_Pet" := by
  have hname : className "#/definitions/1st«Page<Pet_»__" = "_1st_Page_Pet" := by decide +kernel
  have hclass : IsClassName "_1st_Page_Pet".toList :=
    hname ▸ (className_isClassName "#/definitions/1st«Page<Pet_»__").1
  have hsegment : IsLastSegment "pets.json#/_1st_Page_Pet" "_1st_Page_Pet" :=
    ⟨by decide, Or.inr ⟨"pets.json#", by decide⟩⟩
  obtain ⟨-, -, -, hsegments, -⟩ := className_isClassName "pets.json#/_1st_Page_Pet"
  exact ⟨hname, hclass, hsegment, (hsegments "_1st_Page_Pet" hsegment).2 hclass⟩

end SwaggerRequests
