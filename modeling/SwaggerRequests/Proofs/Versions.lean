import SwaggerRequests.Version
import Mathlib.Data.List.TakeWhile

/-!
# Versions

`VersionDeclaration.check` accepts a document if its Swagger version is `2.0`, possibly followed by
a revision and surrounded by white space. `check_accepts_exactly` states this for all declarations,
in two ways.

* `VersionDeclaration.IsAccepted` describes the accepted texts as a concatenation, and `check`
  accepts exactly these.
* `Shows text version` describes the texts that have any version: two numbers with a point between
  them. A text shows at most one version, and it is accepted exactly if this is `2.0`, digit by
  digit.

Uniqueness is the main step, `Shows.eq_shown`. A text that shows a version has up to seven parts of
variable length, but white space, decimal digits and the point exclude each other
(`not_isDecimalDigit_of_isWhiteSpace`). So each part is a maximal run of its kind (`split_run`), and
`shownVersion` computes the version with `takeWhile` and `dropWhile`.
-/

namespace SwaggerRequests

open Unicode (Ranges isWhiteSpace isDecimalDigit)

/-! ## Kinds of characters

White space and decimal digits of Unicode, given by tables of ranges. -/

/-- If all ranges of `rs` and `qs` are disjoint, no number is in both. -/
theorem Unicode.Ranges.holds_apart {rs qs : Ranges} {n : Nat}
    (h : ∀ r ∈ rs, ∀ q ∈ qs, r.2 < q.1 ∨ q.2 < r.1) (hrs : rs.holds n = true) :
    qs.holds n = false := by
  simp only [holds, List.any_eq_true, Bool.and_eq_true, decide_eq_true_eq] at hrs
  obtain ⟨r, hr, hfirst, hlast⟩ := hrs
  simp only [holds, List.any_eq_false, Bool.and_eq_true, decide_eq_true_eq, not_and, not_le]
  intro q hq hn
  rcases h r hr q hq with hlt | hlt
  · omega
  · omega

/-- No white space is a decimal digit. The tables are compared range by range. -/
theorem not_isDecimalDigit_of_isWhiteSpace {c : Char} (h : isWhiteSpace c = true) :
    isDecimalDigit c = false := by
  unfold isWhiteSpace at h
  unfold isDecimalDigit
  split at h
  · rename_i hascii
    simp only [Bool.or_eq_true, beq_iff_eq, Bool.and_eq_true, decide_eq_true_eq] at h
    rw [if_pos hascii, Char.isDigit, Bool.and_eq_false_iff, decide_eq_false_iff_not]
    left
    rcases h with h | ⟨-, h⟩
    · simp [h]
    · exact fun h' => absurd (UInt32.le_trans h' h) (by decide)
  · rename_i hascii
    rw [if_neg hascii]
    exact Ranges.holds_apart (by decide +kernel) h

theorem not_isWhiteSpace_of_isDecimalDigit {c : Char} (h : isDecimalDigit c = true) :
    isWhiteSpace c = false := by
  cases hspace : isWhiteSpace c with
  | false => rfl
  | true =>
    rw [not_isDecimalDigit_of_isWhiteSpace hspace] at h
    cases h

/-! ## Runs

The parts of a text with a version, and where they end. -/

/-- If all of `xs` has the property `p` and `ys` does not begin with it, `takeWhile` and `dropWhile`
split `xs ++ ys` between them. -/
theorem split_run {p : Char → Bool} {xs ys : List Char} (hxs : ∀ c ∈ xs, p c = true)
    (hys : ∀ c, ys.head? = some c → p c = false) :
    (xs ++ ys).takeWhile p = xs ∧ (xs ++ ys).dropWhile p = ys := by
  rw [List.takeWhile_append_of_pos hxs, List.dropWhile_append_of_pos hxs]
  cases ys with
  | nil => simp
  | cons c ys => simp [hys c rfl]

/-- The text is white space, or empty. -/
def IsSpace (cs : List Char) : Prop := ∀ c ∈ cs, isWhiteSpace c = true

instance : DecidablePred IsSpace := fun _ => decidable_of_iff _ List.all_eq_true

/-- The text is a number: one decimal digit or more. -/
def IsNumber (cs : List Char) : Prop := cs ≠ [] ∧ ∀ c ∈ cs, isDecimalDigit c = true

instance : DecidablePred IsNumber := fun cs =>
  decidable_of_iff (cs ≠ [] ∧ cs.all isDecimalDigit = true) (and_congr_right' List.all_eq_true)

/-- The text is a revision, a point followed by a number, or empty. -/
def IsRevision (cs : List Char) : Prop := cs = [] ∨ ∃ number, IsNumber number ∧ cs = '.' :: number

/-- What follows the second number does not begin with a digit. -/
theorem not_isDecimalDigit_head? {revision after : List Char} (hrevision : IsRevision revision)
    (hafter : IsSpace after) :
    ∀ c, (revision ++ after).head? = some c → isDecimalDigit c = false := by
  intro c hc
  rcases hrevision with rfl | ⟨number, -, rfl⟩
  · exact not_isDecimalDigit_of_isWhiteSpace (hafter c (List.mem_of_head? hc))
  · obtain rfl := Option.some.inj hc
    decide

/-! ## Texts and the versions they show

The relation between texts and versions, and the function that it is the graph of. -/

/-- `text` is `version`, which is two numbers with a point between them, followed by a revision or
not, and surrounded by white space or not. -/
def Shows (text version : List Char) : Prop :=
  ∃ before major minor revision after,
    text = before ++ version ++ revision ++ after ∧ version = major ++ '.' :: minor ∧
      IsSpace before ∧ IsNumber major ∧ IsNumber minor ∧ IsRevision revision ∧ IsSpace after

/-- The version that `text` shows if it shows one: behind the white space, the digits, the point and
the digits behind the next character. -/
def shownVersion (text : List Char) : List Char :=
  let front := text.dropWhile isWhiteSpace
  front.takeWhile isDecimalDigit ++
    '.' :: ((front.dropWhile isDecimalDigit).drop 1).takeWhile isDecimalDigit

/-- If `text` shows `version`, then `version` is `shownVersion text`. The decomposition is taken
apart from the left: white space, digits, the point, digits. -/
theorem Shows.eq_shown {text version : List Char} (h : Shows text version) :
    version = shownVersion text := by
  obtain ⟨before, major, minor, revision, after, rfl, rfl, hbefore, hmajor, hminor, hrevision,
    hafter⟩ := h
  -- each run is cut off in turn, and the next character is of another kind
  have hfront : (before ++ (major ++ '.' :: minor) ++ revision ++ after).dropWhile isWhiteSpace =
      major ++ '.' :: (minor ++ (revision ++ after)) := by
    have hsplit : before ++ (major ++ '.' :: minor) ++ revision ++ after =
        before ++ (major ++ '.' :: (minor ++ (revision ++ after))) := by simp
    rw [hsplit]
    refine (split_run hbefore fun c hc => ?_).2
    apply not_isWhiteSpace_of_isDecimalDigit
    cases hcase : major with
    | nil => exact absurd hcase hmajor.1
    | cons d ds =>
      rw [hcase] at hc hmajor
      obtain rfl := Option.some.inj hc
      exact hmajor.2 d (List.mem_cons_self ..)
  have hpoint : ∀ c, ('.' :: (minor ++ (revision ++ after))).head? = some c →
      isDecimalDigit c = false := by
    intro c hc
    obtain rfl := Option.some.inj hc
    decide
  obtain ⟨htake, hdrop⟩ := split_run hmajor.2 hpoint
  obtain ⟨htake', -⟩ := split_run hminor.2 (not_isDecimalDigit_head? hrevision hafter)
  rw [shownVersion, hfront, htake, hdrop, List.drop_one, List.tail_cons, htake']

/-! ## Accepted versions

The parts of `isSupported` and `check`, and the theorem. -/

namespace VersionDeclaration

/-- `isRevision` is true for a revision, or nothing, followed by white space. From right to left,
`split_run` shows that the digits that `isRevision` takes are the number. -/
theorem isRevision_iff {cs : List Char} :
    isRevision cs = true ↔
      ∃ revision after, cs = revision ++ after ∧ IsRevision revision ∧ IsSpace after := by
  constructor
  · intro h
    unfold isRevision at h
    split at h
    · rename_i cs
      simp only [Bool.and_eq_true, decide_eq_true_eq, List.all_eq_true] at h
      obtain ⟨hlength, hspace⟩ := h
      refine ⟨'.' :: cs.takeWhile isDecimalDigit, cs.dropWhile isDecimalDigit, ?_,
        Or.inr ⟨_, ⟨?_, fun c hc => List.mem_takeWhile_imp hc⟩, rfl⟩, hspace⟩
      · rw [List.cons_append, List.takeWhile_append_dropWhile]
      · -- otherwise `dropWhile` would have dropped no digit behind the point
        intro hnil
        have hall := List.takeWhile_append_dropWhile (p := isDecimalDigit) (l := cs)
        rw [hnil, List.nil_append] at hall
        rw [hall] at hlength
        exact absurd hlength (lt_irrefl _)
    · exact ⟨[], cs, rfl, Or.inl rfl, List.all_eq_true.mp h⟩
  · rintro ⟨revision, after, rfl, rfl | ⟨number, hnumber, rfl⟩, hafter⟩
    -- white space does not begin with a point, so without a revision the other branch is taken
    · unfold isRevision
      rw [List.nil_append]
      split
      · exact absurd (hafter '.' (List.mem_cons_self ..)) (by decide)
      · exact List.all_eq_true.mpr hafter
    · have hstop := not_isDecimalDigit_head? (Or.inl rfl) hafter
      obtain ⟨-, hdrop⟩ := split_run hnumber.2 hstop
      rw [List.nil_append] at hdrop
      rw [List.cons_append, isRevision, hdrop]
      simpa using ⟨List.length_pos_iff.mpr hnumber.1, hafter⟩

/-- The text is `2.0`, followed by a revision or not, and surrounded by white space or not. -/
def IsAccepted (text : String) : Prop :=
  ∃ before revision after, text.toList = before ++ "2.0".toList ++ revision ++ after ∧
    IsSpace before ∧ IsRevision revision ∧ IsSpace after

/-- `isSupported` decides `IsAccepted`. The white space before the version is what `takeWhile`
takes, by `split_run`. -/
theorem isSupported_iff {text : String} : isSupported text = true ↔ IsAccepted text := by
  constructor
  · intro h
    unfold isSupported at h
    split at h
    · rename_i cs hfront
      obtain ⟨revision, after, rfl, hrevision, hafter⟩ := isRevision_iff.mp h
      have hall := List.takeWhile_append_dropWhile (p := isWhiteSpace) (l := text.toList)
      rw [hfront] at hall
      refine ⟨text.toList.takeWhile isWhiteSpace, revision, after, hall.symm.trans ?_,
        fun c hc => List.mem_takeWhile_imp hc, hrevision, hafter⟩
      simp
    · cases h
  · rintro ⟨before, revision, after, htext, hbefore, hrevision, hafter⟩
    have hsplit : text.toList = before ++ '2' :: '.' :: '0' :: (revision ++ after) := by
      rw [htext]
      simp
    have hfront : text.toList.dropWhile isWhiteSpace =
        '2' :: '.' :: '0' :: (revision ++ after) := by
      rw [hsplit]
      refine (split_run hbefore fun c hc => ?_).2
      obtain rfl := Option.some.inj hc
      decide
    unfold isSupported
    rw [hfront]
    exact isRevision_iff.mpr ⟨revision, after, rfl, hrevision, hafter⟩

/-- A text is accepted exactly if it shows the version `2.0`. The two descriptions differ only in
that `Shows` asks for a decomposition of the version into two numbers. -/
theorem isAccepted_iff_shows {text : String} :
    IsAccepted text ↔ Shows text.toList "2.0".toList := by
  constructor
  · rintro ⟨before, revision, after, htext, hbefore, hrevision, hafter⟩
    refine ⟨before, ['2'], ['0'], revision, after, htext, rfl, hbefore, ?_, ?_, hrevision, hafter⟩
    · decide
    · decide
  · rintro ⟨before, -, -, revision, after, htext, -, hbefore, -, -, hrevision, hafter⟩
    exact ⟨before, revision, after, htext, hbefore, hrevision, hafter⟩

/-- **Accepted versions.** `check` accepts a declaration exactly if it has a Swagger version that
`IsAccepted`.

* Any other Swagger version is refused with `.unsupported` and its text, whatever OpenAPI version is
  declared.
* If the Swagger version shows a version, it shows no other, and it is accepted exactly if this is
  `2.0`.
* If it shows none, it is refused with `.unsupported`.
* Without a Swagger version, an OpenAPI version is refused with `.unsupported`, and if both are
  missing the error is `.missing`. -/
theorem check_accepts_exactly :
    (∀ v : VersionDeclaration, v.check = .ok () ↔ ∃ text, v.swagger = some text ∧ IsAccepted text) ∧
    (∀ text openapi, ¬ IsAccepted text →
      check ⟨some text, openapi⟩ = .error (.unsupported text)) ∧
    (∀ text openapi version, Shows text.toList version →
      (∀ version', Shows text.toList version' → version' = version) ∧
      (check ⟨some text, openapi⟩ = .ok () ↔ version = "2.0".toList)) ∧
    (∀ text openapi, (¬ ∃ version, Shows text.toList version) →
      check ⟨some text, openapi⟩ = .error (.unsupported text)) ∧
    (∀ text, check ⟨none, some text⟩ = .error (.unsupported text)) ∧
    check ⟨none, none⟩ = .error .missing := by
  have hrefused : ∀ text openapi, ¬ IsAccepted text →
      check ⟨some text, openapi⟩ = .error (.unsupported text) := by
    intro text openapi h
    rw [← isSupported_iff] at h
    simp [check, h]
  have haccepted : ∀ v : VersionDeclaration,
      v.check = .ok () ↔ ∃ text, v.swagger = some text ∧ IsAccepted text := by
    rintro ⟨_ | text, openapi⟩
    · cases openapi <;> simp [check]
    · by_cases h : IsAccepted text
      · have hsupported := isSupported_iff.mpr h
        simp [check, hsupported, h]
      · simp [hrefused text openapi h, h]
  refine ⟨haccepted, hrefused, ?_, ?_, fun text => rfl, rfl⟩
  · intro text openapi version hshows
    refine ⟨fun version' hshows' => hshows'.eq_shown.trans hshows.eq_shown.symm, ?_⟩
    rw [haccepted]
    constructor
    · rintro ⟨_, htext, haccept⟩
      obtain rfl := Option.some.inj htext
      exact hshows.eq_shown.trans (isAccepted_iff_shows.mp haccept).eq_shown.symm
    · rintro rfl
      exact ⟨text, rfl, isAccepted_iff_shows.mpr hshows⟩
  · intro text openapi hnone
    apply hrefused
    rw [isAccepted_iff_shows]
    exact fun h => hnone ⟨_, h⟩

example : (["2.00", "02.0", "2.0.", "2.0.1.1", "2.0-rc", " 2 .0"].all fun text =>
    !isSupported text) = true := by decide +kernel

/-- White space and digits of other scripts are accepted. The text `2.00` shows another version, and
an OpenAPI version `2.0` beside it has no effect. -/
theorem check_accepts_exactly_revisions :
    check ⟨some "\u00a02.0.\u0663\n", some "3.1.0"⟩ = .ok () ∧
      Shows "2.00".toList "2.00".toList ∧
      check ⟨some "2.00", some "2.0"⟩ = .error (.unsupported "2.00") := by
  obtain ⟨haccepted, hrefused, hshown, -⟩ := check_accepts_exactly
  have hshows : Shows "2.00".toList "2.00".toList :=
    ⟨[], ['2'], ['0', '0'], [], [], rfl, rfl, by decide, by decide, by decide, Or.inl rfl,
      by decide⟩
  refine ⟨(haccepted _).mpr ⟨_, rfl, ?_⟩, hshows, hrefused _ _ fun haccept => ?_⟩
  · refine ⟨['\u00a0'], ['.', '\u0663'], ['\n'], by decide, ?_, Or.inr ⟨['\u0663'], ?_, rfl⟩, ?_⟩
    · decide +kernel
    · decide +kernel
    · decide +kernel
  · have hok := (haccepted ⟨some "2.00", some "2.0"⟩).mpr ⟨_, rfl, haccept⟩
    exact absurd ((hshown _ _ _ hshows).2.mp hok) (by decide)

end VersionDeclaration

end SwaggerRequests
