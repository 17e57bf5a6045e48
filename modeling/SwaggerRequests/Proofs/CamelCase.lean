import SwaggerRequests.Naming.CamelCase
import Mathlib.Data.List.Basic

/-!
# Words in camel case

The characters of `camelCase cs`: in ASCII it has letters and digits only
(`isWordChar_of_mem_camelCase`), and it does not start with a capital of ASCII
(`not_isUpper_of_head?_camelCase`).

The first needs a property of the tables of case mappings: what a table gives for a character above
ASCII is above ASCII too, or a letter (`Lands`). It is checked run by run (`RunLands`), by
evaluation of the finite tables. Surrogates are excluded, since `Char.ofNat` maps them to zero.

The second needs that no word is empty. A hump could be empty only where it is closed before a
capital that starts the next one; but the state `Cased.capital` means that the hump already has a
capital (`humps_spec`, where this is the invariant).
-/

namespace SwaggerRequests

namespace Unicode

variable {first n : Nat} {c d : Char}

/-! ## The tables

The four tables of `Unicode.LetterCase` are evaluated once, in the four lemmas of this section. All
other proofs use the property `Lands`. -/

/-- `n` is a valid code point above ASCII, or one of the 26 letters from `first` on. -/
def Lands (first n : Nat) : Prop :=
  (128 ≤ n ∧ n.isValidChar) ∨ (first ≤ n ∧ n < first + 26)

instance (first : Nat) : DecidablePred (Lands first) := fun n =>
  inferInstanceAs (Decidable ((128 ≤ n ∧ n.isValidChar) ∨ (first ≤ n ∧ n < first + 26)))

/-- All code points of a run of `Shifts` land in the sense of `Lands`, because the moved run lies on
one side of the surrogates or among the letters. -/
def RunLands (first : Nat) : Nat × Nat × Nat × Int → Prop
  | (start, last, _, distance) =>
    (128 ≤ start + distance ∧ last + distance < 0xD800) ∨
      (0xDFFF < start + distance ∧ last + distance < 0x110000) ∨
      ((first : Int) ≤ start + distance ∧ last + distance < first + 26)

instance (first : Nat) : DecidablePred (RunLands first) := fun (start, last, _, distance) =>
  inferInstanceAs (Decidable ((128 ≤ start + distance ∧ last + distance < 0xD800) ∨
    (0xDFFF < start + distance ∧ last + distance < 0x110000) ∨
    ((first : Int) ≤ start + distance ∧ last + distance < first + 26)))

theorem lowerShifts_land : ∀ r ∈ lowerShifts, RunLands 'a'.toNat r := by decide +kernel

theorem upperShifts_land : ∀ r ∈ upperShifts, RunLands 'A'.toNat r := by decide +kernel

theorem lowerExpansions_land : ∀ e ∈ lowerExpansions, ∀ n ∈ e.2, Lands 'a'.toNat n := by
  decide +kernel

theorem upperExpansions_land : ∀ e ∈ upperExpansions, ∀ n ∈ e.2, Lands 'A'.toNat n := by
  decide +kernel

/-! ## Case mappings

`toLower` and `toUpper` preserve `IsWordChar`, and `toLower` gives no capital of ASCII. -/

/-- `Char.ofNat` does not replace a code point that lands. -/
theorem Lands.toNat_ofNat (h : Lands first n) (hfirst : first + 26 ≤ 128) :
    (Char.ofNat n).toNat = n := by
  have hvalid : n.isValidChar := by
    rcases h with ⟨-, hvalid⟩ | ⟨-, hlt⟩
    · exact hvalid
    · exact Or.inl (by omega)
  rw [Char.ofNat, dif_pos hvalid]
  rfl

/-- `Shifts.move` leaves a code point as it is or moves it with the run of the table that holds
it. -/
theorem Shifts.move_cases (rs : Shifts) (n : Nat) :
    rs.move n = n ∨ ∃ start last step distance, (start, last, step, distance) ∈ rs ∧
      start ≤ n ∧ n ≤ last ∧ rs.move n = ((n : Int) + distance).toNat := by
  unfold move
  split
  · rename_i start last step distance hfind
    have hholds := List.find?_some hfind
    simp only [Bool.and_eq_true, decide_eq_true_eq] at hholds
    exact Or.inr ⟨start, last, step, distance, List.mem_of_find?_eq_some hfind,
      hholds.1.1, hholds.1.2, rfl⟩
  · exact Or.inl rfl

/-- If all runs of a table satisfy `RunLands`, moving a code point preserves `Lands`. -/
theorem Shifts.lands_move {rs : Shifts} (hrs : ∀ r ∈ rs, RunLands first r)
    (hn : Lands first n) : Lands first (rs.move n) := by
  rcases rs.move_cases n with h | ⟨start, last, step, distance, hmem, hstart, hlast, h⟩
  · rwa [h]
  · rw [h]
    have hrun := hrs _ hmem
    simp only [RunLands] at hrun
    unfold Lands Nat.isValidChar
    omega

theorem Expansions.mem_of_lookup {es : Expansions} {ns : List Nat}
    (h : es.lookup n = some ns) : (n, ns) ∈ es := by
  obtain ⟨as, bs, rfl, -⟩ := List.lookup_eq_some_iff.mp h
  exact List.mem_append_right as (List.mem_cons_self ..)

/-- The characters that `mapAbove` gives for a character above ASCII land, if all entries of its
tables do. -/
theorem lands_of_mem_mapAbove {expansions : Expansions} {shifts : Shifts}
    (hexpansions : ∀ e ∈ expansions, ∀ n ∈ e.2, Lands first n)
    (hshifts : ∀ r ∈ shifts, RunLands first r) (hfirst : first + 26 ≤ 128)
    (hc : 128 ≤ c.toNat) (hd : d ∈ mapAbove expansions shifts c) : Lands first d.toNat := by
  unfold mapAbove at hd
  split at hd
  · rename_i ns hns
    obtain ⟨n, hn, rfl⟩ := List.mem_map.mp hd
    have hlands := hexpansions _ (Expansions.mem_of_lookup hns) n hn
    rwa [hlands.toNat_ofNat hfirst]
  · obtain rfl := List.mem_singleton.mp hd
    have hlands := Shifts.lands_move hshifts (Or.inl ⟨hc, c.valid⟩ : Lands first c.toNat)
    rwa [hlands.toNat_ofNat hfirst]

theorem val_lt_iff : c.val < 128 ↔ c.toNat < 128 := UInt32.lt_iff_toNat_lt

/-- If the character is ASCII, it is a letter or a digit. -/
def IsWordChar (c : Char) : Prop := c.toNat < 128 → c.isAlphanum = true

theorem isWordChar_of_isAlphanumeric (h : isAlphanumeric c = true) : IsWordChar c := by
  intro hc
  rwa [isAlphanumeric, if_pos (val_lt_iff.mpr hc)] at h

theorem isUpper_iff_toNat : c.isUpper = true ↔ 65 ≤ c.toNat ∧ c.toNat ≤ 90 := by
  exact decide_eq_true_iff

theorem isLower_iff_toNat : c.isLower = true ↔ 97 ≤ c.toNat ∧ c.toNat ≤ 122 := by
  exact Bool.and_eq_true_iff.trans (and_congr decide_eq_true_iff decide_eq_true_iff)

/-- `Char.isAlphanum` by capitals, small letters and digits. -/
theorem isAlphanum_iff : c.isAlphanum = true ↔
    (c.isUpper = true ∨ c.isLower = true) ∨ c.isDigit = true := by
  exact Bool.or_eq_true_iff.trans (or_congr_left Bool.or_eq_true_iff)

theorem Lands.isWordChar (h : Lands first c.toNat)
    (hfirst : first = 'A'.toNat ∨ first = 'a'.toNat) : IsWordChar c := by
  intro hc
  have hletter := h.resolve_left fun habove => Nat.not_lt_of_le habove.1 hc
  rw [isAlphanum_iff, isUpper_iff_toNat, isLower_iff_toNat]
  rcases hfirst with rfl | rfl
  · exact Or.inl (Or.inl ⟨hletter.1, Nat.le_of_lt_succ hletter.2⟩)
  · exact Or.inl (Or.inr ⟨hletter.1, Nat.le_of_lt_succ hletter.2⟩)

/-- A character of `toLower c` is `c.toLower` if `c` is ASCII, and lands at `a` or above ASCII if
not. -/
theorem mem_toLower (h : d ∈ toLower c) :
    (c.toNat < 128 ∧ d = c.toLower) ∨ Lands 'a'.toNat d.toNat := by
  by_cases hc : c.toNat < 128
  · rw [toLower, if_pos (val_lt_iff.mpr hc)] at h
    exact Or.inl ⟨hc, List.mem_singleton.mp h⟩
  · rw [toLower, if_neg (mt val_lt_iff.mp hc)] at h
    exact Or.inr (lands_of_mem_mapAbove lowerExpansions_land lowerShifts_land (by decide)
      (Nat.le_of_not_lt hc) h)

/-- A character of `toUpper c` is `c.toUpper` if `c` is ASCII, and lands at `A` or above ASCII if
not. -/
theorem mem_toUpper (h : d ∈ toUpper c) :
    (c.toNat < 128 ∧ d = c.toUpper) ∨ Lands 'A'.toNat d.toNat := by
  by_cases hc : c.toNat < 128
  · rw [toUpper, if_pos (val_lt_iff.mpr hc)] at h
    exact Or.inl ⟨hc, List.mem_singleton.mp h⟩
  · rw [toUpper, if_neg (mt val_lt_iff.mp hc)] at h
    exact Or.inr (lands_of_mem_mapAbove upperExpansions_land upperShifts_land (by decide)
      (Nat.le_of_not_lt hc) h)

/-- On an ASCII character, `Char.toLower` and `Char.toUpper` stay within ASCII and keep letters and
digits among themselves, and `Char.toLower` gives no capital. It is evaluated for the 128
characters. -/
theorem ascii_casing (hc : c.toNat < 128) :
    (c.toLower.toNat < 128 ∧ c.toUpper.toNat < 128) ∧
    (c.isAlphanum = true → c.toLower.isAlphanum = true ∧ c.toUpper.isAlphanum = true) ∧
    c.toLower.isUpper = false := by
  have hall : ∀ n < 128,
      ((Char.ofNat n).toLower.toNat < 128 ∧ (Char.ofNat n).toUpper.toNat < 128) ∧
      ((Char.ofNat n).isAlphanum = true →
        (Char.ofNat n).toLower.isAlphanum = true ∧ (Char.ofNat n).toUpper.isAlphanum = true) ∧
      (Char.ofNat n).toLower.isUpper = false := by decide +kernel
  have h := hall c.toNat hc
  rwa [Char.ofNat_toNat] at h

/-- `toLower` preserves `IsWordChar`. -/
theorem IsWordChar.of_mem_toLower (hc : IsWordChar c) (hd : d ∈ toLower c) : IsWordChar d := by
  rcases mem_toLower hd with ⟨hascii, rfl⟩ | hlands
  · intro _
    obtain ⟨-, hcasing, -⟩ := ascii_casing hascii
    exact (hcasing (hc hascii)).1
  · exact hlands.isWordChar (Or.inr rfl)

/-- `toUpper` preserves `IsWordChar`. -/
theorem IsWordChar.of_mem_toUpper (hc : IsWordChar c) (hd : d ∈ toUpper c) : IsWordChar d := by
  rcases mem_toUpper hd with ⟨hascii, rfl⟩ | hlands
  · intro _
    obtain ⟨-, hcasing, -⟩ := ascii_casing hascii
    exact (hcasing (hc hascii)).2
  · exact hlands.isWordChar (Or.inl rfl)

theorem not_isUpper_of_mem_toLower (h : d ∈ toLower c) : ¬ d.isUpper = true := by
  rcases mem_toLower h with ⟨hascii, rfl⟩ | hlands
  · obtain ⟨-, -, hlower⟩ := ascii_casing hascii
    rw [hlower]
    exact Bool.false_ne_true
  · rw [isUpper_iff_toNat]
    change (128 ≤ d.toNat ∧ _) ∨ (97 ≤ d.toNat ∧ _) at hlands
    omega

/-- `toLower c` has at least one character. -/
theorem toLower_ne_nil (c : Char) : toLower c ≠ [] := by
  have hexpansions : ∀ e ∈ lowerExpansions, e.2 ≠ [] := by decide
  unfold toLower mapAbove
  split
  · exact List.cons_ne_nil _ _
  · split
    · rename_i ns hns
      exact fun hnil => hexpansions _ (Expansions.mem_of_lookup hns) (List.map_eq_nil_iff.mp hnil)
    · exact List.cons_ne_nil _ _

end Unicode

open Unicode (isAlphanumeric IsWordChar)

variable {c d : Char} {cs r w : List Char}

/-! ## Words

Each of `runs`, `humps` and `words` gives words that are not empty and have characters of the name
only. -/

/-- A run has at least one character. Its characters are those of `run`, the run that was started,
or alphanumeric ones of the text. The induction is on the text. -/
theorem runs_spec {run : List Char} (hr : r ∈ runs run cs) :
    r ≠ [] ∧ ∀ c ∈ r, c ∈ run ∨ (c ∈ cs ∧ isAlphanumeric c = true) := by
  fun_induction runs run cs with
  | case1 run hempty => cases hr
  | case2 run hempty =>
    obtain rfl := List.mem_singleton.mp hr
    refine ⟨?_, fun c hc => Or.inl (List.mem_reverse.mp hc)⟩
    simpa using hempty
  | case3 run c cs hc ih =>
    obtain ⟨hne, hmem⟩ := ih hr
    refine ⟨hne, fun d hd => ?_⟩
    rcases hmem d hd with hrun | ⟨hcs, halpha⟩
    · rcases List.mem_cons.mp hrun with rfl | hrun
      · exact Or.inr ⟨List.mem_cons_self .., hc⟩
      · exact Or.inl hrun
    · exact Or.inr ⟨List.mem_cons_of_mem _ hcs, halpha⟩
  | case4 run c cs hc hempty ih =>
    obtain ⟨hne, hmem⟩ := ih hr
    refine ⟨hne, fun d hd => ?_⟩
    obtain ⟨hcs, halpha⟩ := (hmem d hd).resolve_left List.not_mem_nil
    exact Or.inr ⟨List.mem_cons_of_mem _ hcs, halpha⟩
  -- the character ends a run that is not empty, and the next run starts behind it
  | case5 run c cs hc hempty ih =>
    rcases List.mem_cons.mp hr with rfl | hr
    · refine ⟨?_, fun d hd => Or.inl (List.mem_reverse.mp hd)⟩
      simpa using hempty
    · obtain ⟨hne, hmem⟩ := ih hr
      refine ⟨hne, fun d hd => ?_⟩
      obtain ⟨hcs, halpha⟩ := (hmem d hd).resolve_left List.not_mem_nil
      exact Or.inr ⟨List.mem_cons_of_mem _ hcs, halpha⟩

/-- A hump has at least one character, and its characters are among those of the text and of `word`,
the word that was started. The invariant of the induction is that `word` is not empty in the state
`Cased.capital`. -/
theorem humps_spec {last : Cased} {word : List Char} (hlast : last = .capital → word ≠ [])
    (hw : w ∈ humps last word cs) : w ≠ [] ∧ ∀ c ∈ w, c ∈ word ∨ c ∈ cs := by
  fun_induction humps last word cs with
  | case1 => cases hw
  | case2 last word c =>
    obtain rfl := List.mem_singleton.mp hw
    refine ⟨by simp, fun d hd => ?_⟩
    simpa [or_comm] using hd
  | case3 last word c d cs _ ih =>
    rcases List.mem_cons.mp hw with rfl | hw
    · refine ⟨by simp, fun e he => ?_⟩
      have he : e ∈ word ∨ e = c := by simpa using he
      exact he.imp_right fun h => List.mem_cons.mpr (Or.inl h)
    · obtain ⟨hne, hmem⟩ := ih (fun h => nomatch h) hw
      refine ⟨hne, fun e he => ?_⟩
      exact Or.inr (List.mem_cons_of_mem _ ((hmem e he).resolve_left List.not_mem_nil))
  -- a word ends before the capital `c`; it is not empty, because its last character was a capital
  | case4 last word c d cs _ hcapital ih =>
    rcases List.mem_cons.mp hw with rfl | hw
    · simp only [Bool.and_eq_true, beq_iff_eq] at hcapital
      refine ⟨by simpa using hlast hcapital.1.1, fun e he => Or.inl (List.mem_reverse.mp he)⟩
    · obtain ⟨hne, hmem⟩ := ih (fun h => nomatch h) hw
      refine ⟨hne, fun e he => Or.inr ?_⟩
      rcases hmem e he with he | he
      · exact List.mem_singleton.mp he ▸ List.mem_cons_self ..
      · exact List.mem_cons_of_mem _ he
  | case5 last word c d cs _ _ ih =>
    obtain ⟨hne, hmem⟩ := ih (fun _ => List.cons_ne_nil _ _) hw
    refine ⟨hne, fun e he => ?_⟩
    rcases hmem e he with he | he
    · rcases List.mem_cons.mp he with rfl | he
      · exact Or.inr (List.mem_cons_self ..)
      · exact Or.inl he
    · exact Or.inr (List.mem_cons_of_mem _ he)

/-- A word of a name has at least one character, and its characters are alphanumeric ones of the
name. The words are the humps of the runs, so this follows from `runs_spec` and `humps_spec`. -/
theorem words_spec (hw : w ∈ words cs) :
    w ≠ [] ∧ ∀ c ∈ w, c ∈ cs ∧ isAlphanumeric c = true := by
  obtain ⟨r, hr, hw⟩ := List.mem_flatMap.mp hw
  have hlast : Cased.none = .capital → ([] : List Char) ≠ [] := fun h => nomatch h
  obtain ⟨hne, hmem⟩ := humps_spec hlast hw
  refine ⟨hne, fun c hc => ?_⟩
  have hcr : c ∈ r := (hmem c hc).resolve_left List.not_mem_nil
  exact ((runs_spec hr).2 c hcr).resolve_left List.not_mem_nil

/-! ## Lowercase and capitalized words

The characters of `smallWord` and `capitalWord` come from `toLower` and `toUpper`, except for the
final sigma, which is above ASCII. -/

/-- A character of `smallWord w` is the final sigma, if `w` has a sigma, or a character of some
`toLower c`. -/
theorem mem_smallWord (h : d ∈ smallWord w) :
    (d = 'ς' ∧ 'Σ' ∈ w) ∨ ∃ c ∈ w, d ∈ Unicode.toLower c := by
  fun_induction smallWord w with
  | case1 => cases h
  | case2 c hc =>
    exact Or.inl ⟨List.mem_singleton.mp h, List.mem_singleton.mpr (beq_iff_eq.mp hc).symm⟩
  | case3 c hc => exact Or.inr ⟨c, List.mem_cons_self .., h⟩
  | case4 c cs _ ih =>
    rcases List.mem_append.mp h with h | h
    · exact Or.inr ⟨c, List.mem_cons_self .., h⟩
    · rcases ih h with ⟨hd, hsigma⟩ | ⟨e, he, hd⟩
      · exact Or.inl ⟨hd, List.mem_cons_of_mem _ hsigma⟩
      · exact Or.inr ⟨e, List.mem_cons_of_mem _ he, hd⟩

theorem smallWord_ne_nil (h : w ≠ []) : smallWord w ≠ [] := by
  fun_cases smallWord w with
  | case1 => exact absurd rfl h
  | case2 c hc => exact List.cons_ne_nil _ _
  | case3 c hc => exact Unicode.toLower_ne_nil c
  | case4 c cs _ => exact List.append_ne_nil_of_left_ne_nil (Unicode.toLower_ne_nil c) _

/-- `smallWord` preserves `IsWordChar`. -/
theorem isWordChar_of_mem_smallWord (hw : ∀ c ∈ w, IsWordChar c) (h : d ∈ smallWord w) :
    IsWordChar d := by
  rcases mem_smallWord h with ⟨rfl, -⟩ | ⟨c, hc, hd⟩
  · exact fun hascii => absurd hascii (by decide)
  · exact (hw c hc).of_mem_toLower hd

/-- `capitalWord` preserves `IsWordChar`. -/
theorem isWordChar_of_mem_capitalWord (hw : ∀ c ∈ w, IsWordChar c) (h : d ∈ capitalWord w) :
    IsWordChar d := by
  rcases w with _ | ⟨c, cs⟩
  · cases h
  · rcases List.mem_append.mp h with h | h
    · exact (hw c (List.mem_cons_self ..)).of_mem_toUpper h
    · exact isWordChar_of_mem_smallWord (fun e he => hw e (List.mem_cons_of_mem _ he)) h

/-- `smallWord` has no capital of ASCII. -/
theorem not_isUpper_of_mem_smallWord (h : d ∈ smallWord w) : ¬ d.isUpper = true := by
  rcases mem_smallWord h with ⟨rfl, -⟩ | ⟨c, -, hd⟩
  · decide
  · exact Unicode.not_isUpper_of_mem_toLower hd

/-! ## Names -/

/-- **Characters of camel case.** The ASCII characters of `camelCase cs` are letters and digits. -/
theorem isWordChar_of_mem_camelCase (h : d ∈ camelCase cs) : IsWordChar d := by
  have hwords : ∀ w ∈ words cs, ∀ c ∈ w, IsWordChar c := fun w hw c hc =>
    Unicode.isWordChar_of_isAlphanumeric ((words_spec hw).2 c hc).2
  unfold camelCase at h
  split at h
  · cases h
  · rename_i w ws hws
    rw [hws] at hwords
    rcases List.mem_append.mp h with h | h
    · exact isWordChar_of_mem_smallWord (hwords w (List.mem_cons_self ..)) h
    · obtain ⟨v, hv, h⟩ := List.mem_flatMap.mp h
      exact isWordChar_of_mem_capitalWord (hwords v (List.mem_cons_of_mem _ hv)) h

theorem underscore_not_mem_camelCase (cs : List Char) : '_' ∉ camelCase cs := fun h =>
  absurd (isWordChar_of_mem_camelCase h (by decide)) (by decide)

/-- `camelCase cs` does not start with a capital of ASCII, since its first word is in small letters
and has a character. -/
theorem not_isUpper_of_head?_camelCase (h : (camelCase cs).head? = some d) :
    ¬ d.isUpper = true := by
  unfold camelCase at h
  split at h
  · cases h
  · rename_i w ws hws
    have hmem : w ∈ words cs := hws ▸ List.mem_cons_self ..
    have hw : smallWord w ≠ [] := smallWord_ne_nil (words_spec hmem).1
    rw [List.head?_append_of_ne_nil _ hw] at h
    exact not_isUpper_of_mem_smallWord (List.mem_of_head? h)

end SwaggerRequests
