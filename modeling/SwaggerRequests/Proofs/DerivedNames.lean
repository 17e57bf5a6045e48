import SwaggerRequests.Proofs.CamelCase
import SwaggerRequests.Proofs.FunctionNames
import SwaggerRequests.Proofs.Identifiers

/-!
# Names in camel case

The two kinds of names that are derived in camel case, `binding` and `functionName`, and the second
with a number after it (`fresh`). Their form is `WordName`: in ASCII letters and digits, not
starting with a digit, with an underscore in front where a digit would come first, or where there is
nothing else. Names derived from ASCII have in addition the form `IsAsciiName`. A number at the end
preserves both (`wordName_numbered`, `isAsciiName_numbered`).

An operation without an id (`HasId`) is named after its path and its method. There is a blank
between the two, which is not alphanumeric, so the words of the method are added to those of the
path (`words_append_separator`). The name of a method is one word. It is the whole name, in small
letters, if the path has no word (`functionName_of_no_word`), and the last word, with a capital, if
it has (`functionName_of_word`). A name of the second form is never one of the first
(`append_capitalName_ne_lowerName`), so the method can be read off the name in both cases.
-/

namespace SwaggerRequests

open Unicode (isAlphanumeric IsWordChar)

variable {c d : Char} {cs a b w : List Char} {name : String} {id : Option String}
  {method : Method}

/-! ## Words

How `runs`, `words` and `camelCase` act on a text in which a separator, a character that is not
alphanumeric, stands between two parts. -/

/-- A separator ends the run before it, and the text behind it is divided on its own. The induction
is that of `runs`. -/
theorem runs_append_separator {run : List Char} (hc : isAlphanumeric c = false) :
    runs run (a ++ c :: b) = runs run a ++ runs [] b := by
  fun_induction runs run a with
  | case1 run hempty => simp [runs, hc, hempty]
  | case2 run hempty => simp [runs, hc, hempty]
  | case3 run e es he ih => simp [runs, he, ih]
  | case4 run e es he hempty ih => simp [runs, he, hempty, ih]
  | case5 run e es he hempty ih => simp [runs, he, hempty, ih]

/-- The words of `a ++ c :: b`, where `c` is a separator, are those of `a` and then those of `b`. -/
theorem words_append_separator (hc : isAlphanumeric c = false) (a b : List Char) :
    words (a ++ c :: b) = words a ++ words b := by
  rw [words, runs_append_separator hc, List.flatMap_append]
  rfl

theorem runs_eq_nil_iff {run : List Char} :
    runs run cs = [] ↔ run = [] ∧ ∀ c ∈ cs, isAlphanumeric c = false := by
  fun_induction runs run cs with
  | case1 run hempty => simpa using hempty
  | case2 run hempty => simpa using hempty
  | case3 run e es he ih => simp [ih, he]
  | case4 run e es he hempty ih =>
    rw [ih, List.forall_mem_cons]
    simpa [he] using fun _ => hempty
  | case5 run e es he hempty ih =>
    have hrun : run ≠ [] := by simpa using hempty
    simp [hrun]

/-- A run with a character has at least one hump. -/
theorem humps_ne_nil {last : Cased} (h : cs ≠ []) : humps last w cs ≠ [] := by
  fun_induction humps last w cs with
  | case1 => exact absurd rfl h
  | case2 last word c => exact List.cons_ne_nil _ _
  | case3 last word c d cs _ ih => exact List.cons_ne_nil _ _
  | case4 last word c d cs _ _ ih => exact List.cons_ne_nil _ _
  | case5 last word c d cs _ _ ih => exact ih (List.cons_ne_nil _ _)

/-- A text has no word exactly if it consists of separators. -/
theorem words_eq_nil_iff : words cs = [] ↔ ∀ c ∈ cs, isAlphanumeric c = false := by
  rw [words, List.flatMap_eq_nil_iff]
  constructor
  · intro h
    have hruns : runs [] cs = [] := by
      rw [List.eq_nil_iff_forall_not_mem]
      intro r hr
      exact humps_ne_nil (runs_spec hr).1 (h r hr)
    exact (runs_eq_nil_iff.mp hruns).2
  · intro h r hr
    rw [runs_eq_nil_iff.mpr ⟨rfl, h⟩] at hr
    cases hr

/-- If `b` is one word, `camelCase` writes it with a capital after that of `a`, or in small letters
if `a` has no word. -/
theorem camelCase_append_word (hc : isAlphanumeric c = false) (hb : words b = [w]) :
    camelCase (a ++ c :: b) =
      if words a = [] then smallWord w else camelCase a ++ capitalWord w := by
  rw [camelCase, camelCase, words_append_separator hc, hb]
  cases words a with
  | nil => simp
  | cons v vs => simp

theorem camelCase_ne_nil (h : words cs ≠ []) : camelCase cs ≠ [] := by
  unfold camelCase
  split
  · rename_i hws
    exact absurd hws h
  · rename_i w ws hws
    have hmem : w ∈ words cs := hws ▸ List.mem_cons_self ..
    exact List.append_ne_nil_of_left_ne_nil (smallWord_ne_nil (words_spec hmem).1) _

/-! ## ASCII

All functions on the way from a text to its name in camel case keep ASCII within ASCII. -/

/-- All characters are ASCII. -/
def IsAscii (cs : List Char) : Prop := ∀ c ∈ cs, c.toNat < 128

namespace Unicode

theorem ascii_of_mem_toLower (hc : c.toNat < 128) (hd : d ∈ toLower c) : d.toNat < 128 := by
  rw [toLower, if_pos (val_lt_iff.mpr hc), List.mem_singleton] at hd
  subst hd
  exact (ascii_casing hc).1.1

theorem ascii_of_mem_toUpper (hc : c.toNat < 128) (hd : d ∈ toUpper c) : d.toNat < 128 := by
  rw [toUpper, if_pos (val_lt_iff.mpr hc), List.mem_singleton] at hd
  subst hd
  exact (ascii_casing hc).1.2

end Unicode

theorem isAscii_smallWord (hw : IsAscii w) : IsAscii (smallWord w) := by
  intro d hd
  rcases mem_smallWord hd with ⟨-, hsigma⟩ | ⟨c, hc, hd⟩
  · exact absurd (hw 'Σ' hsigma) (by decide)
  · exact Unicode.ascii_of_mem_toLower (hw c hc) hd

theorem isAscii_capitalWord (hw : IsAscii w) : IsAscii (capitalWord w) := by
  intro d hd
  cases w with
  | nil => cases hd
  | cons c cs =>
    obtain ⟨hc, hcs⟩ := List.forall_mem_cons.mp hw
    rcases List.mem_append.mp hd with hd | hd
    · exact Unicode.ascii_of_mem_toUpper hc hd
    · exact isAscii_smallWord hcs d hd

/-- `camelCase` of an ASCII text is ASCII. The words have characters of the text only
(`words_spec`), and both ways to write a word keep ASCII. -/
theorem isAscii_camelCase (hcs : IsAscii cs) : IsAscii (camelCase cs) := by
  have hwords : ∀ w ∈ words cs, IsAscii w := fun w hw c hc => hcs c ((words_spec hw).2 c hc).1
  unfold camelCase
  split
  · intro d hd
    cases hd
  · rename_i w ws hws
    rw [hws] at hwords
    obtain ⟨hw, hrest⟩ := List.forall_mem_cons.mp hwords
    intro d hd
    rcases List.mem_append.mp hd with hd | hd
    · exact isAscii_smallWord hw d hd
    · obtain ⟨v, hv, hd⟩ := List.mem_flatMap.mp hd
      exact isAscii_capitalWord (hrest v hv) d hd

/-! ## The form of names

`avoidLeadingDigit` gives a text of letters and digits the form `WordName`. -/

/-- The form of derived names: in ASCII they consist of letters and digits and do not start with a
digit, except for an underscore in front where a digit would come first, or where there is nothing
else. -/
inductive WordName : List Char → Prop where
  /-- letters and digits, not starting with a digit -/
  | plain {c : Char} {cs : List Char} (hstart : c.isDigit = false)
    (hword : ∀ d ∈ c :: cs, IsWordChar d) : WordName (c :: cs)
  /-- an underscore, and then nothing, or letters and digits starting with a digit -/
  | marked {cs : List Char} (hstart : ∀ c, cs.head? = some c → c.isDigit = true)
    (hword : ∀ d ∈ cs, IsWordChar d) : WordName ('_' :: cs)

/-- The form of names derived from ASCII texts. -/
structure IsAsciiName (cs : List Char) : Prop where
  /-- all characters are ASCII -/
  ascii : IsAscii cs
  /-- the first character is a small letter or an underscore -/
  start : ∃ c, cs.head? = some c ∧ (c.isLower = true ∨ c = '_')

/-- `avoidLeadingDigit` of a text of `IsWordChar`s is a `WordName`. -/
theorem wordName_avoidLeadingDigit (h : ∀ c ∈ cs, IsWordChar c) :
    WordName (avoidLeadingDigit cs) := by
  rcases avoidLeadingDigit_cases cs with ⟨hcs, hstart⟩ | ⟨hcs, hne, hstart⟩
  · rw [hcs]
    exact WordName.marked hstart h
  · rw [hcs]
    cases cs with
    | nil => exact absurd rfl hne
    | cons c cs => exact WordName.plain (hstart c rfl) h

/-- The name in camel case of an ASCII text is an `IsAsciiName`. -/
theorem isAsciiName_avoidLeadingDigit (hcs : IsAscii cs) :
    IsAsciiName (avoidLeadingDigit (camelCase cs)) where
  ascii := by
    intro c hc
    rcases mem_avoidLeadingDigit hc with rfl | hc
    · decide
    · exact isAscii_camelCase hcs c hc
  start := by
    rcases avoidLeadingDigit_cases (camelCase cs) with ⟨h, -⟩ | ⟨h, hne, hstart⟩
    · exact ⟨'_', by rw [h]; rfl, Or.inr rfl⟩
    · -- a letter or a digit, but neither a digit nor a capital
      obtain ⟨c, hc⟩ := Option.ne_none_iff_exists'.mp (mt List.head?_eq_none_iff.mp hne)
      have hmem : c ∈ camelCase cs := List.mem_of_head? hc
      have hword := isWordChar_of_mem_camelCase hmem (isAscii_camelCase hcs c hmem)
      have hupper := not_isUpper_of_head?_camelCase hc
      refine ⟨c, by rw [h, hc], Or.inl ?_⟩
      simpa [Unicode.isAlphanum_iff, hupper, hstart c hc] using hword

/-- `numbered name n` is `name` with digits at its end, perhaps none. -/
theorem numbered_cases (name : String) (n : Nat) :
    ∃ digits, (numbered name n).toList = name.toList ++ digits ∧
      ∀ c ∈ digits, c.isDigit = true := by
  rcases Nat.eq_zero_or_pos n with rfl | hpos
  · exact ⟨[], (List.append_nil _).symm, fun c hc => absurd hc List.not_mem_nil⟩
  · refine ⟨Nat.toDigits 10 n, toList_numbered name hpos, fun c hc => ?_⟩
    exact Nat.isDigit_of_mem_toDigits (by decide) (by decide) hc

theorem isAlphanum_of_isDigit (h : c.isDigit = true) : c.isAlphanum = true := by
  rw [Char.isAlphanum, h, Bool.or_true]

/-- A number at its end preserves `WordName`. -/
theorem wordName_numbered (h : WordName name.toList) (n : Nat) :
    WordName (numbered name n).toList := by
  obtain ⟨digits, hdigits, hall⟩ := numbered_cases name n
  have hword : ∀ d ∈ digits, IsWordChar d := fun d hd _ => isAlphanum_of_isDigit (hall d hd)
  rw [hdigits]
  generalize name.toList = cs at h
  cases h with
  | plain hstart hcs => exact WordName.plain hstart (List.forall_mem_append.mpr ⟨hcs, hword⟩)
  | @marked cs hstart hcs =>
    rw [List.cons_append]
    refine WordName.marked ?_ (List.forall_mem_append.mpr ⟨hcs, hword⟩)
    -- behind a single underscore the next character is the first digit of the number
    intro c hc
    rw [List.head?_append] at hc
    rcases Option.or_eq_some_iff.mp hc with hc | ⟨-, hc⟩
    · exact hstart c hc
    · exact hall c (List.mem_of_head? hc)

/-- A number at its end preserves `IsAsciiName`. -/
theorem isAsciiName_numbered (h : IsAsciiName name.toList) (n : Nat) :
    IsAsciiName (numbered name n).toList := by
  obtain ⟨digits, hdigits, hall⟩ := numbered_cases name n
  obtain ⟨c, hc, hstart⟩ := h.start
  rw [hdigits]
  refine ⟨List.forall_mem_append.mpr ⟨h.ascii, fun d hd => ?_⟩, c, ?_, hstart⟩
  · exact toNat_lt_of_isAlphanum (isAlphanum_of_isDigit (hall d hd))
  · rw [List.head?_append, hc, Option.some_or]

/-! ## Names of operations without an id

Such a name is made of the path and the method, in this order. `pathName` is the part of the path,
and `Method.capitalName` the part of the method if the path has a word. -/

/-- The operation has an id that is not blank. -/
def HasId (id : Option String) : Prop :=
  ∃ s, id = some s ∧ ∃ c ∈ s.toList, Unicode.isWhiteSpace c = false

theorem isBlank_iff {s : String} :
    Unicode.isBlank s = true ↔ ∀ c ∈ s.toList, Unicode.isWhiteSpace c = true :=
  List.all_eq_true

/-- `functionName` treats a blank id like an absent one. -/
theorem filter_of_not_hasId (h : ¬ HasId id) : id.filter (!Unicode.isBlank ·) = none := by
  rw [Option.filter_eq_none_iff]
  intro s hs hblank
  simp only [Bool.not_eq_true', ← Bool.not_eq_true, isBlank_iff] at hblank
  apply hblank
  intro c hc
  by_contra hwhite
  exact h ⟨s, hs, c, hc, (Bool.not_eq_true _).mp hwhite⟩

theorem filter_of_hasId {s : String} (h : HasId (some s)) :
    (some s).filter (!Unicode.isBlank ·) = some s := by
  obtain ⟨s', hs, c, hc, hwhite⟩ := h
  obtain rfl := Option.some.inj hs
  rw [Option.filter_eq_some_iff]
  refine ⟨rfl, ?_⟩
  rw [Bool.not_eq_true', ← Bool.not_eq_true, isBlank_iff]
  intro hall
  rw [hall c hc] at hwhite
  cases hwhite

/-- The name of a method with a capital. -/
def Method.capitalName : Method → String
  | .get => "Get"
  | .put => "Put"
  | .post => "Post"
  | .delete => "Delete"
  | .options => "Options"
  | .head => "Head"
  | .patch => "Patch"

theorem Method.lowerName_injective : Function.Injective Method.lowerName := by
  intro m m' h
  cases m <;> cases m' <;> simp_all [Method.lowerName]

theorem Method.capitalName_injective : Function.Injective Method.capitalName := by
  intro m m' h
  cases m <;> cases m' <;> simp_all [Method.capitalName]

/-- The name of a method is one word. -/
theorem Method.words_lowerName (m : Method) :
    words m.lowerName.toList = [m.lowerName.toList] := by
  cases m <;> decide +kernel

theorem Method.avoidLeadingDigit_smallWord (m : Method) :
    avoidLeadingDigit (smallWord m.lowerName.toList) = m.lowerName.toList := by
  cases m <;> decide +kernel

theorem Method.capitalWord_lowerName (m : Method) :
    capitalWord m.lowerName.toList = m.capitalName.toList := by
  cases m <;> decide +kernel

theorem Method.isLower_of_mem_lowerName (m : Method) :
    ∀ c ∈ m.lowerName.toList, c.isLower = true := by
  cases m <;> simp [Method.lowerName]

/-- `Method.capitalName` has a character that is not a small letter. -/
theorem Method.exists_mem_capitalName (m : Method) :
    ∃ c ∈ m.capitalName.toList, c.isLower = false := by
  cases m <;> simp [Method.capitalName]

/-- The part of a function name that comes from the path. -/
def pathName (path : String) : String := binding (String.ofList (replaceRuns ' ' false path.toList))

theorem isAlphanumeric_of_ascii (hc : c.toNat < 128) : isAlphanumeric c = c.isAlphanum := by
  rw [isAlphanumeric, if_pos (Unicode.val_lt_iff.mpr hc)]

/-- A path has no word exactly if it has no letter and no digit of ASCII, because other characters
are replaced by blanks first. -/
theorem words_path_eq_nil_iff (path : String) :
    words (replaceRuns ' ' false path.toList) = [] ↔
      ∀ c ∈ path.toList, c.isAlphanum = false := by
  rw [words_eq_nil_iff]
  constructor
  · intro h c hc
    by_contra halpha
    rw [Bool.not_eq_false] at halpha
    have hascii := toNat_lt_of_isAlphanum halpha
    have hblank : c ≠ ' ' := by
      rintro rfl
      exact absurd halpha (by decide)
    have hnot := h c ((mem_replaceRuns_iff hblank).mpr ⟨hc, hascii, Or.inl halpha⟩)
    rw [isAlphanumeric_of_ascii hascii, halpha] at hnot
    cases hnot
  · intro h c hc
    by_cases hblank : c = ' '
    · subst hblank
      decide
    · obtain ⟨hmem, hascii, -⟩ := (mem_replaceRuns_iff hblank).mp hc
      rw [isAlphanumeric_of_ascii hascii]
      exact h c hmem

/-- Without an id, an operation is named by its method alone if its path has no letter and no
digit. -/
theorem functionName_of_no_word (h : ¬ HasId id) (method : Method) {path : String}
    (hpath : ∀ c ∈ path.toList, c.isAlphanum = false) :
    functionName method path id = method.lowerName := by
  have hseparator : isAlphanumeric ' ' = false := by decide
  unfold functionName
  simp only [filter_of_not_hasId h]
  rw [camelCase_append_word hseparator method.words_lowerName,
    if_pos ((words_path_eq_nil_iff path).mpr hpath), method.avoidLeadingDigit_smallWord,
    String.ofList_toList]

/-- Without an id, an operation is named `pathName path ++ method.capitalName` if its path has a
letter or a digit. The text of the name is the path, a blank and the method, which is one word. -/
theorem functionName_of_word (h : ¬ HasId id) (method : Method) {path : String}
    (hpath : ¬ ∀ c ∈ path.toList, c.isAlphanum = false) :
    functionName method path id = pathName path ++ method.capitalName := by
  have hseparator : isAlphanumeric ' ' = false := by decide
  have hwords : words (replaceRuns ' ' false path.toList) ≠ [] :=
    mt (words_path_eq_nil_iff path).mp hpath
  unfold functionName
  simp only [filter_of_not_hasId h]
  rw [camelCase_append_word hseparator method.words_lowerName, if_neg hwords,
    avoidLeadingDigit_append (camelCase_ne_nil hwords), method.capitalWord_lowerName,
    String.ofList_append, String.ofList_toList, pathName, binding, String.toList_ofList]

/-- A name that ends with `Method.capitalName` is not the name of a method in small letters. The
first has the capital of the method, and the second has small letters only. -/
theorem append_capitalName_ne_lowerName (front : String) (m : Method) :
    front ++ m.capitalName ≠ m.lowerName := by
  intro h
  obtain ⟨c, hc, hcapital⟩ := m.exists_mem_capitalName
  have hmem : c ∈ m.lowerName.toList := by
    rw [← h, String.toList_append]
    exact List.mem_append_right _ hc
  rw [m.isLower_of_mem_lowerName c hmem] at hcapital
  cases hcapital

/-! ## All names

The parts of the theorem for `functionName`, and the theorem. -/

/-- The name of a function is an `IsAsciiName`, unless the operation has an id with other
characters. -/
theorem isAsciiName_functionName (h : ¬ HasId id ∨ ∃ s, id = some s ∧ IsAscii s.toList)
    (method : Method) (path : String) : IsAsciiName (functionName method path id).toList := by
  unfold functionName
  rw [String.toList_ofList]
  apply isAsciiName_avoidLeadingDigit
  by_cases hid : HasId id
  · obtain ⟨s, rfl, hs⟩ := h.resolve_left (not_not_intro hid)
    simpa only [filter_of_hasId hid] using hs
  · simp only [filter_of_not_hasId hid]
    intro c hc
    rcases List.mem_append.mp hc with hc | hc
    · by_cases hblank : c = ' '
      · subst hblank
        decide
      · exact ((mem_replaceRuns_iff hblank).mp hc).2.1
    · rcases List.mem_cons.mp hc with rfl | hc
      · decide
      · apply toNat_lt_of_isAlphanum
        exact Unicode.isAlphanum_iff.mpr (Or.inl (Or.inr (method.isLower_of_mem_lowerName c hc)))

/-- **Derived names.** The names `binding name` and `functionName method path id`, the second also
after `fresh` has given it a number, have the following properties:

* each has the form `WordName`;
* each has the form `IsAsciiName` if it is derived from ASCII, or if the operation has no id;
* without an id, `functionName` is the name of the method in small letters exactly if the path has
  no letter and no digit of ASCII, and else it ends with `method.capitalName`;
* so two different methods of one path, both without an id, suggest different names. -/
theorem derived_names_wellFormed (name path : String) (id : Option String) (method : Method)
    (taken : List String) :
    WordName (binding name).toList ∧
    WordName (functionName method path id).toList ∧
    WordName (fresh taken (functionName method path id)).toList ∧
    (IsAscii name.toList → IsAsciiName (binding name).toList) ∧
    (¬ HasId id ∨ (∃ s, id = some s ∧ IsAscii s.toList) →
      IsAsciiName (functionName method path id).toList ∧
      IsAsciiName (fresh taken (functionName method path id)).toList) ∧
    (¬ HasId id →
      (functionName method path id = method.lowerName ↔
        ∀ c ∈ path.toList, c.isAlphanum = false) ∧
      (functionName method path id = method.lowerName ∨
        ∃ front, functionName method path id = front ++ method.capitalName) ∧
      ∀ method' id', method' ≠ method → ¬ HasId id' →
        functionName method' path id' ≠ functionName method path id) := by
  have hword : ∀ cs, WordName (String.ofList (avoidLeadingDigit (camelCase cs))).toList := by
    intro cs
    rw [String.toList_ofList]
    exact wordName_avoidLeadingDigit fun c hc => isWordChar_of_mem_camelCase hc
  have hfunction : WordName (functionName method path id).toList := hword _
  obtain ⟨n, hn, -⟩ := fresh_spec taken (functionName method path id)
  refine ⟨hword _, hfunction, ?_, ?_, ?_, ?_⟩
  · rw [hn]
    exact wordName_numbered hfunction n
  · intro hname
    rw [binding, String.toList_ofList]
    exact isAsciiName_avoidLeadingDigit hname
  · intro hid
    have hascii := isAsciiName_functionName hid method path
    rw [hn]
    exact ⟨hascii, isAsciiName_numbered hascii n⟩
  · intro hid
    by_cases hpath : ∀ c ∈ path.toList, c.isAlphanum = false
    · rw [functionName_of_no_word hid method hpath]
      refine ⟨⟨fun _ => hpath, fun _ => rfl⟩, Or.inl rfl, ?_⟩
      intro method' id' hne hid'
      rw [functionName_of_no_word hid' method' hpath]
      exact fun heq => hne (Method.lowerName_injective heq)
    · rw [functionName_of_word hid method hpath]
      refine ⟨⟨?_, fun h => absurd h hpath⟩, Or.inr ⟨_, rfl⟩, ?_⟩
      · exact fun heq => absurd heq (append_capitalName_ne_lowerName _ method)
      · intro method' id' hne hid'
        rw [functionName_of_word hid' method' hpath]
        exact fun heq => hne (Method.capitalName_injective ((String.append_right_inj _).mp heq))

/-- A parameter whose name starts with a digit, and two operations of one path, of which one has a
blank id and the other none. -/
theorem derived_names_wellFormed_bars :
    IsAscii "2fa".toList ∧ ¬ HasId (some " ") ∧ ¬ HasId none ∧
      binding "2fa" = "_2fa" ∧ IsAsciiName (binding "2fa").toList ∧
      functionName .get "/bars/\x7bbar_name\x7d" (some " ") = "barsBarNameGet" ∧
      fresh ["barsBarNameGet"] "barsBarNameGet" = "barsBarNameGet1" ∧
      IsAsciiName "barsBarNameGet1".toList ∧
      functionName .put "/bars/\x7bbar_name\x7d" none ≠ "barsBarNameGet" := by
  have hname : IsAscii "2fa".toList := by
    intro c hc
    have hmem : c = '2' ∨ c = 'f' ∨ c = 'a' := by simpa using hc
    rcases hmem with rfl | rfl | rfl <;> decide
  have hblank : ¬ HasId (some " ") := mt filter_of_hasId (by decide)
  have hnone : ¬ HasId none := by
    rintro ⟨s, hs, -⟩
    cases hs
  have hget : functionName .get "/bars/\x7bbar_name\x7d" (some " ") = "barsBarNameGet" := by
    decide +kernel
  have hfresh : fresh ["barsBarNameGet"] "barsBarNameGet" = "barsBarNameGet1" := by decide +kernel
  obtain ⟨-, -, -, hbinding, hascii, hunnamed⟩ :=
    derived_names_wellFormed "2fa" "/bars/\x7bbar_name\x7d" (some " ") .get ["barsBarNameGet"]
  rw [hget, hfresh] at hascii
  obtain ⟨-, -, hdistinct⟩ := hunnamed hblank
  rw [hget] at hdistinct
  exact ⟨hname, hblank, hnone, by decide +kernel, hbinding hname, hget, hfresh,
    (hascii (Or.inl hblank)).2, hdistinct .put none (by decide) hnone⟩

end SwaggerRequests
