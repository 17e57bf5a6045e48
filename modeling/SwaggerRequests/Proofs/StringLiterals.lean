import Mathlib.Data.List.Basic

/-!
# String literals

`readLiteral` reads a string literal in single quotes, as they are lexed in a module: it returns the
UTF-16 code units that the literal denotes (`utf16`) and the characters behind the closing quote.
The reader is a state machine. `LiteralState` says where in an escape it is, and `LiteralState.step`
takes one character.

The main theorem, `readLiteral_quoted_iff`, states that `'name'` denotes `name` exactly if `name` is
`Plain`: it has no quote, no backslash and no line end of ASCII.

* From right to left, the reader stays in `LiteralState.plain` and copies (`read_plain_of_plain`).
* From left to right, the proof counts code units. A step produces at most as many units as the
  character has that it takes, and `LiteralState.surplus` counts those that an unfinished escape has
  saved (`step_surplus`). An escape therefore denotes less than it is written with
  (`read_plain_inv`), and a literal with an escape or an earlier quote cannot denote all of `name`.
-/

namespace SwaggerRequests

/-! ## Code units

UTF-16, as far as the lengths are concerned: a character has one or two code units. -/

/-- The UTF-16 code units of the code point `n`: itself, or a pair of surrogates. -/
def unitsOf (n : Nat) : List Nat :=
  if n < 0x10000 then [n]
  else [0xD800 + (n - 0x10000) / 0x400, 0xDC00 + (n - 0x10000) % 0x400]

/-- The UTF-16 code units of a text. -/
def utf16 (cs : List Char) : List Nat := cs.flatMap fun c => unitsOf c.toNat

variable {c : Char} {cs name rest : List Char} {units : List Nat}

theorem length_unitsOf_le (n : Nat) : (unitsOf n).length ≤ 2 := by
  rw [unitsOf]
  split <;> simp

theorem length_unitsOf_pos (n : Nat) : 0 < (unitsOf n).length := by
  rw [unitsOf]
  split <;> simp

theorem length_utf16_cons :
    (utf16 (c :: cs)).length = (unitsOf c.toNat).length + (utf16 cs).length := by
  rw [utf16, List.flatMap_cons, List.length_append]
  rfl

theorem length_utf16_append :
    (utf16 (cs ++ name)).length = (utf16 cs).length + (utf16 name).length := by
  rw [utf16, List.flatMap_append, List.length_append]
  rfl

/-! ## The reader

The escapes are those of a string literal in strict mode: single characters, `\x` with two digits,
`\u` with four digits or with digits in braces, `\0`, and escaped line ends. -/

/-- The value of `c` as a hexadecimal digit. -/
def hexDigit? (c : Char) : Option Nat :=
  if c.isDigit then some (c.toNat - '0'.toNat)
  else if 'a' ≤ c ∧ c ≤ 'f' then some (c.toNat - 'a'.toNat + 10)
  else if 'A' ≤ c ∧ c ≤ 'F' then some (c.toNat - 'A'.toNat + 10)
  else none

/-- The line ends, including U+2028 and U+2029. -/
def isLineEnd (c : Char) : Bool := c == '\n' || c == '\r' || c == '\u2028' || c == '\u2029'

/-- The character that `\c` denotes, which is `c` itself if the language gives it no other
meaning. -/
def escapeValue : Char → Char
  | 'b' => '\x08'
  | 't' => '\t'
  | 'n' => '\n'
  | 'v' => '\x0b'
  | 'f' => '\x0c'
  | 'r' => '\r'
  | c => c

/-- The state of the reader: outside of escapes, or how much of an escape has been read. -/
inductive LiteralState where
  /-- outside of escapes -/
  | plain
  /-- behind a backslash -/
  | escaped
  /-- behind an escaped carriage return, which a line feed may follow -/
  | returned
  /-- behind `\0`, which no digit may follow -/
  | zero
  /-- in `\x` or `\u`: one digit and `more` others are missing, and `value` is the value so far -/
  | digits (more value : Nat)
  /-- behind `\u` -/
  | unicode
  /-- in the braces of `\u`, with the value of the digits so far if there is one -/
  | braced (value : Option Nat)
  deriving DecidableEq

namespace LiteralState

/-- The state is not inside an escape, so a quote closes the literal. -/
def isBetween : LiteralState → Bool
  | plain | returned | zero => true
  | _ => false

/-- The step outside of escapes. A backslash starts an escape, and the line ends of ASCII are
refused. -/
def stepPlain (c : Char) : Option (List Nat × LiteralState) :=
  if c = '\\' then some ([], escaped)
  else if c = '\n' ∨ c = '\r' then none
  else some (unitsOf c.toNat, plain)

/-- The step behind a backslash. Digits other than `0` are refused, because there are no octal
escapes in strict mode. -/
def stepEscaped (c : Char) : Option (List Nat × LiteralState) :=
  if c = '\r' then some ([], returned)
  else if isLineEnd c then some ([], plain)
  else if c = 'x' then some ([], digits 1 0)
  else if c = 'u' then some ([], unicode)
  else if c = '0' then some ([0], zero)
  else if c.isDigit then none
  else some (unitsOf (escapeValue c).toNat, plain)

/-- Takes the character `c`: the code units that it completes, and the next state. -/
def step : LiteralState → Char → Option (List Nat × LiteralState)
  | plain, c => stepPlain c
  | escaped, c => stepEscaped c
  | returned, c => if c = '\n' then some ([], plain) else stepPlain c
  | zero, c => if c.isDigit then none else stepPlain c
  | digits 0 value, c => (hexDigit? c).map fun d => ([16 * value + d], plain)
  | digits (more + 1) value, c =>
    (hexDigit? c).map fun d => ([], digits more (16 * value + d))
  | unicode, c =>
    if c = '\x7b' then some ([], braced none)
    else (hexDigit? c).map fun d => ([], digits 2 d)
  | braced value, c =>
    if c = '\x7d' then (value.filter (· ≤ 0x10FFFF)).map fun n => (unitsOf n, plain)
    else (hexDigit? c).map fun d => ([], braced (some (16 * value.getD 0 + d)))

/-- Reads up to the closing quote: the code units, and the characters behind the quote. -/
def read : LiteralState → List Char → Option (List Nat × List Char)
  | _, [] => none
  | s, c :: cs =>
    if s.isBetween && c == '\'' then some ([], cs)
    else (s.step c).bind fun (units, s') =>
      (s'.read cs).map fun (more, rest) => (units ++ more, rest)

end LiteralState

/-- Reads a literal from its opening quote on. -/
def readLiteral : List Char → Option (List Nat × List Char)
  | '\'' :: cs => LiteralState.plain.read cs
  | _ => none

/-! ## Counting code units

`surplus` is a potential: units produced plus the surplus after a step are at most the units taken
plus the surplus before. -/

namespace LiteralState

variable {s s' : LiteralState}

/-- The code units of an unfinished escape that were read and not produced, apart from the
backslash. -/
def surplus : LiteralState → Nat
  | plain | escaped | returned | zero => 0
  | digits .. | unicode => 1
  | braced _ => 2

/-- `escapeValue c` has at most as many code units as `c`. -/
theorem length_escapeValue_le (c : Char) :
    (unitsOf (escapeValue c).toNat).length ≤ (unitsOf c.toNat).length := by
  unfold escapeValue
  split <;> first | exact length_unitsOf_pos _ | exact Nat.le_refl _

/-- The bound for `stepPlain`, whose state has no surplus. -/
theorem stepPlain_surplus (h : stepPlain c = some (units, s')) :
    units.length + s'.surplus ≤ (unitsOf c.toNat).length := by
  rw [stepPlain] at h
  split_ifs at h
  · obtain ⟨rfl, rfl⟩ := Prod.mk.inj (Option.some.inj h)
    exact Nat.zero_le _
  · obtain ⟨rfl, rfl⟩ := Prod.mk.inj (Option.some.inj h)
    exact Nat.le_refl _

/-- The bound for `stepEscaped`. -/
theorem stepEscaped_surplus (h : stepEscaped c = some (units, s')) :
    units.length + s'.surplus ≤ (unitsOf c.toNat).length := by
  have hpos := length_unitsOf_pos c.toNat
  have hvalue := length_escapeValue_le c
  rw [stepEscaped] at h
  split_ifs at h
  all_goals
    obtain ⟨rfl, rfl⟩ := Prod.mk.inj (Option.some.inj h)
    simp only [surplus, List.length_nil, List.length_singleton]
    omega

/-- A step produces at most the units of its character and those that `surplus` has saved, and saves
the rest. -/
theorem step_surplus (h : s.step c = some (units, s')) :
    units.length + s'.surplus ≤ s.surplus + (unitsOf c.toNat).length := by
  have hpos := length_unitsOf_pos c.toNat
  -- a hexadecimal digit produces nothing until the last one, which produces what was saved
  cases s with
  | plain => exact Nat.le_trans (stepPlain_surplus h) (Nat.le_add_left _ _)
  | escaped => exact Nat.le_trans (stepEscaped_surplus h) (Nat.le_add_left _ _)
  | returned =>
    rw [step] at h
    split_ifs at h
    · obtain ⟨rfl, rfl⟩ := Prod.mk.inj (Option.some.inj h)
      exact Nat.zero_le _
    · exact Nat.le_trans (stepPlain_surplus h) (Nat.le_add_left _ _)
  | zero =>
    rw [step] at h
    split_ifs at h
    exact Nat.le_trans (stepPlain_surplus h) (Nat.le_add_left _ _)
  | digits more value =>
    rcases more with _ | more
    · obtain ⟨d, -, hd⟩ := Option.map_eq_some_iff.mp h
      obtain ⟨rfl, rfl⟩ := Prod.mk.inj hd
      exact Nat.le_add_right 1 _
    · obtain ⟨d, -, hd⟩ := Option.map_eq_some_iff.mp h
      obtain ⟨rfl, rfl⟩ := Prod.mk.inj hd
      exact Nat.le_add_right 1 _
  | unicode =>
    rw [step] at h
    split_ifs at h
    · obtain ⟨rfl, rfl⟩ := Prod.mk.inj (Option.some.inj h)
      exact Nat.add_le_add_left hpos 1
    · obtain ⟨d, -, hd⟩ := Option.map_eq_some_iff.mp h
      obtain ⟨rfl, rfl⟩ := Prod.mk.inj hd
      exact Nat.le_add_right 1 _
  | braced value =>
    rw [step] at h
    split_ifs at h
    · obtain ⟨n, -, hn⟩ := Option.map_eq_some_iff.mp h
      obtain ⟨rfl, rfl⟩ := Prod.mk.inj hn
      exact Nat.le_trans (length_unitsOf_le n) (Nat.le_add_right 2 _)
    · obtain ⟨d, -, hd⟩ := Option.map_eq_some_iff.mp h
      obtain ⟨rfl, rfl⟩ := Prod.mk.inj hd
      exact Nat.le_add_right 2 _

/-- `read` of `c :: cs` closes the literal with `c`, or takes a `step` and continues with `read` of
`cs`. A quote inside an escape does not close the literal, so both cases can have a quote. -/
theorem read_cons_inv (h : s.read (c :: cs) = some (units, rest)) :
    (c = '\'' ∧ units = [] ∧ rest = cs) ∨
      ∃ first s' more, s.step c = some (first, s') ∧ s'.read cs = some (more, rest) ∧
        units = first ++ more := by
  rw [read] at h
  split_ifs at h with hquote
  · obtain ⟨rfl, rfl⟩ := Prod.mk.inj (Option.some.inj h)
    rw [Bool.and_eq_true, beq_iff_eq] at hquote
    exact Or.inl ⟨hquote.2, rfl, rfl⟩
  · obtain ⟨⟨first, s'⟩, hstep, h⟩ := Option.bind_eq_some_iff.mp h
    obtain ⟨⟨more, rest'⟩, hread, h⟩ := Option.map_eq_some_iff.mp h
    obtain ⟨rfl, rfl⟩ := Prod.mk.inj h
    exact Or.inr ⟨first, s', more, hstep, hread, rfl⟩

/-- A literal denotes at most as many code units as it is written with, apart from its closing
quote. The induction is on the text, with `step_surplus` for each character. -/
theorem read_surplus (h : s.read cs = some (units, rest)) :
    units.length + 1 + (utf16 rest).length ≤ s.surplus + (utf16 cs).length := by
  induction cs generalizing s units with
  | nil => cases h
  | cons c cs ih =>
    have hpos := length_unitsOf_pos c.toNat
    rw [length_utf16_cons]
    rcases read_cons_inv h with ⟨-, rfl, rfl⟩ | ⟨first, s', more, hstep, hread, rfl⟩
    · rw [List.length_nil]
      omega
    · have hfirst := step_surplus hstep
      have hmore := ih hread
      rw [List.length_append]
      omega

end LiteralState

/-! ## Texts that read back as themselves

The two directions of the theorem, for the state `LiteralState.plain`. -/

/-- The text has no single quote, no backslash, no line feed and no carriage return. -/
def Plain (cs : List Char) : Prop := ∀ c ∈ cs, c ∉ ['\'', '\\', '\n', '\r']

-- found by hand, since the search for an instance would range over all characters
instance : DecidablePred Plain := List.decidableBAll fun c => c ∉ ['\'', '\\', '\n', '\r']

theorem plain_cons : Plain (c :: cs) ↔ c ∉ ['\'', '\\', '\n', '\r'] ∧ Plain cs :=
  List.forall_mem_cons

theorem plain_append : Plain (cs ++ name) ↔ Plain cs ∧ Plain name :=
  List.forall_mem_append

/-- Either everything up to the closing quote is `Plain`, or the literal denotes fewer code units
than it is written with. The induction is on the text. At the first backslash `read_surplus` gives
the strict inequality for the rest. -/
theorem read_plain_inv (h : LiteralState.plain.read cs = some (units, rest)) :
    (∃ name, Plain name ∧ cs = name ++ '\'' :: rest) ∨
      units.length + 1 + (utf16 rest).length < (utf16 cs).length := by
  induction cs generalizing units with
  | nil => cases h
  | cons c cs ih =>
    have hpos := length_unitsOf_pos c.toNat
    rw [length_utf16_cons]
    by_cases hquote : c = '\''
    · subst hquote
      obtain ⟨-, rfl⟩ := Prod.mk.inj (Option.some.inj h)
      exact Or.inl ⟨[], List.forall_mem_nil _, rfl⟩
    · obtain ⟨first, s, more, hstep, hread, rfl⟩ := (LiteralState.read_cons_inv h).resolve_left
        fun hend => hquote hend.1
      rw [LiteralState.step, LiteralState.stepPlain] at hstep
      split_ifs at hstep with hescape hline
      · -- the backslash itself produces nothing, whatever the escape denotes
        obtain ⟨rfl, rfl⟩ := Prod.mk.inj (Option.some.inj hstep)
        have hmore := LiteralState.read_surplus hread
        rw [LiteralState.surplus] at hmore
        rw [List.nil_append]
        exact Or.inr (by omega)
      · obtain ⟨rfl, rfl⟩ := Prod.mk.inj (Option.some.inj hstep)
        rcases ih hread with ⟨name, hplain, rfl⟩ | hshort
        · refine Or.inl ⟨c :: name, plain_cons.mpr ⟨?_, hplain⟩, rfl⟩
          simpa [hquote, hescape] using hline
        · rw [List.length_append]
          exact Or.inr (by omega)

/-- A `Plain` text denotes its own code units. -/
theorem read_plain_of_plain (h : Plain name) :
    LiteralState.plain.read (name ++ '\'' :: rest) = some (utf16 name, rest) := by
  induction name with
  | nil => rfl
  | cons c name ih =>
    obtain ⟨hc, hname⟩ := plain_cons.mp h
    simp only [List.mem_cons, List.not_mem_nil, or_false, not_or] at hc
    obtain ⟨hquote, hescape, hfeed, hreturn⟩ := hc
    have hstep : LiteralState.plain.step c = some (unitsOf c.toNat, .plain) := by
      rw [LiteralState.step, LiteralState.stepPlain, if_neg hescape,
        if_neg (not_or.mpr ⟨hfeed, hreturn⟩)]
    rw [List.cons_append, LiteralState.read, if_neg (by simp [hquote]), hstep, Option.bind_some]
    change (LiteralState.plain.read (name ++ '\'' :: rest)).map _ = _
    rw [ih hname]
    rfl

/-- **Quoting a text.** Reading `'name'` gives the code units of `name` and the characters behind
the second quote exactly if `name` is `Plain`. The characters behind it may be any. From left to
right, the lengths exclude the second case of `read_plain_inv`, and in the first one the literal is
as long as `name`. -/
theorem readLiteral_quoted_iff :
    readLiteral ('\'' :: (name ++ '\'' :: rest)) = some (utf16 name, rest) ↔ Plain name := by
  refine ⟨fun h => ?_, read_plain_of_plain⟩
  rcases read_plain_inv h with ⟨name', hplain, hname⟩ | hshort
  · obtain rfl := List.append_cancel_right hname
    exact hplain
  · -- the text is as long as what it is to denote
    rw [length_utf16_append, length_utf16_cons] at hshort
    have hquote : (unitsOf '\''.toNat).length = 1 := rfl
    omega

/-- Escapes denote what they stand for, and an escaped line end denotes nothing. -/
example : readLiteral "'it\\'s \\x41\\u\x7b1F600\x7d\\\r\n' + x".toList =
    some (utf16 "it's A😀".toList, " + x".toList) := by
  decide

end SwaggerRequests
