import SwaggerRequests.CommandLine
import SwaggerRequests.Proofs.Outcome

/-!
# The stages of the arguments

The parser of the command line as a fold. `takeAll` is recursive on the list of arguments with three
accumulators: what has been said, which option waits for its value, and whether options are over.
`Stage` is the record of the three, and `takeAll_eq` states that `takeAll` is the fold of
`Stage.takeOne`, finished by `Stage.finish`. With this, the arguments before and after a position
can be treated separately.

It is used for the option `-o`. `Arguments.writingTo` sets the output, and a stage is `Silent` if
the output has not been mentioned. Every step that ends in a silent stage started in one, and it
does the same if the output is set beforehand (`Stage.takeOne_writingTo`, and
`Stage.takeMany_writingTo` for a list).

It follows that `-o output` can be inserted at every position where an option may stand. The result,
`addsOutput_of_option`, is that the arguments with the option are parsed to the arguments without
it, with the output set (`AddsOutput`).
-/

namespace SwaggerRequests.CommandLine

variable {a b : Arguments} {argument value output : String} {arguments : List String}

/-! ## Stages

The state of the parser between two arguments, and its step. -/

/-- The state of the parser between two arguments. -/
structure Stage where
  /-- what the arguments so far have set -/
  said : Arguments
  /-- the setting whose value is the next argument -/
  waiting : Option Setting
  /-- `--` was among the arguments, so the others are inputs -/
  escaped : Bool

namespace Stage

/-- The stage before the first argument. -/
def start : Stage := ⟨.none, none, false⟩

/-- Takes an argument whose `Shape` is known. A value is given to the setting that waits for it, and
an option in its place is a usage error. -/
def takeShape (s : Stage) (argument : String) (shape : Shape) : Except Refusal Stage :=
  match s.waiting, shape with
  | some setting, .plain => do return ⟨← s.said.give setting argument, none, false⟩
  | some _, _ => .error .usage
  | none, .plain => do return ⟨← s.said.take argument, none, s.escaped⟩
  | none, .escape => .ok ⟨s.said, none, true⟩
  | none, .long name value => do
    let (said, waiting) ← takeLong s.said name value
    return ⟨said, waiting, false⟩
  | none, .short letters => do
    let (said, waiting) ← takeShort s.said letters
    return ⟨said, waiting, false⟩

/-- Takes an argument. Behind `--` its shape is `Shape.plain`. -/
def takeOne (s : Stage) (argument : String) : Except Refusal Stage :=
  s.takeShape argument (if s.escaped then .plain else .of argument)

/-- The arguments, if no setting waits for its value. -/
def finish (s : Stage) : Except Refusal Arguments :=
  if s.waiting.isSome then .error .usage else .ok s.said

end Stage

/-- `takeAll` is the fold of `takeOne`, followed by `finish`. The induction is on the arguments,
with the stage generalized; each case of `takeAll` is one of `takeShape`. -/
theorem takeAll_eq (s : Stage) (arguments : List String) :
    takeAll s.said s.waiting s.escaped arguments =
      arguments.foldlM Stage.takeOne s >>= Stage.finish := by
  induction arguments generalizing s with
  | nil => rfl
  | cons argument arguments ih =>
    obtain ⟨said, waiting, escaped⟩ := s
    rw [List.foldlM_cons, bind_assoc, takeAll.eq_def, Stage.takeOne, Stage.takeShape.eq_def]
    dsimp only
    -- both sides make the same case distinction, and continue with the same stage
    generalize (if escaped then Shape.plain else Shape.of argument) = shape
    cases waiting with
    | none =>
      cases shape with
      | escape => exact ih ⟨said, none, true⟩
      | long name value =>
        dsimp only
        rcases takeLong said name value with e | ⟨said, waiting⟩
        · rfl
        · exact ih ⟨said, waiting, false⟩
      | short letters =>
        dsimp only
        rcases takeShort said letters with e | ⟨said, waiting⟩
        · rfl
        · exact ih ⟨said, waiting, false⟩
      | plain =>
        dsimp only
        rcases said.take argument with e | said
        · rfl
        · exact ih ⟨said, none, escaped⟩
    | some setting =>
      cases shape with
      | plain =>
        dsimp only
        rcases said.give setting argument with e | said
        · rfl
        · exact ih ⟨said, none, false⟩
      | _ => rfl

/-! ## The output

Every step of the parser, first without and then with an output that is already set. -/

/-- The arguments with the output `output`. -/
def Arguments.writingTo (a : Arguments) (output : String) : Arguments :=
  { a with output := some output }

/-- The stage with the output `output`. -/
def Stage.writingTo (s : Stage) (output : String) : Stage :=
  { s with said := s.said.writingTo output }

/-- The output is neither set nor waiting for its value. -/
def Stage.Silent (s : Stage) : Prop := s.said.output = none ∧ s.waiting ≠ some .output

/-- If `give` leaves the output unset, it was unset before, and `give` has the same effect with an
output. -/
theorem give_writingTo {setting : Setting} (h : a.give setting value = .ok b)
    (hb : b.output = none) (output : String) :
    a.output = none ∧ setting ≠ .output ∧
      (a.writingTo output).give setting value = .ok (b.writingTo output) := by
  rw [Arguments.give] at h
  split at h
  · cases h
  · rename_i hfree
    obtain rfl := Except.ok.inj h
    cases setting with
    | output => cases hb
    | models => exact ⟨hb, nofun, if_neg hfree⟩
    | runtime => exact ⟨hb, nofun, if_neg hfree⟩

/-- The same for an input, which `take` sets. -/
theorem take_writingTo (h : a.take value = .ok b) (hb : b.output = none) (output : String) :
    a.output = none ∧ (a.writingTo output).take value = .ok (b.writingTo output) := by
  rw [Arguments.take] at h
  split at h
  · cases h
  · rename_i hfree
    obtain rfl := Except.ok.inj h
    exact ⟨hb, if_neg hfree⟩

theorem withHeaders_writingTo (h : a.withHeaders = .ok b) (hb : b.output = none)
    (output : String) :
    a.output = none ∧ (a.writingTo output).withHeaders = .ok (b.writingTo output) := by
  rw [Arguments.withHeaders] at h
  split at h
  · cases h
  · rename_i hfree
    obtain rfl := Except.ok.inj h
    exact ⟨hb, if_neg hfree⟩

/-- The same for a long option other than `--output`. The cases are those of the definition: help,
the flag, and a setting with or without a value. -/
theorem takeLong_writingTo {name : String} {value : Option String} {waiting : Option Setting}
    (h : takeLong a name value = .ok (b, waiting)) (hb : b.output = none)
    (hwaiting : waiting ≠ some .output) (output : String) :
    a.output = none ∧
      takeLong (a.writingTo output) name value = .ok (b.writingTo output, waiting) := by
  rw [takeLong.eq_def] at h ⊢
  split at h
  · cases h
  · obtain ⟨said, hsaid, h⟩ := bind_eq_ok_iff.mp h
    obtain ⟨rfl, rfl⟩ := Prod.mk.inj (Except.ok.inj h)
    obtain ⟨ha, hsaid'⟩ := withHeaders_writingTo hsaid hb output
    refine ⟨ha, ?_⟩
    simp only [hsaid']
    rfl
  · split at h
    · obtain ⟨said, hsaid, h⟩ := bind_eq_ok_iff.mp h
      obtain ⟨rfl, rfl⟩ := Prod.mk.inj (Except.ok.inj h)
      obtain ⟨ha, -, hsaid'⟩ := give_writingTo hsaid hb output
      refine ⟨ha, ?_⟩
      simp only [hsaid']
      rfl
    · obtain ⟨rfl, rfl⟩ := Prod.mk.inj (Except.ok.inj h)
      exact ⟨hb, rfl⟩
    · cases h

/-- The only short option that sets anything is `-o`, so a short option cannot leave the output
unmentioned. -/
theorem takeShort_writingTo {letters : List Char} {waiting : Option Setting}
    (h : takeShort a letters = .ok (b, waiting)) : b.output ≠ none ∨ waiting = some .output := by
  have hgive : ∀ {value}, (do return (← a.give .output value, none)) = Except.ok (b, waiting) →
      b.output ≠ none := by
    intro value h hb
    obtain ⟨said, hsaid, h⟩ := bind_eq_ok_iff.mp h
    obtain ⟨rfl, -⟩ := Prod.mk.inj (Except.ok.inj h)
    obtain ⟨-, hne, -⟩ := give_writingTo hsaid hb ""
    exact hne rfl
  rw [takeShort.eq_def] at h
  split at h
  · cases h
  · exact Or.inr (Prod.mk.inj (Except.ok.inj h)).2.symm
  · exact Or.inl (hgive h)
  · exact Or.inl (hgive h)
  · cases h

namespace Stage

/-- The same for an argument of any shape. There is one case for each shape, with and without a
waiting setting. -/
theorem takeShape_writingTo {s t : Stage} {shape : Shape} (h : s.takeShape argument shape = .ok t)
    (ht : t.Silent) (output : String) :
    s.Silent ∧ (s.writingTo output).takeShape argument shape = .ok (t.writingTo output) := by
  obtain ⟨said, waiting, escaped⟩ := s
  obtain ⟨houtput, hwaiting⟩ := ht
  rw [takeShape.eq_def] at h ⊢
  cases waiting with
  | none =>
    cases shape with
    | escape =>
      obtain rfl := Except.ok.inj h
      exact ⟨⟨houtput, nofun⟩, rfl⟩
    | long name value =>
      obtain ⟨⟨said', waiting'⟩, hlong, h⟩ := bind_eq_ok_iff.mp h
      obtain rfl := Except.ok.inj h
      obtain ⟨hsaid, hlong'⟩ := takeLong_writingTo hlong houtput hwaiting output
      refine ⟨⟨hsaid, nofun⟩, ?_⟩
      simp only [writingTo, hlong']
      rfl
    | short letters =>
      obtain ⟨⟨said', waiting'⟩, hshort, h⟩ := bind_eq_ok_iff.mp h
      obtain rfl := Except.ok.inj h
      -- a short option sets the output or waits for it, so this stage is not silent
      rcases takeShort_writingTo hshort with hsaid | hnext
      · exact absurd houtput hsaid
      · exact absurd hnext hwaiting
    | plain =>
      obtain ⟨said', htake, h⟩ := bind_eq_ok_iff.mp h
      obtain rfl := Except.ok.inj h
      obtain ⟨hsaid, htake'⟩ := take_writingTo htake houtput output
      refine ⟨⟨hsaid, nofun⟩, ?_⟩
      simp only [writingTo, htake']
      rfl
  | some setting =>
    cases shape with
    | plain =>
      obtain ⟨said', hgive, h⟩ := bind_eq_ok_iff.mp h
      obtain rfl := Except.ok.inj h
      obtain ⟨hsaid, hsetting, hgive'⟩ := give_writingTo hgive houtput output
      refine ⟨⟨hsaid, fun heq => hsetting (Option.some.inj heq)⟩, ?_⟩
      simp only [writingTo, hgive']
      rfl
    | _ => cases h

/-- A step that ends in a silent stage starts in one, and has the same effect with an output. -/
theorem takeOne_writingTo {s t : Stage} (h : s.takeOne argument = .ok t) (ht : t.Silent)
    (output : String) :
    s.Silent ∧ (s.writingTo output).takeOne argument = .ok (t.writingTo output) :=
  takeShape_writingTo h ht output

/-- The same for a list of arguments, by induction. The silence is carried from the end to the
beginning, so the last argument is treated first. -/
theorem takeMany_writingTo {s t : Stage} (h : arguments.foldlM takeOne s = .ok t) (ht : t.Silent)
    (output : String) :
    s.Silent ∧ arguments.foldlM takeOne (s.writingTo output) = .ok (t.writingTo output) := by
  induction arguments generalizing s with
  | nil =>
    obtain rfl := Except.ok.inj h
    exact ⟨ht, rfl⟩
  | cons argument arguments ih =>
    rw [List.foldlM_cons] at h ⊢
    obtain ⟨next, hnext, h⟩ := bind_eq_ok_iff.mp h
    obtain ⟨hsilent, hrest⟩ := ih h
    obtain ⟨hs, hnext'⟩ := takeOne_writingTo hnext hsilent output
    rw [hnext']
    exact ⟨hs, hrest⟩

end Stage

/-- `parse` succeeds exactly if the fold ends without a waiting setting and there is an input. -/
theorem parse_eq_ok_iff {input : String} : parse arguments = .ok (a, input) ↔
    a.input = some input ∧
      ∃ escaped, arguments.foldlM Stage.takeOne .start = .ok ⟨a, none, escaped⟩ := by
  have hall : takeAll .none none false arguments =
      arguments.foldlM Stage.takeOne .start >>= Stage.finish := takeAll_eq .start arguments
  rw [parse, hall]
  refine ⟨fun h => ?_, ?_⟩
  · obtain ⟨said, hsaid, h⟩ := bind_eq_ok_iff.mp h
    obtain ⟨⟨said, waiting, escaped⟩, htaken, hfinish⟩ := bind_eq_ok_iff.mp hsaid
    rw [Stage.finish] at hfinish
    split at hfinish
    · cases hfinish
    · rename_i hwaiting
      obtain rfl := Except.ok.inj hfinish
      split at h
      · rename_i hinput
        obtain ⟨rfl, rfl⟩ := Prod.mk.inj (Except.ok.inj h)
        obtain rfl := Option.not_isSome_iff_eq_none.mp hwaiting
        exact ⟨hinput, escaped, htaken⟩
      · cases h
  · rintro ⟨hinput, escaped, htaken⟩
    have hall' : arguments.foldlM Stage.takeOne .start >>= Stage.finish = .ok a := by
      rw [htaken]
      rfl
    refine bind_eq_ok_iff.mpr ⟨a, hall', ?_⟩
    rw [hinput]

/-- Both lists are parsed, to the same input and to the same arguments, except that the second sets
the output. -/
def AddsOutput (arguments toFile : List String) (output : String) : Prop :=
  ∃ a input, parse arguments = .ok (a, input) ∧ a.output = none ∧
    parse toFile = .ok (a.writingTo output, input)

/-- Giving a value to the unset output is `writingTo`. -/
theorem give_output (ha : a.output = none) (hne : output.isEmpty = false) :
    a.give .output output = .ok (a.writingTo output) := by
  have hfree : (a.get .output).isSome = false := by
    change a.output.isSome = false
    rw [ha]
    rfl
  rw [Arguments.give, hfree, hne]
  rfl

/-- An argument that is not an option is taken as the value of `-o`, unless it is empty. -/
theorem Stage.takeOne_output (ha : a.output = none) (hplain : Shape.of output = .plain)
    (hne : output.isEmpty = false) :
    takeOne ⟨a, some .output, false⟩ output = .ok ⟨a.writingTo output, none, false⟩ := by
  rw [takeOne]
  simp only [Bool.false_eq_true, if_false, hplain]
  rw [takeShape.eq_def]
  simp only [give_output ha hne]
  rfl

/-- `-o output` may be inserted at any position where no setting waits for its value and options are
not over. The effect is that the output is set, if the arguments do not set it elsewhere. The stage
before the option is silent, so the arguments before it give the same stage, and those behind it
continue from the stage with the output. -/
theorem addsOutput_of_option {before after : List String} {said : Arguments} {input : String}
    (hparse : parse (before ++ after) = .ok (a, input)) (ha : a.output = none)
    (hbefore : before.foldlM Stage.takeOne .start = .ok ⟨said, none, false⟩)
    (hplain : Shape.of output = .plain) (hne : output.isEmpty = false) :
    AddsOutput (before ++ after) (before ++ "-o" :: output :: after) output := by
  obtain ⟨hinput, escaped, htaken⟩ := parse_eq_ok_iff.mp hparse
  refine ⟨a, input, hparse, ha, parse_eq_ok_iff.mpr ⟨hinput, escaped, ?_⟩⟩
  rw [List.foldlM_append, hbefore] at htaken ⊢
  obtain ⟨⟨hsaid, -⟩, hafter⟩ := Stage.takeMany_writingTo htaken ⟨ha, nofun⟩ output
  have hoption : Stage.takeOne ⟨said, none, false⟩ "-o" = .ok ⟨said, some .output, false⟩ := rfl
  change ("-o" :: output :: after).foldlM Stage.takeOne ⟨said, none, false⟩ = _
  rw [List.foldlM_cons, hoption]
  change (output :: after).foldlM Stage.takeOne ⟨said, some .output, false⟩ = _
  rw [List.foldlM_cons, Stage.takeOne_output hsaid hplain hne]
  exact hafter

end SwaggerRequests.CommandLine
