import SwaggerRequests.Proofs.CamelCase
import SwaggerRequests.Proofs.FunctionNames
import SwaggerRequests.Proofs.Growth
import SwaggerRequests.Proofs.Imports
import Mathlib.Data.Bool.Basic
import Mathlib.Data.String.Basic

/-!
# Names at the top level of a module

The top level of a generated module has names of three origins (`topLevelNames`): the imported
classes (`importsOf`), the names that every module has (`fixedNames`), and the names of the
functions. TypeScript requires that they are distinct and that none of them is in `reservedWords`.

`generate_names_distinct_iff` gives the exact condition. The names of one origin are always
distinct: the imports are strictly ascending, and `freshNames` has no duplicates. Between the
origins nothing is checked by the generator, so the condition names the three ways to fail: a class
that is fixed or reserved, a function that is, and a function with the name of a class.

The first two are expressed by the document itself, with `Endpoint.NeedsClass` and
`Endpoint.suggestedName`. This is possible because a name without a final digit is not the result of
numbering, so it is the name of a function exactly if an operation suggests it (`mem_names_iff`). No
fixed name and no reserved word ends in a digit (`endsInDigit_of_mem`). `names_clash_rootAndBase` is
a document for which the names clash.
-/

namespace SwaggerRequests

variable {document : Document} {useHeaders : Bool} {name : String}

/-! ## Ascending lists

`ascending` keeps the members of a list and returns them in strictly ascending order. -/

theorem mem_insertAscending {s : String} {ts : List String} :
    name ∈ insertAscending s ts ↔ name = s ∨ name ∈ ts := by
  induction ts with
  | nil => rw [insertAscending, List.mem_cons]
  | cons t ts ih =>
    rw [insertAscending]
    split
    · exact List.mem_cons
    · split
      · rename_i hst
        rw [hst, List.mem_cons, or_self_left]
      · rw [List.mem_cons, ih, List.mem_cons, or_left_comm]

/-- `insertAscending` preserves the strict order, since it does not insert a text that is there. -/
theorem pairwise_insertAscending {s : String} {ts : List String} (h : ts.Pairwise (· < ·)) :
    (insertAscending s ts).Pairwise (· < ·) := by
  induction ts with
  | nil => exact List.pairwise_singleton _ s
  | cons t ts ih =>
    obtain ⟨hhead, htail⟩ := List.pairwise_cons.mp h
    rw [insertAscending]
    split
    · rename_i hst
      refine List.pairwise_cons.mpr ⟨fun u hu => ?_, h⟩
      rcases List.mem_cons.mp hu with rfl | hu
      · exact hst
      · exact String.lt_trans hst (hhead u hu)
    · split
      · exact h
      · rename_i hst hne
        refine List.pairwise_cons.mpr ⟨fun u hu => ?_, ih htail⟩
        rcases mem_insertAscending.mp hu with rfl | hu
        · exact lt_of_le_of_ne (not_lt.mp hst) (Ne.symm hne)
        · exact hhead u hu

theorem mem_ascending {ss : List String} : name ∈ ascending ss ↔ name ∈ ss := by
  induction ss with
  | nil => rfl
  | cons s ss ih =>
    change name ∈ insertAscending s (ascending ss) ↔ _
    rw [mem_insertAscending, ih, List.mem_cons]

theorem pairwise_ascending (ss : List String) : (ascending ss).Pairwise (· < ·) := by
  induction ss with
  | nil => exact List.Pairwise.nil
  | cons s ss ih => exact pairwise_insertAscending ih

/-! ## Classes

The imports of the module are the classes that the emitted parameters of the operations consult. -/

/-- An emitted parameter of the operation consults a reference whose `className` is `name`. -/
def Endpoint.NeedsClass (document : Document) (useHeaders : Bool) (e : Endpoint) (name : String) :
    Prop :=
  ∃ d p reference, IsEmitted e.descriptors useHeaders document d p ∧ p.Consults reference ∧
    className reference = name

/-- The imports of the bundles of a list of functions, in terms of the operations that they are
generated for. -/
theorem mem_flatMap_imports_iff {es : List Endpoint} {fs : List RequestFunction}
    (h : List.Forall₂ (Generates document useHeaders) es fs) :
    name ∈ fs.flatMap (·.bundle.imports) ↔ ∃ e ∈ es, e.NeedsClass document useHeaders name := by
  induction h with
  | nil => simp
  | @cons e f es fs he _ ih =>
    have himports : name ∈ f.bundle.imports ↔ e.NeedsClass document useHeaders name :=
      mem_imports_iff he.bundle
    rw [List.flatMap_cons, List.mem_append, ih, himports, List.exists_mem_cons_iff]

/-- A name is in `importsOf` exactly if an operation needs the class. It combines `mem_imports_iff`
for all functions. -/
theorem mem_importsOf_iff {fs : List RequestFunction}
    (h : (requestFunctions document useHeaders).result = .ok fs) :
    name ∈ importsOf fs ↔ ∃ e ∈ document.endpoints, e.NeedsClass document useHeaders name := by
  rw [importsOf, mem_ascending, mem_flatMap_imports_iff (requestFunctionsFrom_ok_inv h).1]

/-! ## Functions

What the name of a function looks like, and which of them are suggested. -/

/-- The first character of the name is an uppercase letter of ASCII. -/
def startsWithCapital (name : String) : Bool := name.toList.head?.any Char.isUpper

/-- `suggestedName` is in camel case, so it does not start with a capital. -/
theorem startsWithCapital_suggestedName (e : Endpoint) :
    startsWithCapital e.suggestedName = false := by
  unfold startsWithCapital Endpoint.suggestedName functionName
  rw [String.toList_ofList, Option.any_eq_false]
  intro c hc
  generalize hcamel : camelCase _ = cs at hc
  rcases cs with _ | ⟨d, cs⟩
  · obtain rfl := Option.some.inj hc
    decide
  · rw [avoidLeadingDigit] at hc
    split at hc
    · obtain rfl := Option.some.inj hc
      decide
    · have hhead := (congrArg List.head? hcamel).trans hc
      exact Bool.eq_false_of_not_eq_true (not_isUpper_of_head?_camelCase hhead)

/-- Numbering a name does not change its first character to a capital. -/
theorem startsWithCapital_numbered (h : startsWithCapital name = false) (n : Nat) :
    startsWithCapital (numbered name n) = false := by
  rcases Nat.eq_zero_or_pos n with rfl | hpos
  · exact h
  · rw [startsWithCapital, Option.any_eq_false] at h ⊢
    intro c hc
    rw [toList_numbered name hpos, List.head?_append] at hc
    rcases Option.or_eq_some_iff.mp hc with hc | ⟨-, hc⟩
    · exact h c hc
    · have hdigit : 48 ≤ c.toNat ∧ c.toNat ≤ 57 := Char.isDigit_iff_toNat.mp
        (Nat.isDigit_of_mem_toDigits (by decide) (by decide) (List.mem_of_head? hc))
      refine Bool.eq_false_of_not_eq_true fun hupper => ?_
      have hcapital := Unicode.isUpper_iff_toNat.mp hupper
      omega

/-- No name of a function starts with a capital. -/
theorem startsWithCapital_of_mem_names {fs : List RequestFunction}
    (h : (requestFunctions document useHeaders).result = .ok fs)
    (hname : name ∈ fs.map RequestFunction.name) : startsWithCapital name = false := by
  rw [requestFunctionsFrom_names h] at hname
  obtain ⟨_, hsuggested, n, rfl⟩ := exists_numbered_of_mem_freshNames hname
  obtain ⟨e, -, rfl⟩ := List.mem_map.mp hsuggested
  exact startsWithCapital_numbered (startsWithCapital_suggestedName e) n

/-- A name without a final digit is the name of a function exactly if it is the `suggestedName` of
an operation. By `mem_freshNames_iff`, since a numbered name ends in a digit. -/
theorem mem_names_iff {fs : List RequestFunction}
    (h : (requestFunctions document useHeaders).result = .ok fs)
    (hname : endsInDigit name = false) :
    name ∈ fs.map RequestFunction.name ↔ ∃ e ∈ document.endpoints, e.suggestedName = name := by
  rw [requestFunctionsFrom_names h, mem_freshNames_iff hname, List.mem_map]

/-! ## Fixed names and reserved words

The fixed names and the reserved words. Those that start with a capital cannot be names of
functions. -/

/-- The names that every module imports from the runtime. -/
def runtimeNames : List String := ["request", "getConfigs", "RequestConfig", "RequestOptions"]

/-- The names that every module declares or imports, whatever the document is. -/
def fixedNames : List String := runtimeNames ++ ["basePath"]

/-- The words that are not identifiers in a module. -/
def reservedWords : List String :=
  ["await", "break", "case", "catch", "class", "const", "continue", "debugger", "default", "delete",
    "do", "else", "enum", "export", "extends", "false", "finally", "for", "function", "if",
    "implements", "import", "in", "instanceof", "interface", "let", "new", "null", "package",
    "private", "protected", "public", "return", "static", "super", "switch", "this", "throw",
    "true", "try", "typeof", "var", "void", "while", "with", "yield"]

/-- The names in `fixedNames` that do not start with a capital. -/
def fixedValues : List String := ["request", "getConfigs", "basePath"]

/-- No fixed name and no reserved word ends in a digit. -/
theorem endsInDigit_of_mem (h : name ∈ fixedNames ++ reservedWords) : endsInDigit name = false :=
  (by decide +kernel : ∀ name ∈ fixedNames ++ reservedWords, endsInDigit name = false) name h

/-- A fixed name or reserved word without a capital is in `fixedValues ++ reservedWords`. -/
theorem mem_fixedValues_of_mem (h : name ∈ fixedNames ++ reservedWords)
    (hname : startsWithCapital name = false) : name ∈ fixedValues ++ reservedWords :=
  (by decide +kernel : ∀ name ∈ fixedNames ++ reservedWords,
    startsWithCapital name = false → name ∈ fixedValues ++ reservedWords) name h hname

theorem mem_fixedNames_of_mem (h : name ∈ fixedValues ++ reservedWords) :
    name ∈ fixedNames ++ reservedWords :=
  (by decide +kernel : ∀ name ∈ fixedValues ++ reservedWords,
    name ∈ fixedNames ++ reservedWords) name h

/-- No function has a fixed or reserved name exactly if no operation suggests one of `fixedValues`
or `reservedWords`. The fixed names with a capital are left out on the right, because no suggestion
has one. -/
theorem names_clear_iff {fs : List RequestFunction}
    (h : (requestFunctions document useHeaders).result = .ok fs) :
    (∀ name ∈ fs.map RequestFunction.name, name ∉ fixedNames ++ reservedWords) ↔
      ∀ e ∈ document.endpoints, e.suggestedName ∉ fixedValues ++ reservedWords := by
  refine ⟨?_, ?_⟩
  · intro hclear e he hmem
    have hfixed := mem_fixedNames_of_mem hmem
    exact hclear e.suggestedName ((mem_names_iff h (endsInDigit_of_mem hfixed)).mpr ⟨e, he, rfl⟩)
      hfixed
  · intro hclear name hname hmem
    have hvalue := mem_fixedValues_of_mem hmem (startsWithCapital_of_mem_names h hname)
    obtain ⟨e, he, rfl⟩ := (mem_names_iff h (endsInDigit_of_mem hmem)).mp hname
    exact hclear e he hvalue

/-! ## Modules

The names of a module as a whole, and where they are in its text. -/

/-- The imported classes, the fixed names and the names of the functions. -/
def topLevelNames (fs : List RequestFunction) : List String :=
  importsOf fs ++ fixedNames ++ fs.map RequestFunction.name

/-- If the functions have distinct names, the names at the top level are distinct and not reserved
exactly if the classes and the functions avoid `fixedNames ++ reservedWords` and each other. A list
of three parts has no duplicates if each part has none and the parts are disjoint. -/
theorem topLevelNames_iff {fs : List RequestFunction}
    (hdistinct : (fs.map RequestFunction.name).Nodup) :
    ((topLevelNames fs).Nodup ∧ ∀ name ∈ topLevelNames fs, name ∉ reservedWords) ↔
      (∀ name ∈ importsOf fs, name ∉ fixedNames ++ reservedWords) ∧
      (∀ name ∈ fs.map RequestFunction.name, name ∉ fixedNames ++ reservedWords) ∧
      ∀ f ∈ fs, f.name ∉ importsOf fs := by
  -- each of the three lists has no duplicates, and the fixed names are not reserved
  have hfixed : fixedNames.Nodup ∧ ∀ name ∈ fixedNames, name ∉ reservedWords := by decide +kernel
  have himports : (importsOf fs).Nodup :=
    (pairwise_ascending _).imp fun hlt => ne_of_lt hlt
  unfold topLevelNames
  refine ⟨?_, ?_⟩
  · rintro ⟨hnodup, hreserved⟩
    obtain ⟨hleft, -, hapart⟩ := List.nodup_append.mp hnodup
    obtain ⟨-, -, hapart'⟩ := List.nodup_append.mp hleft
    rw [List.forall_mem_append, List.forall_mem_append] at hreserved
    refine ⟨fun name hname hmem => ?_, fun name hname hmem => ?_, fun f hf hmem => ?_⟩
    · rcases List.mem_append.mp hmem with hmem | hmem
      · exact hapart' name hname name hmem rfl
      · exact hreserved.1.1 name hname hmem
    · rcases List.mem_append.mp hmem with hmem | hmem
      · exact hapart name (List.mem_append_right _ hmem) name hname rfl
      · exact hreserved.2 name hname hmem
    · exact hapart f.name (List.mem_append_left _ hmem) f.name (List.mem_map_of_mem hf) rfl
  · rintro ⟨hclasses, hnames, hapart⟩
    have hleft : (importsOf fs ++ fixedNames).Nodup := by
      refine List.nodup_append.mpr ⟨himports, hfixed.1, ?_⟩
      rintro name hname _ hmem rfl
      exact hclasses name hname (List.mem_append_left _ hmem)
    refine ⟨List.nodup_append.mpr ⟨hleft, hdistinct, ?_⟩, ?_⟩
    · rintro name hname _ hmem rfl
      rcases List.mem_append.mp hname with hname | hname
      · obtain ⟨f, hf, rfl⟩ := List.mem_map.mp hmem
        exact hapart f hf hname
      · exact hnames name hmem (List.mem_append_left _ hname)
    · rw [List.forall_mem_append, List.forall_mem_append]
      refine ⟨⟨fun name hname hmem => ?_, hfixed.2⟩, fun name hname hmem => ?_⟩
      · exact hclasses name hname (List.mem_append_right _ hmem)
      · exact hnames name hname (List.mem_append_right _ hmem)

/-- The line that imports `names` from `source`. -/
def importLine (names : List String) (source : String) : String :=
  "import \x7b " ++ ", ".intercalate names ++ " \x7d from '" ++ source ++ "';"

/-- The lines of `header` that declare names: one for the classes unless there are none, one for
`runtimeNames`, and the base path. -/
theorem header_eq_importLines (imports : List String) (basePath : String) (options : Options) :
    header imports basePath options =
      headerOpening ++ (if imports.isEmpty then [] else [importLine imports options.models]) ++
        [importLine runtimeNames options.runtime, "",
          "export const basePath = '" ++ basePath ++ "';"] := by
  have hnames : ", ".intercalate runtimeNames =
      "request, getConfigs, RequestConfig, RequestOptions" := by decide +kernel
  rw [header_eq, headerClosing, modelImport, importLine, importLine, hnames]
  rfl

/-- A module is the header for `importsOf fs` followed by the texts of its functions `fs`.
`header_eq_importLines` gives the lines in which the names stand. -/
theorem generate_ok_inv {options : Options} {text : String}
    (h : (generate document options).result = .ok text) :
    ∃ fs, (requestFunctions document options.useHeaders).result = .ok fs ∧
      text = unlines (headerOpening ++
          (if (importsOf fs).isEmpty then [] else [importLine (importsOf fs) options.models]) ++
          [importLine runtimeNames options.runtime, "",
            "export const basePath = '" ++ document.basePath.getD "" ++ "';"]) ++
        functionTexts fs := by
  rw [generate, Logged.result_bind] at h
  obtain ⟨fs, hfs, htext⟩ := bind_eq_ok_iff.mp h
  refine ⟨fs, hfs, ?_⟩
  rw [← header_eq_importLines]
  exact (Except.ok.inj htext).symm

/-- **Names at the top level.** If `generate` returns a module, it consists of the import lines, the
base path and the texts of functions `fs`.

* The names of the functions are distinct, and none starts with a capital.
* The imported classes are strictly ascending.
* All `topLevelNames` are distinct and none is reserved exactly if no operation suggests a name in
  `fixedValues` or `reservedWords`, no operation needs a class with a fixed or reserved name, and no
  function has the name of an imported class. -/
theorem generate_names_distinct_iff (document : Document) (options : Options) (text : String)
    (h : (generate document options).result = .ok text) :
    ∃ fs, (requestFunctions document options.useHeaders).result = .ok fs ∧
      text = unlines (headerOpening ++
          (if (importsOf fs).isEmpty then [] else [importLine (importsOf fs) options.models]) ++
          [importLine runtimeNames options.runtime, "",
            "export const basePath = '" ++ document.basePath.getD "" ++ "';"]) ++
        functionTexts fs ∧
      (fs.map RequestFunction.name).Nodup ∧
      (∀ f ∈ fs, startsWithCapital f.name = false) ∧
      (importsOf fs).Pairwise (· < ·) ∧
      (((topLevelNames fs).Nodup ∧ ∀ name ∈ topLevelNames fs, name ∉ reservedWords) ↔
        (∀ e ∈ document.endpoints, e.suggestedName ∉ fixedValues ++ reservedWords) ∧
        (∀ e ∈ document.endpoints, ∀ name, e.NeedsClass document options.useHeaders name →
          name ∉ fixedNames ++ reservedWords) ∧
        ∀ f ∈ fs, f.name ∉ importsOf fs) := by
  obtain ⟨fs, hfs, htext⟩ := generate_ok_inv h
  have hdistinct : (fs.map RequestFunction.name).Nodup := by
    rw [requestFunctionsFrom_names hfs]
    exact nodup_freshNames _ _
  have hclasses : (∀ name ∈ importsOf fs, name ∉ fixedNames ++ reservedWords) ↔
      ∀ e ∈ document.endpoints, ∀ name, e.NeedsClass document options.useHeaders name →
        name ∉ fixedNames ++ reservedWords := by
    refine ⟨fun hclear e he name hneeds => ?_, fun hclear name hname => ?_⟩
    · exact hclear name ((mem_importsOf_iff hfs).mpr ⟨e, he, hneeds⟩)
    · obtain ⟨e, he, hneeds⟩ := (mem_importsOf_iff hfs).mp hname
      exact hclear e he name hneeds
  refine ⟨fs, hfs, htext, hdistinct, ?_, pairwise_ascending _, ?_⟩
  · exact fun f hf => startsWithCapital_of_mem_names hfs (List.mem_map_of_mem hf)
  · rw [topLevelNames_iff hdistinct, hclasses, names_clear_iff hfs, and_left_comm]

/-- The names of the module for `petShop` with `morePets` are distinct and not reserved. -/
theorem generate_names_distinct_morePets :
    ∃ text fs, (generate ((petShop (some "object")).extend morePets) .default).result = .ok text ∧
      (requestFunctions ((petShop (some "object")).extend morePets) false).result = .ok fs ∧
      topLevelNames fs = ["Pet", "request", "getConfigs", "RequestConfig", "RequestOptions",
        "basePath", "petsGet", "petsPost", "ordersPut", "ordersPatch", "petsGet1"] ∧
      (topLevelNames fs).Nodup ∧ ∀ name ∈ topLevelNames fs, name ∉ reservedWords := by
  obtain ⟨text, htext⟩ : ∃ text,
      (generate ((petShop (some "object")).extend morePets) .default).result = .ok text := ⟨_, rfl⟩
  obtain ⟨fs, hfs, -, -, -, -, hiff⟩ := generate_names_distinct_iff _ _ text htext
  have himports : importsOf fs = ["Pet"] := by
    obtain rfl := Except.ok.inj hfs
    decide +kernel
  have hnames : fs.map RequestFunction.name =
      ["petsGet", "petsPost", "ordersPut", "ordersPatch", "petsGet1"] := by
    obtain rfl := Except.ok.inj hfs
    decide +kernel
  refine ⟨text, fs, htext, hfs, ?_, hiff.mpr ⟨by decide +kernel, ?_, ?_⟩⟩
  · rw [topLevelNames, himports, hnames]
    rfl
  · intro e he name hneeds
    have hname : name ∈ importsOf fs := (mem_importsOf_iff hfs).mpr ⟨e, he, hneeds⟩
    rw [himports, List.mem_singleton] at hname
    rw [hname]
    decide +kernel
  · intro f hf hmem
    have hname : f.name ∈ fs.map RequestFunction.name := List.mem_map_of_mem hf
    rw [hnames] at hname
    rw [himports, List.mem_singleton] at hmem
    rw [hmem] at hname
    exact absurd hname (by decide)

/-- `DELETE /`, and a `GET /base` whose operation id is `basePath`. -/
def rootAndBase : Document :=
  { Document.empty with
    paths := [
      ("/", {
        operation? := fun
          | .delete => some Operation.empty
          | _ => none
        parameters := [] }),
      ("/base", {
        operation? := fun
          | .get => some { Operation.empty with id := some "basePath" }
          | _ => none
        parameters := [] })] }

/-- The functions of `rootAndBase` are `delete`, which is reserved, and `basePath`, which is the
name of the constant as well. -/
theorem names_clash_rootAndBase :
    ∃ text fs, (generate rootAndBase .default).result = .ok text ∧
      (requestFunctions rootAndBase false).result = .ok fs ∧
      fs.map RequestFunction.name = ["delete", "basePath"] ∧
      "delete" ∈ reservedWords ∧ ¬ (topLevelNames fs).Nodup := by
  refine ⟨_, _, rfl, rfl, ?_⟩
  decide +kernel

end SwaggerRequests
