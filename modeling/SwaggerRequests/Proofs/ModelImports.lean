import SwaggerRequests.Proofs.Identifiers
import SwaggerRequests.Proofs.TopLevelNames

/-!
# The import of the model classes

The header of a module has one line that depends on the functions, the import of the model classes.
It lists the classes that some function imports, `importsOf fs`, in strictly ascending order by code
points.

A strictly ascending list is determined by its members (`ascending_congr`). So the line depends on
the set of the classes only, and not on the order or repetition of the functions; and the classes of
two lists of functions together are obtained from those of each (`importsOf_append`).

The classes are joined by commas. `splitAtCommas` divides the line again and returns the classes if
none of them has a comma (`splitAtCommas_intercalate`). For the functions of a document this holds,
since their imports are class names (`comma_not_mem_of_mem_importsOf`).
-/

namespace SwaggerRequests

/-! ## Strictly ascending lists

`ascending`, as a function of the set of members. -/

/-- The code points of a text. -/
def codePoints (s : String) : List Nat := s.toList.map Char.toNat

/-- The order of strings is the lexicographic order of their `codePoints`. -/
theorem lt_iff_codePoints_lt {s t : String} : s < t ↔ codePoints s < codePoints t := by
  rw [String.lt_iff_toList_lt, codePoints, codePoints]
  generalize s.toList = cs
  generalize t.toList = ds
  induction cs generalizing ds with
  | nil => cases ds <;> simp
  | cons c cs ih =>
    cases ds with
    | nil => simp
    | cons d ds =>
      have hlt : c < d ↔ c.toNat < d.toNat := Iff.rfl
      have heq : c = d ↔ c.toNat = d.toNat := Char.toNat_inj.symm
      simp only [List.map_cons, List.cons_lt_cons_iff, ih, hlt, heq]

/-- `ascending` depends on the members of the list only. -/
theorem ascending_congr {ss ts : List String} (h : ∀ s, s ∈ ss ↔ s ∈ ts) :
    ascending ss = ascending ts := by
  have hnodup : ∀ us : List String, (ascending us).Nodup :=
    fun us => (pairwise_ascending us).imp fun hlt => ne_of_lt hlt
  have hperm : (ascending ss).Perm (ascending ts) := by
    rw [List.perm_ext_iff_of_nodup (hnodup ss) (hnodup ts)]
    intro s
    rw [mem_ascending, mem_ascending, h]
  -- the same members without repetitions, and so at most in another order
  refine hperm.eq_of_pairwise ?_ (pairwise_ascending ss) (pairwise_ascending ts)
  intro s t _ _ hst hts
  exact absurd (hst.trans hts) (lt_irrefl s)

/-- The members of `importsOf fs` are the imports of all functions in `fs`. -/
theorem mem_importsOf {fs : List RequestFunction} {name : String} :
    name ∈ importsOf fs ↔ ∃ f ∈ fs, name ∈ f.bundle.imports := by
  rw [importsOf, mem_ascending, List.mem_flatMap]

/-- The classes of `fs ++ gs` are the ascending list of those of `fs` and those of `gs`. -/
theorem importsOf_append (fs gs : List RequestFunction) :
    importsOf (fs ++ gs) = ascending (importsOf fs ++ importsOf gs) := by
  apply ascending_congr
  intro name
  simp only [List.mem_flatMap, List.mem_append, mem_importsOf, or_and_right, exists_or]

/-! ## The line

Whether the header has the line. -/

/-- The line is missing exactly if no function imports a class. -/
theorem modelImport_cases (fs : List RequestFunction) (options : Options) :
    ((∀ f ∈ fs, f.bundle.imports = []) ∧ modelImport (importsOf fs) options = []) ∨
      ((∃ f ∈ fs, f.bundle.imports ≠ []) ∧
        modelImport (importsOf fs) options = [importLine (importsOf fs) options.models]) := by
  cases himports : importsOf fs with
  | nil =>
    left
    refine ⟨fun f hf => List.eq_nil_iff_forall_not_mem.mpr fun name hname => ?_, rfl⟩
    have hmem := mem_importsOf.mpr ⟨f, hf, hname⟩
    rw [himports] at hmem
    cases hmem
  | cons name names =>
    right
    obtain ⟨f, hf, hname⟩ := mem_importsOf.mp (himports ▸ List.mem_cons_self ..)
    exact ⟨⟨f, hf, List.ne_nil_of_mem hname⟩, rfl⟩

/-! ## Splitting the line

`splitAtCommas` is the inverse of joining names by a comma and a space. -/

/-- The texts between the occurrences of a comma and a space. `word` is the one that has been
started, with its last character first. -/
def splitFrom (word : List Char) : List Char → List (List Char)
  | [] => [word.reverse]
  | ',' :: ' ' :: cs => word.reverse :: splitFrom [] cs
  | c :: cs => splitFrom (c :: word) cs

/-- The texts between the occurrences of `, ` in `s`. -/
def splitAtCommas (s : String) : List String := (splitFrom [] s.toList).map String.ofList

/-- A beginning `cs` without commas belongs to the text that has been started. -/
theorem splitFrom_append {word cs : List Char} (h : ',' ∉ cs) (rest : List Char) :
    splitFrom word (cs ++ rest) = splitFrom (cs.reverse ++ word) rest := by
  induction cs generalizing word with
  | nil => rfl
  | cons c cs ih =>
    rw [List.mem_cons, not_or] at h
    obtain ⟨hc, hcs⟩ := h
    rw [List.cons_append, splitFrom, ih hcs, List.reverse_cons, List.append_assoc]
    · rfl
    · rintro ds rfl -
      exact hc rfl

/-- `splitAtCommas` returns the names that have been joined, if there are any and none has a
comma. -/
theorem splitAtCommas_intercalate {names : List String} (hnames : names ≠ [])
    (h : ∀ name ∈ names, ',' ∉ name.toList) :
    splitAtCommas (", ".intercalate names) = names := by
  have hend : ∀ name : String, ',' ∉ name.toList →
      splitFrom [] name.toList = [name.toList] := by
    intro name hname
    have hsplit := @splitFrom_append [] _ hname []
    simpa [splitFrom] using hsplit
  induction names with
  | nil => exact absurd rfl hnames
  | cons name names ih =>
    obtain ⟨hname, hrest⟩ := List.forall_mem_cons.mp h
    cases names with
    | nil => simp [splitAtCommas, hend name hname]
    | cons next names =>
      -- the first word ends at its comma, and behind the blank there is a shorter list
      have hsplit : splitFrom [] (", ".intercalate (name :: next :: names)).toList =
          name.toList :: splitFrom [] (", ".intercalate (next :: names)).toList := by
        rw [String.intercalate_cons_cons, String.append_assoc, String.toList_append,
          String.toList_append, splitFrom_append hname]
        simp [splitFrom]
      have htail := ih (List.cons_ne_nil _ _) hrest
      rw [splitAtCommas] at htail ⊢
      rw [hsplit, List.map_cons, htail, String.ofList_toList]

/-- No class that a function of a document imports has a comma in its name. -/
theorem comma_not_mem_of_mem_importsOf {document : Document} {useHeaders : Bool}
    {fs : List RequestFunction} (h : (requestFunctions document useHeaders).result = .ok fs) :
    ∀ name ∈ importsOf fs, ',' ∉ name.toList := by
  intro name hname hcomma
  obtain ⟨e, -, d, p, reference, -, -, rfl⟩ := (mem_importsOf_iff h).mp hname
  rw [toList_className] at hcomma
  exact absurd ((isClassName_classChars _).chars ',' hcomma) (by decide)

/-- **The model import.** For all functions `fs`:

* the text of the module is the header and then the functions, and of the header only `modelImport`
  depends on `fs`;
* `importsOf fs` is the union of the imports of the functions, strictly ascending by `codePoints`,
  and the line is missing if the union is empty;
* the header is the same for functions with the same members, in another order or repeated;
* the module for `fs ++ gs` has the line for both unions and the texts of `fs` and then of `gs`;
* if `fs` are the functions of a document, `splitAtCommas` of the joined classes returns the
  classes. -/
theorem moduleText_model_import (fs : List RequestFunction) (basePath : String)
    (options : Options) :
    moduleText fs basePath options =
      unlines (headerOpening ++ modelImport (importsOf fs) options ++
        headerClosing basePath options) ++ functionTexts fs ∧
    (∀ name, name ∈ importsOf fs ↔ ∃ f ∈ fs, name ∈ f.bundle.imports) ∧
    (importsOf fs).Pairwise (fun s t => codePoints s < codePoints t) ∧
    (((∀ f ∈ fs, f.bundle.imports = []) ∧ modelImport (importsOf fs) options = []) ∨
      ((∃ f ∈ fs, f.bundle.imports ≠ []) ∧
        modelImport (importsOf fs) options = [importLine (importsOf fs) options.models])) ∧
    (∀ gs : List RequestFunction, (∀ f, f ∈ gs ↔ f ∈ fs) →
      header (importsOf gs) basePath options = header (importsOf fs) basePath options) ∧
    (∀ gs : List RequestFunction,
      importsOf (fs ++ gs) = ascending (importsOf fs ++ importsOf gs) ∧
      moduleText (fs ++ gs) basePath options =
        unlines (header (importsOf (fs ++ gs)) basePath options) ++ functionTexts fs ++
          functionTexts gs) ∧
    ∀ document useHeaders, (requestFunctions document useHeaders).result = .ok fs →
      importsOf fs ≠ [] → splitAtCommas (", ".intercalate (importsOf fs)) = importsOf fs := by
  refine ⟨?_, fun name => mem_importsOf, ?_, modelImport_cases fs options, ?_, ?_, ?_⟩
  · rw [moduleText, header_eq]
    rfl
  · exact (pairwise_ascending _).imp fun hlt => lt_iff_codePoints_lt.mp hlt
  · intro gs hgs
    have himports : importsOf gs = importsOf fs := by
      apply ascending_congr
      intro name
      simp only [List.mem_flatMap, hgs]
    rw [himports]
  · intro gs
    refine ⟨importsOf_append fs gs, ?_⟩
    rw [String.append_assoc, ← functionTexts_append]
    rfl
  · intro document useHeaders hfs hsome
    exact splitAtCommas_intercalate hsome (comma_not_mem_of_mem_importsOf hfs)

/-- A document with one operation that needs two classes. -/
def orderShop : Document :=
  { Document.empty with
    paths := [("/orders", {
      operation? := fun
        | .post => some { Operation.empty with parameters := orderParameters }
        | _ => none
      parameters := [] })] }

/-- The line of `orderShop` lists two classes, also if the function comes twice, and they can be
read from it. -/
theorem moduleText_model_import_orderShop :
    ∃ fs, (requestFunctions orderShop false).result = .ok fs ∧
      importsOf fs = ["Line_Item", "Pet"] ∧
      modelImport (importsOf fs) .default =
        ["import \x7b Line_Item, Pet \x7d from './models';"] ∧
      header (importsOf (fs ++ fs)) "" .default = header (importsOf fs) "" .default ∧
      splitAtCommas "Line_Item, Pet" = ["Line_Item", "Pet"] := by
  obtain ⟨fs, hfs, himports⟩ : ∃ fs, (requestFunctions orderShop false).result = .ok fs ∧
      importsOf fs = ["Line_Item", "Pet"] := by
    refine ⟨_, rfl, ?_⟩
    decide +kernel
  obtain ⟨-, -, -, -, hheader, -, hsplit⟩ := moduleText_model_import fs "" .default
  have hread := hsplit orderShop false hfs (by rw [himports]; exact List.cons_ne_nil _ _)
  have hlist : ", ".intercalate (importsOf fs) = "Line_Item, Pet" := by
    rw [himports]
    decide +kernel
  refine ⟨fs, hfs, himports, ?_, hheader (fs ++ fs) (by simp), ?_⟩
  · rw [himports]
    decide +kernel
  · rw [hlist, himports] at hread
    exact hread

end SwaggerRequests
