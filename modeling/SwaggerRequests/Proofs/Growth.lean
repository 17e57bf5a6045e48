import SwaggerRequests.Module.Text
import SwaggerRequests.Proofs.Operations

/-!
# Extending a document

`Document.extend` adds paths at the end of a document. The functions generated before are generated
again with the same text, and the module differs only in new functions at its end and in one line of
the header.

A function is named with regard to the functions before it only. So `requestFunctionsFrom` over a
longer list is `requestFunctionsFrom` over its first part, followed by the same over the rest with
the names of the first part taken (`requestFunctionsFrom_append`, by induction on the first part).
In particular an error of the document is also the error of the extended one.

In the text of the module, the one line that depends on all functions is the import of the model
classes, `modelImport`. `header_eq` divides the header into this line and the lines around it,
`headerOpening` and `headerClosing`.
-/

namespace SwaggerRequests

/-! ## The functions of more operations

`requestFunctions` for a document with more paths. -/

/-- The document with the paths `more` after its own. -/
def Document.extend (document : Document) (more : Entries PathItem) : Document :=
  { document with paths := document.paths ++ more }

variable {document : Document} {useHeaders : Bool}

/-- `requestFunction` does not depend on the paths of the document. -/
theorem requestFunction_extend (more : Entries PathItem) (taken : List String) (e : Endpoint) :
    requestFunction (document.extend more) useHeaders taken e =
      requestFunction document useHeaders taken e := rfl

theorem requestFunctionsFrom_extend (more : Entries PathItem) (taken : List String)
    (es : List Endpoint) :
    requestFunctionsFrom (document.extend more) useHeaders taken es =
      requestFunctionsFrom document useHeaders taken es := by
  induction es generalizing taken with
  | nil => rfl
  | cons e es ih =>
    rw [requestFunctionsFrom, requestFunctionsFrom, requestFunction_extend]
    simp only [ih]

theorem endpoints_extend (document : Document) (more : Entries PathItem) :
    (document.extend more).endpoints =
      document.endpoints ++ (Document.extend .empty more).endpoints :=
  List.flatMap_append

/-- The functions of `es ++ es'` are those of `es`, and then those of `es'` with the names of the
first taken. The induction is on `es`. -/
theorem requestFunctionsFrom_append (taken : List String) (es es' : List Endpoint) :
    (requestFunctionsFrom document useHeaders taken (es ++ es')).result =
      (requestFunctionsFrom document useHeaders taken es).result >>= fun fs =>
        (requestFunctionsFrom document useHeaders
          ((fs.map RequestFunction.name).reverse ++ taken) es').result >>= fun fs' =>
            .ok (fs ++ fs') := by
  induction es generalizing taken with
  | nil =>
    change _ = (requestFunctionsFrom document useHeaders taken es').result >>= fun fs' => .ok fs'
    exact (bind_pure _).symm
  | cons e es ih =>
    rw [List.cons_append, requestFunctionsFrom_cons_result, requestFunctionsFrom_cons_result,
      bind_assoc]
    refine bind_congr fun f => ?_
    rw [ih, bind_assoc, bind_assoc]
    refine bind_congr fun fs => ?_
    -- the name of the first function is taken for all others, on both sides
    have hnames : ((f :: fs).map RequestFunction.name).reverse ++ taken =
        (fs.map RequestFunction.name).reverse ++ f.name :: taken := by simp
    change _ = (requestFunctionsFrom document useHeaders
      (((f :: fs).map RequestFunction.name).reverse ++ taken) es').result >>= _
    rw [hnames, bind_assoc]
    rfl

/-- The functions of `document.extend more` are those of the document followed by those of the paths
`more`. -/
theorem requestFunctions_extend (document : Document) (more : Entries PathItem)
    (useHeaders : Bool) :
    (requestFunctions (document.extend more) useHeaders).result =
      (requestFunctions document useHeaders).result >>= fun fs =>
        (requestFunctionsFrom document useHeaders (fs.map RequestFunction.name).reverse
          (Document.extend .empty more).endpoints).result >>= fun new => .ok (fs ++ new) := by
  rw [requestFunctions, requestFunctionsFrom_extend, endpoints_extend, requestFunctionsFrom_append]
  simp only [List.append_nil]
  rfl

/-- If `document.extend more` has the functions `fs'`, the document has functions, which are a
prefix of `fs'`. -/
theorem requestFunctions_extend_ok_inv {more : Entries PathItem} {fs' : List RequestFunction}
    (h : (requestFunctions (document.extend more) useHeaders).result = .ok fs') :
    ∃ fs new, (requestFunctions document useHeaders).result = .ok fs ∧ fs' = fs ++ new := by
  rw [requestFunctions_extend, bind_eq_ok_iff] at h
  obtain ⟨fs, hfs, h⟩ := h
  obtain ⟨new, -, h⟩ := bind_eq_ok_iff.mp h
  exact ⟨fs, new, hfs, (Except.ok.inj h).symm⟩

/-! ## The text

The header and the functions of the module as separate lists of lines. -/

/-- The lines of `header` before the import of the classes. -/
def headerOpening : List String :=
  ["/* eslint-disable */", "// generated by tsgenitor, do not edit"]

/-- The line of `header` that imports the classes, if there are any. -/
def modelImport (imports : List String) (options : Options) : List String :=
  if imports.isEmpty then [] else
    ["import \x7b " ++ ", ".intercalate imports ++ " \x7d from '" ++ options.models ++ "';"]

/-- The lines of `header` after `modelImport`. -/
def headerClosing (basePath : String) (options : Options) : List String :=
  ["import \x7b request, getConfigs, RequestConfig, RequestOptions \x7d from '" ++
      options.runtime ++ "';",
    "",
    "export const basePath = '" ++ basePath ++ "';"]

theorem header_eq (imports : List String) (basePath : String) (options : Options) :
    header imports basePath options =
      headerOpening ++ modelImport imports options ++ headerClosing basePath options := rfl

/-- `modelImport` is at most one line. -/
theorem length_modelImport_le (imports : List String) (options : Options) :
    (modelImport imports options).length ≤ 1 := by
  rw [modelImport]
  split
  · exact Nat.zero_le 1
  · exact Nat.le_refl 1

/-- The text behind the header in `moduleText`: each function after an empty line. -/
def functionTexts (fs : List RequestFunction) : String := String.join (fs.map ("\n" ++ ·.text))

theorem functionTexts_append (fs fs' : List RequestFunction) :
    functionTexts (fs ++ fs') = functionTexts fs ++ functionTexts fs' := by
  rw [functionTexts, List.map_append, String.join_append]
  rfl

/-- The text of the module for functions `fs`: the header in its three parts, and
`functionTexts fs`. -/
theorem generate_of_ok {options : Options} {fs : List RequestFunction}
    (h : (requestFunctions document options.useHeaders).result = .ok fs) :
    (generate document options).result =
      .ok (unlines (headerOpening ++ modelImport (importsOf fs) options ++
        headerClosing (document.basePath.getD "") options) ++ functionTexts fs) := by
  rw [generate, Logged.result_bind, h, ← header_eq]
  rfl

/-- **Growing documents.** If `requestFunctions` fails for a document, it fails in the same way for
the extended one. If it succeeds for both, the functions `fs'` of the extended document are the
functions `fs` of the document and then new ones, and the two modules have the same text except that
new functions follow at the end and that `modelImport`, at most one line of the header, may be
different. The lists of functions come from `requestFunctions_extend`, and the texts from
`generate_of_ok`. -/
theorem generate_extend (document : Document) (more : Entries PathItem) (options : Options) :
    (∀ error, (requestFunctions document options.useHeaders).result = .error error →
      (requestFunctions (document.extend more) options.useHeaders).result = .error error) ∧
    (∀ fs fs', (requestFunctions document options.useHeaders).result = .ok fs →
      (requestFunctions (document.extend more) options.useHeaders).result = .ok fs' →
        ∃ new, fs' = fs ++ new ∧
          (modelImport (importsOf fs) options).length ≤ 1 ∧
          (modelImport (importsOf fs') options).length ≤ 1 ∧
          (generate document options).result =
            .ok (unlines (headerOpening ++ modelImport (importsOf fs) options ++
              headerClosing (document.basePath.getD "") options) ++ functionTexts fs) ∧
          (generate (document.extend more) options).result =
            .ok (unlines (headerOpening ++ modelImport (importsOf fs') options ++
              headerClosing (document.basePath.getD "") options) ++
                functionTexts fs ++ functionTexts new)) := by
  refine ⟨?_, ?_⟩
  · intro error herror
    rw [requestFunctions_extend, herror]
    rfl
  · intro fs fs' hfs hfs'
    obtain ⟨fs₀, new, hfs₀, rfl⟩ := requestFunctions_extend_ok_inv hfs'
    obtain rfl : fs₀ = fs := Except.ok.inj (hfs₀.symm.trans hfs)
    have htext := generate_of_ok hfs
    have htext' := generate_of_ok hfs'
    rw [functionTexts_append, ← String.append_assoc] at htext'
    exact ⟨new, rfl, length_modelImport_le _ options, length_modelImport_le _ options, htext,
      htext'⟩

/-- A path whose operation suggests a name that `petShop` has already. -/
def morePets : Entries PathItem :=
  let pet : Schema := { Schema.any with reference := some "#/definitions/Pet" }
  [("/pets/all", {
    operation? := fun
      | .get =>
        some { Operation.empty with
          id := some "petsGet"
          parameters := [.inline ⟨"pet", .query, false, none, none, none, some pet, none⟩] }
      | _ => none
    parameters := [] })]

/-- With `morePets` the new function gets a number, and it is the first that needs a class. -/
theorem generate_extend_morePets :
    (requestFunctions ((petShop none).extend morePets) false).result =
      .error ⟨.put, "/orders", .untypable "order"⟩ ∧
    ∃ fs new before before',
      (requestFunctions (petShop (some "object")) false).result = .ok fs ∧
      (requestFunctions ((petShop (some "object")).extend morePets) false).result =
        .ok (fs ++ new) ∧
      fs.map RequestFunction.name = ["petsGet", "petsPost", "ordersPut", "ordersPatch"] ∧
      (fs ++ new).map RequestFunction.name =
        ["petsGet", "petsPost", "ordersPut", "ordersPatch", "petsGet1"] ∧
      importsOf fs = [] ∧ importsOf (fs ++ new) = ["Pet"] ∧
      (generate (petShop (some "object")) .default).result =
        .ok (before ++ functionTexts fs) ∧
      (generate ((petShop (some "object")).extend morePets) .default).result =
        .ok (before' ++ functionTexts fs ++ functionTexts new) := by
  refine ⟨(generate_extend (petShop none) morePets .default).1 _ rfl, ?_⟩
  obtain ⟨fs, hfs, hnames, himports⟩ : ∃ fs,
      (requestFunctions (petShop (some "object")) false).result = .ok fs ∧
      fs.map RequestFunction.name = ["petsGet", "petsPost", "ordersPut", "ordersPatch"] ∧
      importsOf fs = [] := by
    refine ⟨_, rfl, ?_⟩
    decide +kernel
  obtain ⟨fs', hfs', hnames', himports'⟩ : ∃ fs',
      (requestFunctions ((petShop (some "object")).extend morePets) false).result = .ok fs' ∧
      fs'.map RequestFunction.name =
        ["petsGet", "petsPost", "ordersPut", "ordersPatch", "petsGet1"] ∧
      importsOf fs' = ["Pet"] := by
    refine ⟨_, rfl, ?_⟩
    decide +kernel
  obtain ⟨new, rfl, -, -, htext, htext'⟩ :=
    (generate_extend (petShop (some "object")) morePets .default).2 fs fs' hfs hfs'
  exact ⟨fs, new, _, _, hfs, hfs', hnames, hnames', himports, himports', htext, htext'⟩

end SwaggerRequests
