import SwaggerRequests.Module.Function
import SwaggerRequests.Proofs.Entries
import SwaggerRequests.Proofs.Outcome
import Mathlib.Data.List.Nodup

/-!
# One function for each operation

`requestFunctions` generates one function for each operation of a document. The operations are
processed in one order, path by path and for each path in the order of `Method.all`, and before each
an event announces it. The run ends after the last operation or at the first one without a bundle.

The module describes this for a list of endpoints, `requestFunctionsFrom`, by induction on the list:

* `requestFunctionsFrom_of_ok`: if every operation has a bundle, there is a function for each
  (`Generates`), and all operations are announced;
* `requestFunctionsFrom_of_stopsAt`: if `StopsAt` names the first operation without a bundle, its
  error is the result, and the operations up to this one are announced.

One of the two is the case (`forall_ok_or_exists_stopsAt`), so both implications have a converse.
`map_endpoints` and `mem_endpoints_iff` describe the list of the operations of a document, the first
by `Document.requests`, which lists methods and paths.
-/

namespace SwaggerRequests

/-! ## Progress

The announcements among the events, and the classes of computations without any. `Logged.Reports` is
preserved by sequences, so what a computation reports is proved along its definition. -/

/-- The event is an `Event.generating`. -/
def Event.isProgress : Event → Bool
  | .generating .. => true
  | _ => false

namespace Logged

variable {ε ε' α β : Type}

/-- The messages of the events of `x` that satisfy `isProgress`. -/
def progress (x : Logged ε α) : List String := (x.log.filter Event.isProgress).map Event.message

/-- All events of the computation have the property `P`. -/
def Reports (P : Event → Prop) (x : Logged ε α) : Prop := ∀ event ∈ x.log, P event

/-- No event of `x` satisfies `isProgress`. -/
def Silent (x : Logged ε α) : Prop := ∀ event ∈ x.log, event.isProgress = false

variable {P Q : Event → Prop}

theorem Reports.imp {x : Logged ε α} (h : ∀ event, P event → Q event) (hx : x.Reports P) :
    x.Reports Q :=
  fun event hevent => h event (hx event hevent)

theorem Reports.nil {x : Logged ε α} (h : x.log = []) : x.Reports P := by
  intro event hevent
  rw [h] at hevent
  cases hevent

/-- If both parts of a sequence report events with the property `P`, so does the sequence. -/
theorem Reports.bind {x : Logged ε α} {f : α → Logged ε β} (hx : x.Reports P)
    (hf : ∀ a, x.result = .ok a → (f a).Reports P) : (x >>= f).Reports P := by
  intro event hevent
  rw [log_bind] at hevent
  rcases List.mem_append.mp hevent with hevent | hevent
  · exact hx event hevent
  · rcases h : x.result with e | a
    · rw [h] at hevent
      cases hevent
    · rw [h] at hevent
      exact hf a h event hevent

theorem Silent.progress {x : Logged ε α} (h : x.Silent) : x.progress = [] := by
  rw [Logged.progress, List.map_eq_nil_iff, List.filter_eq_nil_iff]
  intro event hevent
  rw [h event hevent]
  exact Bool.false_ne_true

theorem progress_bind_of_ok {x : Logged ε α} {f : α → Logged ε β} {a : α} (h : x.result = .ok a) :
    (x >>= f).progress = x.progress ++ (f a).progress := by
  rw [progress, log_bind, h, List.filter_append, List.map_append]
  rfl

theorem progress_bind_of_error {x : Logged ε α} {f : α → Logged ε β} {e : ε}
    (h : x.result = .error e) : (x >>= f).progress = x.progress := by
  rw [progress, log_bind, h, List.append_nil]
  rfl

/-- A continuation that is `Silent` adds nothing to the progress. -/
theorem progress_bind_of_silent {x : Logged ε α} {f : α → Logged ε β}
    (h : ∀ a, x.result = .ok a → (f a).Silent) : (x >>= f).progress = x.progress := by
  rcases hx : x.result with e | a
  · exact progress_bind_of_error hx
  · rw [progress_bind_of_ok hx, (h a hx).progress, List.append_nil]

end Logged

/-! ### Events about parameters

The events of `bundle` are those of `nameEvents`, of `ambiguityEvents` and of headers that are left
out. -/

/-- The event is about a parameter, one of those that `bundle` reports. -/
def Event.IsDetail (event : Event) : Prop :=
  ∃ name, event ∈ [.droppedElement name, .redeclared name, .ambiguous name, .skippedHeader name]

/-- An event with `IsDetail` does not satisfy `isProgress`. -/
theorem Event.IsDetail.isProgress {event : Event} (h : event.IsDetail) :
    event.isProgress = false := by
  obtain ⟨name, hevent⟩ := h
  simp only [List.mem_cons, List.not_mem_nil, or_false] at hevent
  rcases hevent with rfl | rfl | rfl | rfl <;> rfl

/-- The events of `nameEvents` are about parameters. -/
theorem isDetail_nameEvents {seen names : List String} :
    ∀ event ∈ nameEvents seen names, event.IsDetail := by
  fun_induction nameEvents seen names with
  | case1 => exact List.forall_mem_nil _
  | case2 _ name _ _ ih => exact List.forall_mem_cons.mpr ⟨⟨name, by simp⟩, ih⟩
  | case3 _ name _ _ _ ih => exact List.forall_mem_cons.mpr ⟨⟨name, by simp⟩, ih⟩
  | case4 _ _ _ _ _ ih => exact ih

/-- The events of `ambiguityEvents` are about parameters. -/
theorem isDetail_ambiguityEvents {seen names : List String} :
    ∀ event ∈ ambiguityEvents seen names, event.IsDetail := by
  fun_induction ambiguityEvents seen names with
  | case1 => exact List.forall_mem_nil _
  | case2 _ name _ _ ih => exact List.forall_mem_cons.mpr ⟨⟨name, by simp⟩, ih⟩
  | case3 _ _ _ _ ih => exact ih

/-- `Emission.addAll` reports headers that are left out and nothing else. -/
theorem Emission.addAll_reports {useHeaders merged : Bool} {e : Emission} {ps : List Parameter} :
    (addAll useHeaders merged e ps).Reports fun event => ∃ name, event = .skippedHeader name := by
  induction ps generalizing e with
  | nil => exact Logged.Reports.nil rfl
  | cons p ps ih =>
    rw [addAll]
    split
    · refine Logged.Reports.bind ?_ fun _ _ => ih
      intro event hevent
      exact ⟨p.name, List.mem_singleton.mp hevent⟩
    · split
      · exact Logged.Reports.nil rfl
      · exact ih

/-- `bundle` reports events about parameters only. -/
theorem bundle_reports (ds : List Descriptor) (useHeaders : Bool) (document : Document) :
    (bundle ds useHeaders document).Reports Event.IsDetail := by
  refine Logged.Reports.bind ?_ fun kept _ => ?_
  · refine Logged.Reports.bind isDetail_nameEvents fun _ _ => ?_
    exact Logged.Reports.nil rfl
  · refine Logged.Reports.bind (Logged.Reports.nil rfl) fun ps _ => ?_
    refine Logged.Reports.bind isDetail_ambiguityEvents fun _ _ => ?_
    refine Logged.Reports.bind (Emission.addAll_reports.imp ?_) fun _ _ => Logged.Reports.nil rfl
    rintro event ⟨name, rfl⟩
    exact ⟨name, by simp⟩

theorem bundle_silent (ds : List Descriptor) (useHeaders : Bool) (document : Document) :
    (bundle ds useHeaders document).Silent :=
  (bundle_reports ds useHeaders document).imp fun _ h => h.isProgress

/-! ## One operation

`requestFunction` for an operation with a bundle and for one without. -/

namespace Endpoint

/-- The outcome of `bundle` for an operation: the parameters that its path shares come before its
own. -/
def outcome (document : Document) (useHeaders : Bool) (e : Endpoint) : Except RequestError Bundle :=
  (bundle (e.item.parameters ++ e.operation.parameters) useHeaders document).result

/-- The message of the event `Event.generating` for the operation `e`. -/
def announcement (e : Endpoint) : String :=
  "generating request for " ++ e.method.name ++ " " ++ e.path

end Endpoint

/-- `f` is a function for the operation `e`. -/
structure Generates (document : Document) (useHeaders : Bool) (e : Endpoint)
    (f : RequestFunction) : Prop where
  /-- with its method -/
  method : f.method = e.method
  /-- with its path -/
  path : f.path = e.path
  /-- with the bundle of its parameters -/
  bundle : e.outcome document useHeaders = .ok f.bundle

variable {document : Document} {useHeaders : Bool} {e : Endpoint}

/-- `requestFunction` has a function if the operation has a bundle. -/
theorem requestFunction_of_ok (taken : List String) {b : Bundle}
    (h : e.outcome document useHeaders = .ok b) :
    ∃ f, (requestFunction document useHeaders taken e).result = .ok f ∧
      Generates document useHeaders e f := by
  have hbundle : (bundle e.descriptors useHeaders document).result = .ok b := h
  simp only [requestFunction, Logged.result_bind, Logged.result_report, Logged.result_mapError,
    hbundle]
  exact ⟨_, rfl, rfl, rfl, h⟩

/-- `requestFunction` fails if `bundle` fails, with the method and path of the operation. -/
theorem requestFunction_of_error (taken : List String) {cause : RequestError}
    (h : e.outcome document useHeaders = .error cause) :
    (requestFunction document useHeaders taken e).result = .error ⟨e.method, e.path, cause⟩ := by
  have hbundle : (bundle e.descriptors useHeaders document).result = .error cause := h
  simp only [requestFunction, Logged.result_bind, Logged.result_report, Logged.result_mapError,
    hbundle]
  rfl

/-- The fields of the function that `requestFunction` returns, by the operation, `taken` and the
bundle. -/
theorem requestFunction_ok_inv {taken : List String} {f : RequestFunction}
    (h : (requestFunction document useHeaders taken e).result = .ok f) :
    ∃ b, e.outcome document useHeaders = .ok b ∧
      f = {
        method := e.method
        path := e.path
        name := fresh taken (functionName e.method e.path e.operation.id)
        doc := e.operation.doc
        contentType := contentType document e.operation b
        bundle := b } := by
  rcases hb : e.outcome document useHeaders with cause | b
  · rw [requestFunction_of_error taken hb] at h
    cases h
  · have hbundle : (bundle e.descriptors useHeaders document).result = .ok b := hb
    simp only [requestFunction, Logged.result_bind, Logged.result_report, Logged.result_mapError,
      hbundle] at h
    exact ⟨b, rfl, (Except.ok.inj h).symm⟩

/-- `requestFunction` announces its operation exactly once, whether it succeeds or not. -/
theorem requestFunction_progress (taken : List String) :
    (requestFunction document useHeaders taken e).progress = [e.announcement] := by
  refine (Logged.progress_bind_of_silent fun _ _ => ?_).trans ?_
  · refine Logged.Reports.bind (bundle_silent e.descriptors useHeaders document) fun b _ => ?_
    refine Logged.Reports.bind ?_ fun _ _ => Logged.Reports.nil rfl
    intro event hevent
    obtain ⟨name, -, rfl⟩ := List.mem_map.mp hevent
    rfl
  · rfl

/-! ## A list of operations

The two ends of `requestFunctionsFrom`, first for the head of the list and then for all of it. -/

/-- The result of `requestFunctionsFrom` for `e :: es`, by `requestFunction` for `e` and
`requestFunctionsFrom` for `es`. -/
theorem requestFunctionsFrom_cons_result (taken : List String) (e : Endpoint)
    (es : List Endpoint) :
    (requestFunctionsFrom document useHeaders taken (e :: es)).result =
      (requestFunction document useHeaders taken e).result >>= fun f =>
        (requestFunctionsFrom document useHeaders (f.name :: taken) es).result >>= fun fs =>
          .ok (f :: fs) := by
  simp only [requestFunctionsFrom, Logged.result_bind, Logged.result_pure]

/-- If `e` has a bundle, the result for `e :: es` begins with its function, and the progress with
its announcement. -/
theorem requestFunctionsFrom_cons_of_ok (taken : List String) {b : Bundle}
    (h : e.outcome document useHeaders = .ok b) (es : List Endpoint) :
    ∃ f, Generates document useHeaders e f ∧
      (requestFunctionsFrom document useHeaders taken (e :: es)).result =
        (requestFunctionsFrom document useHeaders (f.name :: taken) es).result >>= (.ok <| f :: ·) ∧
      (requestFunctionsFrom document useHeaders taken (e :: es)).progress =
        e.announcement ::
          (requestFunctionsFrom document useHeaders (f.name :: taken) es).progress := by
  obtain ⟨f, hf, hgenerates⟩ := requestFunction_of_ok taken h
  refine ⟨f, hgenerates, ?_, ?_⟩
  · rw [requestFunctionsFrom_cons_result, hf]
    rfl
  · rw [requestFunctionsFrom, Logged.progress_bind_of_ok hf, requestFunction_progress,
      Logged.progress_bind_of_silent fun _ _ => Logged.Reports.nil rfl]
    rfl

/-- If `e` has no bundle, the result for `e :: es` is its error, and only `e` is announced. -/
theorem requestFunctionsFrom_cons_of_error (taken : List String) {cause : RequestError}
    (h : e.outcome document useHeaders = .error cause) (es : List Endpoint) :
    (requestFunctionsFrom document useHeaders taken (e :: es)).result =
        .error ⟨e.method, e.path, cause⟩ ∧
      (requestFunctionsFrom document useHeaders taken (e :: es)).progress = [e.announcement] := by
  have he := requestFunction_of_error taken h
  refine ⟨?_, ?_⟩
  · rw [requestFunctionsFrom_cons_result, he]
    rfl
  · rw [requestFunctionsFrom, Logged.progress_bind_of_error he, requestFunction_progress]

/-- If every operation has a bundle, there is a function for each, and all are announced. The
induction is on the list, for all `taken`. -/
theorem requestFunctionsFrom_of_ok (taken : List String) {es : List Endpoint}
    (h : ∀ e ∈ es, ∃ b, e.outcome document useHeaders = .ok b) :
    ∃ fs, (requestFunctionsFrom document useHeaders taken es).result = .ok fs ∧
      List.Forall₂ (Generates document useHeaders) es fs ∧
      (requestFunctionsFrom document useHeaders taken es).progress =
        es.map Endpoint.announcement := by
  induction es generalizing taken with
  | nil => exact ⟨[], rfl, List.Forall₂.nil, rfl⟩
  | cons e es ih =>
    obtain ⟨b, hb⟩ := h e (List.mem_cons_self ..)
    obtain ⟨f, hf, hresult, hprogress⟩ := requestFunctionsFrom_cons_of_ok taken hb es
    obtain ⟨fs, hfs, hall, hrest⟩ := ih (f.name :: taken) fun o ho =>
      h o (List.mem_cons_of_mem _ ho)
    refine ⟨f :: fs, ?_, List.Forall₂.cons hf hall, ?_⟩
    · rw [hresult, hfs]
      rfl
    · rw [hprogress, hrest, List.map_cons]

/-- `e` is the first of the operations `es` without a bundle, and `before` are those before it. -/
structure StopsAt (document : Document) (useHeaders : Bool) (es before : List Endpoint)
    (e : Endpoint) (cause : RequestError) : Prop where
  /-- the list divided at the operation -/
  split : ∃ after, es = before ++ e :: after
  /-- the operations before it have bundles -/
  before : ∀ o ∈ before, ∃ b, o.outcome document useHeaders = .ok b
  /-- the operation has none, because of `cause` -/
  fails : e.outcome document useHeaders = .error cause

/-- If the list `StopsAt` an operation, its error is the result, and the operations up to this one
are announced. The induction is on the operations before it. -/
theorem requestFunctionsFrom_of_stopsAt (taken : List String) {es before : List Endpoint}
    {cause : RequestError} (h : StopsAt document useHeaders es before e cause) :
    (requestFunctionsFrom document useHeaders taken es).result =
        .error ⟨e.method, e.path, cause⟩ ∧
      (requestFunctionsFrom document useHeaders taken es).progress =
        (before ++ [e]).map Endpoint.announcement := by
  obtain ⟨⟨after, rfl⟩, hbefore, hfails⟩ := h
  induction before generalizing taken with
  | nil => exact requestFunctionsFrom_cons_of_error taken hfails after
  | cons o before ih =>
    obtain ⟨b, hb⟩ := hbefore o (List.mem_cons_self ..)
    obtain ⟨f, -, hresult, hprogress⟩ :=
      requestFunctionsFrom_cons_of_ok taken hb (before ++ e :: after)
    obtain ⟨hrest, hrestProgress⟩ := ih (f.name :: taken) fun o' ho' =>
      hbefore o' (List.mem_cons_of_mem _ ho')
    rw [List.cons_append, hresult, hprogress, hrest, hrestProgress]
    exact ⟨rfl, rfl⟩

/-- Some operation satisfies `StopsAt` exactly if some operation has no bundle. -/
theorem exists_stopsAt_iff {es : List Endpoint} :
    (∃ before e cause, StopsAt document useHeaders es before e cause) ↔
      ∃ e ∈ es, ∃ cause, e.outcome document useHeaders = .error cause := by
  refine ⟨?_, ?_⟩
  · rintro ⟨before, e, cause, ⟨⟨after, rfl⟩, -, hfails⟩⟩
    exact ⟨e, List.mem_append_right _ (List.mem_cons_self ..), cause, hfails⟩
  · intro h
    obtain ⟨e, before, after, hsplit, ⟨cause, hfails⟩, hbefore⟩ := exists_isFirst h
    refine ⟨before, e, cause, ⟨after, hsplit⟩, fun o ho => ?_, hfails⟩
    rcases ho' : o.outcome document useHeaders with cause' | b
    · exact absurd ⟨cause', ho'⟩ (hbefore o ho)
    · exact ⟨b, rfl⟩

/-- Either every operation has a bundle, or one satisfies `StopsAt`. -/
theorem forall_ok_or_exists_stopsAt (document : Document) (useHeaders : Bool)
    (es : List Endpoint) :
    (∀ e ∈ es, ∃ b, e.outcome document useHeaders = .ok b) ∨
      ∃ before e cause, StopsAt document useHeaders es before e cause := by
  rw [exists_stopsAt_iff, or_iff_not_imp_right]
  intro h e he
  rcases ho : e.outcome document useHeaders with cause | b
  · exact absurd ⟨e, he, cause, ho⟩ h
  · exact ⟨b, rfl⟩

/-- The result is an error exactly if the list `StopsAt` an operation, whose error it is. -/
theorem requestFunctionsFrom_eq_error_iff {taken : List String} {es : List Endpoint}
    {error : FunctionError} :
    (requestFunctionsFrom document useHeaders taken es).result = .error error ↔
      ∃ before e cause, StopsAt document useHeaders es before e cause ∧
        error = ⟨e.method, e.path, cause⟩ := by
  refine ⟨?_, ?_⟩
  · intro h
    rcases forall_ok_or_exists_stopsAt document useHeaders es with hall | ⟨before, e, cause, hstops⟩
    · obtain ⟨fs, hfs, -⟩ := requestFunctionsFrom_of_ok taken hall
      rw [hfs] at h
      cases h
    · rw [(requestFunctionsFrom_of_stopsAt taken hstops).1] at h
      exact ⟨before, e, cause, hstops, (Except.error.inj h).symm⟩
  · rintro ⟨before, e, cause, hstops, rfl⟩
    exact (requestFunctionsFrom_of_stopsAt taken hstops).1

/-- If `requestFunctionsFrom` succeeds, every operation has a bundle. -/
theorem outcome_of_requestFunctionsFrom_ok {taken : List String} {es : List Endpoint}
    {fs : List RequestFunction}
    (h : (requestFunctionsFrom document useHeaders taken es).result = .ok fs) :
    ∀ e ∈ es, ∃ b, e.outcome document useHeaders = .ok b := by
  rcases forall_ok_or_exists_stopsAt document useHeaders es with hall | ⟨before, e, cause, hstops⟩
  · exact hall
  · rw [(requestFunctionsFrom_of_stopsAt taken hstops).1] at h
    cases h

/-- If there are functions, each `Generates` the operation at its position, and all operations are
announced. -/
theorem requestFunctionsFrom_ok_inv {taken : List String} {es : List Endpoint}
    {fs : List RequestFunction}
    (h : (requestFunctionsFrom document useHeaders taken es).result = .ok fs) :
    List.Forall₂ (Generates document useHeaders) es fs ∧
      (requestFunctionsFrom document useHeaders taken es).progress =
        es.map Endpoint.announcement := by
  obtain ⟨fs', hfs, hgenerates, hprogress⟩ :=
    requestFunctionsFrom_of_ok taken (outcome_of_requestFunctionsFrom_ok h)
  rw [hfs] at h
  obtain rfl := Except.ok.inj h
  exact ⟨hgenerates, hprogress⟩

/-- If there are functions, each is the result of `requestFunction` for the operation at its
position. -/
theorem requestFunctionsFrom_forall₂ {taken : List String} {es : List Endpoint}
    {fs : List RequestFunction}
    (h : (requestFunctionsFrom document useHeaders taken es).result = .ok fs) :
    List.Forall₂ (fun e f => ∃ taken, (requestFunction document useHeaders taken e).result = .ok f)
      es fs := by
  induction es generalizing taken fs with
  | nil =>
    obtain rfl := Except.ok.inj h
    exact List.Forall₂.nil
  | cons e es ih =>
    rw [requestFunctionsFrom_cons_result] at h
    obtain ⟨f, hf, h⟩ := bind_eq_ok_iff.mp h
    obtain ⟨fs', hfs, h⟩ := bind_eq_ok_iff.mp h
    obtain rfl := Except.ok.inj h
    exact List.Forall₂.cons ⟨taken, hf⟩ (ih hfs)

/-! ## The operations of a document

`Document.endpoints` in terms of the paths and methods, and maps that commute with it. -/

/-- The methods and paths of `document.endpoints`, in their order. -/
def Document.requests (document : Document) : List (Method × String) :=
  document.paths.flatMap fun (path, item) =>
    ([.get, .put, .post, .delete, .options, .head, .patch].filter fun method =>
      (item.operation? method).isSome).map fun method => (method, path)

theorem map_operations (item : PathItem) :
    item.operations.map Prod.fst =
      Method.all.filter fun method => (item.operation? method).isSome := by
  rw [PathItem.operations]
  induction Method.all with
  | nil => rfl
  | cons method methods ih =>
    rw [List.filterMap_cons, List.filter_cons]
    rcases item.operation? method with _ | operation
    · exact ih
    · exact congrArg (method :: ·) ih

/-- The operations of a path item are those that `PathItem.operation?` has for some method. -/
theorem mem_operations_iff {item : PathItem} {method : Method} {operation : Operation} :
    (method, operation) ∈ item.operations ↔ item.operation? method = some operation := by
  rw [PathItem.operations, List.mem_filterMap]
  refine ⟨?_, ?_⟩
  · rintro ⟨method', -, h⟩
    obtain ⟨operation', hoperation, hpair⟩ := Option.map_eq_some_iff.mp h
    cases hpair
    exact hoperation
  · intro h
    have hall : method ∈ Method.all := by cases method <;> decide
    exact ⟨method, hall, by rw [h]; rfl⟩

/-- The methods and paths of `Document.endpoints` are `Document.requests`. -/
theorem map_endpoints (document : Document) :
    document.endpoints.map (fun e => (e.method, e.path)) = document.requests := by
  rw [Document.endpoints, List.map_flatMap, Document.requests]
  refine List.flatMap_congr fun (path, item) _ => ?_
  have hmethods : (item.operations.map Prod.fst).map (fun method => (method, path)) =
      (Method.all.filter fun method => (item.operation? method).isSome).map
        fun method => (method, path) := by
    rw [map_operations]
  rw [List.map_map] at hmethods ⊢
  exact hmethods

/-- The members of `document.endpoints` are the operations of the paths. -/
theorem mem_endpoints_iff :
    e ∈ document.endpoints ↔
      (e.path, e.item) ∈ document.paths ∧ e.item.operation? e.method = some e.operation := by
  rw [Document.endpoints, List.mem_flatMap]
  refine ⟨?_, ?_⟩
  · rintro ⟨⟨path, item⟩, hpath, he⟩
    obtain ⟨⟨method, operation⟩, hoperation, rfl⟩ := List.mem_map.mp he
    exact ⟨hpath, mem_operations_iff.mp hoperation⟩
  · rintro ⟨hpath, hoperation⟩
    exact ⟨_, hpath, List.mem_map.mpr ⟨_, mem_operations_iff.mpr hoperation, rfl⟩⟩

/-- If `f` applies `g` to every operation of a path item, it applies `g` to the members of
`PathItem.operations`. -/
theorem operations_map {f : PathItem → PathItem} {g : Operation → Operation}
    (h : ∀ item method, (f item).operation? method = (item.operation? method).map g)
    (item : PathItem) :
    (f item).operations = item.operations.map fun (method, operation) => (method, g operation) := by
  rw [PathItem.operations, PathItem.operations, List.map_filterMap]
  refine List.filterMap_congr fun method _ => ?_
  simp [h, Function.comp_def]

/-- If `f` applies `g` to every operation of a path item, applying `f` to all paths of a document
applies both to the members of `Document.endpoints`. -/
theorem endpoints_mapValues {f : PathItem → PathItem} {g : Operation → Operation}
    (h : ∀ item method, (f item).operation? method = (item.operation? method).map g)
    (document : Document) :
    Document.endpoints { document with paths := document.paths.mapValues f } =
      document.endpoints.map fun e =>
        { e with item := f e.item, operation := g e.operation } := by
  simp only [Document.endpoints, Entries.mapValues, List.flatMap_map, List.map_flatMap,
    operations_map h, List.map_map]
  rfl

/-- If no path is repeated, `document.requests` has no duplicates. -/
theorem nodup_requests (h : document.paths.keys.Nodup) : document.requests.Nodup := by
  rw [Document.requests, List.nodup_flatMap]
  refine ⟨?_, ?_⟩
  · rintro ⟨path, item⟩ -
    refine List.Nodup.map (fun m m' hm => congrArg Prod.fst hm) ?_
    exact List.Nodup.filter _ (by decide)
  · refine (List.pairwise_map.mp h).imp ?_
    rintro ⟨path, item⟩ ⟨path', item'⟩ hne r hr hr'
    obtain ⟨m, -, rfl⟩ := List.mem_map.mp hr
    obtain ⟨m', -, hm'⟩ := List.mem_map.mp hr'
    exact hne (congrArg Prod.snd hm').symm

/-- If `Generates` relates `es` and `fs`, they have the same methods and paths. -/
theorem map_generated {es : List Endpoint} {fs : List RequestFunction}
    (h : List.Forall₂ (Generates document useHeaders) es fs) :
    (fs.map fun f => (f.method, f.path)) = es.map fun e => (e.method, e.path) := by
  induction h with
  | nil => rfl
  | cons hf _ ih => rw [List.map_cons, List.map_cons, hf.method, hf.path, ih]

/-- **One function for each operation.** For every document:

* the operations are `Document.requests` in this order, they are those that the paths have, and if
  no path is repeated, no operation occurs twice;
* if there are functions, each `Generates` the operation at its position, with the bundle of the
  shared and the own parameters, and all operations are announced;
* there are none exactly if some operation has no bundle, and then the error names the first such
  operation with its cause, and the operations up to this one are announced. -/
theorem requestFunctions_one_per_operation (document : Document) (useHeaders : Bool) :
    (document.endpoints.map fun e => (e.method, e.path)) = document.requests ∧
    (∀ e, e ∈ document.endpoints ↔
      (e.path, e.item) ∈ document.paths ∧ e.item.operation? e.method = some e.operation) ∧
    (document.paths.keys.Nodup → document.requests.Nodup) ∧
    (∀ fs, (requestFunctions document useHeaders).result = .ok fs →
      List.Forall₂ (Generates document useHeaders) document.endpoints fs ∧
      (fs.map fun f => (f.method, f.path)) = document.requests ∧
      (requestFunctions document useHeaders).progress =
        document.endpoints.map Endpoint.announcement) ∧
    ((∃ error, (requestFunctions document useHeaders).result = .error error) ↔
      ∃ e ∈ document.endpoints, ∃ cause, e.outcome document useHeaders = .error cause) ∧
    (∀ error, (requestFunctions document useHeaders).result = .error error ↔
      ∃ before e cause, StopsAt document useHeaders document.endpoints before e cause ∧
        error = ⟨e.method, e.path, cause⟩) ∧
    (∀ before e cause, StopsAt document useHeaders document.endpoints before e cause →
      (requestFunctions document useHeaders).progress =
        (before ++ [e]).map Endpoint.announcement) ∧
    ∀ error : FunctionError,
      error.message = "generating parameters of " ++ error.method.name ++ " " ++ error.path ++
        " failed" := by
  have hrequests := map_endpoints document
  refine ⟨hrequests, fun e => mem_endpoints_iff, nodup_requests, ?_, ?_,
    fun error => requestFunctionsFrom_eq_error_iff, ?_, fun error => rfl⟩
  · intro fs hfs
    obtain ⟨hgenerates, hprogress⟩ := requestFunctionsFrom_ok_inv hfs
    exact ⟨hgenerates, (map_generated hgenerates).trans hrequests, hprogress⟩
  · rw [← exists_stopsAt_iff]
    refine ⟨?_, ?_⟩
    · rintro ⟨error, herror⟩
      obtain ⟨before, e, cause, hstops, -⟩ := requestFunctionsFrom_eq_error_iff.mp herror
      exact ⟨before, e, cause, hstops⟩
    · rintro ⟨before, e, cause, hstops⟩
      exact ⟨_, requestFunctionsFrom_eq_error_iff.mpr ⟨before, e, cause, hstops, rfl⟩⟩
  · intro before e cause hstops
    exact (requestFunctionsFrom_of_stopsAt [] hstops).2

/-- Two paths with two operations each. The schema in the body of the third operation has the type
`type`. -/
def petShop (type : Option String) : Document :=
  let parameter (name : String) (location : Location) (schema : Option Schema) : Descriptor :=
    .inline ⟨name, location, false, none, some "string", none, schema, none⟩
  { Document.empty with
    paths := [
      ("/pets", {
        operation? := fun
          | .post | .get => some Operation.empty
          | _ => none
        parameters := [parameter "limit" .query none] }),
      ("/orders", {
        operation? := fun
          | .patch => some Operation.empty
          | .put =>
            some { Operation.empty with
              parameters := [parameter "order" .body (some { Schema.any with type })] }
          | _ => none
        parameters := [] })] }

/-- With a type there are four functions. Without one the third operation fails, and the fourth is
not announced. -/
theorem requestFunctions_one_per_operation_petShop :
    (∃ fs, (requestFunctions (petShop (some "object")) true).result = .ok fs ∧
      (fs.map fun f => (f.method, f.path)) =
        [(.get, "/pets"), (.post, "/pets"), (.put, "/orders"), (.patch, "/orders")]) ∧
    (petShop none).requests.Nodup ∧
    (requestFunctions (petShop none) true).result =
      .error ⟨.put, "/orders", .untypable "order"⟩ ∧
    (requestFunctions (petShop none) true).progress =
      ["generating request for GET /pets", "generating request for POST /pets",
        "generating request for PUT /orders"] := by
  have hfail := requestFunctions_one_per_operation (petShop none) true
  refine ⟨?_, ?_, ?_⟩
  · obtain ⟨fs, hfs⟩ : ∃ fs, (requestFunctions (petShop (some "object")) true).result = .ok fs :=
      ⟨_, rfl⟩
    obtain ⟨-, hrequests, -⟩ := (requestFunctions_one_per_operation _ true).2.2.2.1 fs hfs
    exact ⟨fs, hfs, hrequests⟩
  · exact hfail.2.2.1 (by decide)
  · have hstops : StopsAt (petShop none) true (petShop none).endpoints
        ((petShop none).endpoints.take 2) ((petShop none).endpoints[2])
        (.untypable "order") := by
      refine ⟨⟨(petShop none).endpoints.drop 3, rfl⟩, ?_, rfl⟩
      intro o ho
      rcases List.mem_pair.mp ho with rfl | rfl <;> exact ⟨_, rfl⟩
    exact ⟨(hfail.2.2.2.2.2.1 _).mpr ⟨_, _, _, hstops, rfl⟩, hfail.2.2.2.2.2.2.1 _ _ _ hstops⟩

end SwaggerRequests
