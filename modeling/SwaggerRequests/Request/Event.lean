/-!
# Events

While it generates a module, the program reports its progress and every irregularity of the document
that it resolves by a rule. An `Event` is one such report, with a `Level` and a text
(`Event.message`).

The monad of these computations is `Logged ε`: a value or an error of type `ε`, and the events
reported on the way. The events of a computation that fails are kept, so `Logged` is a structure
with both parts and not a state under an exception.
-/

namespace SwaggerRequests

/-- The importance of an `Event`. -/
inductive Level where
  | debug
  | info
  | warn
  deriving DecidableEq, Repr

/-- The name of a level in a log. -/
def Level.name : Level → String
  | .debug => "DEBUG"
  | .info => "INFO"
  | .warn => "WARN"

/-- An event in the log of a run, with a constructor for each kind of record. -/
inductive Event where
  /-- `requestFunction` begins with an operation -/
  | generating (method path : String)
  /-- `distinctDescriptors` drops a descriptor whose name `isElementName` -/
  | droppedElement (name : String)
  /-- `distinctDescriptors` replaces a descriptor by a later one with its name -/
  | redeclared (name : String)
  /-- two parameters have one name after `Descriptor.resolve` -/
  | ambiguous (name : String)
  /-- a header parameter is not emitted, without `Options.useHeaders` -/
  | skippedHeader (name : String)
  /-- `name` is imported for an operation, but is not a key of the definitions -/
  | undefinedClass (method path name : String)
  /-- `generateFile` has written the module -/
  | wrote (path : String)
  deriving DecidableEq, Repr

namespace Event

/-- The `Level` of an event. -/
def level : Event → Level
  | .generating .. | .wrote _ => .info
  | .droppedElement _ | .redeclared _ | .skippedHeader _ => .debug
  | .ambiguous _ | .undefinedClass .. => .warn

/-- The text of an event. -/
def message : Event → String
  | .generating method path => s!"generating request for {method} {path}"
  | .droppedElement name => s!"dropping list element parameter '{name}'"
  | .redeclared name =>
    s!"parameter '{name}' declared more than once, keeping the last declaration"
  | .ambiguous name =>
    s!"more than one parameter resolves to the name '{name}', it is emitted more than once"
  | .skippedHeader name => s!"skipping header parameter '{name}'"
  | .undefinedClass method path name =>
    s!"{method} {path} refers to '{name}', which has no definition"
  | .wrote path => s!"wrote {path}"

/-- The line of the log for an event: its `level` and its `message`. -/
def line (e : Event) : String := e.level.name ++ " " ++ e.message

end Event

/-- A computation that reports events and may fail with an error of type `ε`. -/
structure Logged (ε α : Type) where
  /-- the events in the order in which they were reported, also if it fails -/
  log : List Event
  /-- the value or the error -/
  result : Except ε α

namespace Logged

variable {ε ε' α β : Type}

/-- The value `a`, without events. -/
protected def pure (a : α) : Logged ε α := ⟨[], .ok a⟩

/-- Continues with the value of `x`, if it did not fail. -/
protected def bind (x : Logged ε α) (f : α → Logged ε β) : Logged ε β :=
  match x.result with
  | .ok a => ⟨x.log ++ (f a).log, (f a).result⟩
  | .error e => ⟨x.log, .error e⟩

instance : Monad (Logged ε) where
  pure := Logged.pure
  bind := Logged.bind

/-- Reports `events`. -/
def report (events : List Event) : Logged ε Unit := ⟨events, .ok ()⟩

/-- The value or error `x`, without events. -/
def ofExcept (x : Except ε α) : Logged ε α := ⟨[], x⟩

/-- The error `e`, without events. -/
def fail (e : ε) : Logged ε α := ⟨[], .error e⟩

/-- Applies `f` to the error. -/
def mapError (f : ε → ε') (x : Logged ε α) : Logged ε' α := ⟨x.log, x.result.mapError f⟩

end Logged

end SwaggerRequests
