import Stencil.Text.Quoted

/-!
# Events

What a run reports while it goes on, besides its result. An event has a level, a message, the values
of its fields, and the component it comes from.
-/

namespace Stencil.Log

/-- How important an event is. -/
inductive Level where
  | trace
  | debug
  | info
  | warn
  | error
deriving DecidableEq, Repr

/-- The levels in order. -/
def Level.rank : Level → Nat
  | .trace => 0
  | .debug => 1
  | .info => 2
  | .warn => 3
  | .error => 4

/-- The name of a level. -/
def Level.label : Level → String
  | .trace => "TRACE"
  | .debug => "DEBUG"
  | .info => "INFO"
  | .warn => "WARN"
  | .error => "ERROR"

/-- What happened. -/
inductive Event where
  | noConfiguration
  | loadedConfiguration (path : String)
  | loadedSchema (path name : String)
  /-- An output shares its file with the sections that are there. -/
  | reconciling (path : String) (sections : List String)
  | upToDate (path : String)
  | wouldWrite (path : String)
  | wrote (path : String)
  | complete (schemas written unchanged : Nat)
  | lintErrors
deriving DecidableEq, Repr

/-- The value of a field of an event. -/
inductive FieldValue where
  | text (text : String)
  | count (value : Nat)
deriving DecidableEq, Repr

/-- A value in words. -/
def FieldValue.write : FieldValue → String
  | .text content => content
  | .count value => toString value

namespace Event

/-- How important the event is. -/
def level : Event → Level
  | .noConfiguration | .loadedConfiguration _ | .wouldWrite _ | .wrote _ | .complete .. => .info
  | .loadedSchema .. | .reconciling .. | .upToDate _ => .debug
  | .lintErrors => .warn

/-- The component that reports the event. -/
def target : Event → String
  | .noConfiguration | .loadedConfiguration _ | .complete .. | .lintErrors =>
    "provider_gen::cli::commands"
  | .loadedSchema .. | .reconciling .. | .upToDate _ | .wouldWrite _ | .wrote _ =>
    "provider_gen::generator::project::generate"

/-- The event in words. -/
def message : Event → String
  | .noConfiguration => "no configuration file, using defaults"
  | .loadedConfiguration _ => "loaded configuration"
  | .loadedSchema .. => "loaded schema"
  | .reconciling .. => "reconciling sections"
  | .upToDate _ => "up to date"
  | .wouldWrite _ => "would write"
  | .wrote _ => "wrote"
  | .complete .. => "generation complete"
  | .lintErrors => "lint found error-level issues"

/-- The fields of the event besides its message. -/
def fields : Event → List (String × FieldValue)
  | .noConfiguration | .lintErrors => []
  | .loadedConfiguration path | .upToDate path | .wouldWrite path | .wrote path =>
    [("path", .text path)]
  | .loadedSchema path name => [("path", .text path), ("schema", .text name)]
  | .reconciling path sections =>
    [("path", .text path), ("sections", .text (Text.quotedList sections))]
  | .complete schemas written unchanged =>
    [("schemas", .count schemas), ("written", .count written), ("unchanged", .count unchanged)]

/-- The event as a line: its level, its message and its fields. -/
def line (event : Event) : String :=
  let label := event.level.label
  let indent : String := .ofList (List.replicate (5 - label.length) ' ')
  let fields := event.fields.map fun (name, value) => " " ++ name ++ "=" ++ value.write
  indent ++ label ++ " " ++ event.message ++ String.join fields

end Event

end Stencil.Log
