import Stencil.Log.Event
import Stencil.Text.Case
import Stencil.Text.Blank
import Stencil.Text.Piece

/-!
# Log filters

Which events are shown. A directive names a level, a target, or both; it may ask for fields, and a
directive for a span holds only inside one. Of the directives that fit an event the one with the
longest target decides, and of equally long ones the one with more fields.
-/

namespace Stencil.Log

open Stencil.Text (pieces trim)

/-- A directive. Without a level nothing of the target is shown. -/
structure Directive where
  target : Option String
  fields : List String
  level : Option Level
  /-- It holds only inside a span. -/
  spanned : Bool
deriving DecidableEq, Repr

/-- An order of importance by number: nothing, and then from errors to traces. -/
def numbered : List (Nat × Option Level) :=
  [(0, none), (1, some .error), (2, some .warn), (3, some .info), (4, some .debug),
    (5, some .trace)]

/-- The levels by name, with the one that shows nothing. -/
def named : List (String × Option Level) :=
  [("off", none), ("error", some .error), ("warn", some .warn), ("info", some .info),
    ("debug", some .debug), ("trace", some .trace)]

/-- A text with the letters of ASCII in lower case. -/
def lowered (text : List Char) : String := .ofList (text.map Char.toLower)

/-- The number that digits after an optional plus sign stand for. -/
def readNumber? (text : List Char) : Option Nat :=
  let digits :=
    match text with
    | '+' :: rest => rest
    | text => text
  if digits.isEmpty || !digits.all Char.isDigit then none
  else some (digits.foldl (fun value digit => 10 * value + (digit.toNat - 48)) 0)

/-- The level that a directive asks for. -/
def readLevel? (text : List Char) : Option (Option Level) :=
  match readNumber? text with
  | some number => numbered.lookup number
  | none => named.lookup (lowered text)

/-- The level after an equals sign. Where none is given all is shown. -/
def readLevelAfter? (text : List Char) : Option (Option Level) :=
  if text.isEmpty then some (some .trace) else readLevel? text

/-- The fields between braces and whether one has a value. -/
def readFields? (text : List Char) : Option (List String × Bool) :=
  let parts := pieces (· == ',') text
  if parts.any (·.isEmpty) then none
  else
    some (parts.map fun part => .ofList (part.takeWhile (· != '=')),
      parts.any (·.contains '='))

/-- A directive from a span on, given its target. -/
def readSpan? (target : Option String) (text : List Char) : Option Directive := do
  let name := text.takeWhile fun letter => letter != ']' && letter != '\x7b'
  let (fields, valued, rest) ←
    match text.drop name.length with
    | ']' :: rest => some ([], false, rest)
    | '\x7b' :: rest => do
      let inside := rest.takeWhile (· != '\x7d')
      let (fields, valued) ← readFields? inside
      match rest.drop inside.length with
      | '\x7d' :: ']' :: rest => some (fields, valued, rest)
      | _ => none
    | _ => none
  let level ←
    match rest with
    | [] => some (some .trace)
    | '=' :: level => readLevelAfter? level
    | _ => none
  some ⟨target, fields, level, !name.isEmpty || valued⟩

/-- A character that a directive may start with. -/
def startsDirective (letter : Char) : Bool :=
  letter.isAlphanum || letter == '-' || letter == ':' || letter == '_' || 0x80 ≤ letter.toNat

/-- A directive. A name alone is a level if it can be, and else a target of which all is shown. -/
def Directive.read? (text : List Char) : Option Directive :=
  let text := trim text
  match text with
  | [] => none
  | '[' :: rest => readSpan? none rest
  | first :: _ =>
    if !startsDirective first then none
    else
      let name := text.takeWhile fun letter => letter != '=' && letter != '['
      match text.drop name.length with
      | '=' :: level =>
        (readLevelAfter? level).map fun level => ⟨some (.ofList name), [], level, false⟩
      | '[' :: rest => readSpan? (some (.ofList name)) rest
      | _ =>
        match readLevel? name with
        | some level => some ⟨none, [], level, false⟩
        | none => some ⟨some (.ofList name), [], some .trace, false⟩

/-- The directives of a filter, the latest first. -/
abbrev Filter := List Directive

/-- The directives in a text, with commas between them. A text without any shows errors. -/
def Filter.read? (text : String) : Option Filter :=
  let parts := (pieces (· == ',') text.toList).filter (!·.isEmpty)
  if parts.isEmpty then some [⟨none, [], some .error, false⟩]
  else (parts.mapM Directive.read?).map List.reverse

/-- The directive is about the event. -/
def Directive.fits (event : Event) (directive : Directive) : Bool :=
  !directive.spanned &&
    (directive.target.all fun target =>
      (Text.dropStart? target.toList event.target.toList).isSome) &&
    directive.fields.all fun field =>
      field = "message" || (event.fields.lookup field).isSome

/-- How closely a directive is about its events. -/
def Directive.weight (directive : Directive) : Nat × Nat :=
  ((directive.target.map fun target => target.utf8ByteSize + 1).getD 0, directive.fields.length)

/-- The first of the closest directives. -/
def closest? : List Directive → Option Directive
  | [] => none
  | directive :: rest =>
    match closest? rest with
    | none => some directive
    | some other =>
      let (target, fields) := directive.weight
      let (otherTarget, otherFields) := other.weight
      if otherTarget < target || otherTarget = target && otherFields ≤ fields then some directive
      else some other

/-- The event is shown. -/
def Filter.shows (filter : Filter) (event : Event) : Bool :=
  match closest? (filter.filter (·.fits event)) with
  | some directive => directive.level.any (·.rank ≤ event.level.rank)
  | none => false

end Stencil.Log
