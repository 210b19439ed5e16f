import Stencil.Log.Event

/-!
# Events for machines

An event as one line of JSON: its level, its fields with the message first, and its component.
-/

namespace Stencil.Log

/-- A character as it stands in a JSON text. -/
def jsonChar (letter : Char) : List Char :=
  match letter with
  | '"' => ['\\', '"']
  | '\\' => ['\\', '\\']
  | '\x08' => ['\\', 'b']
  | '\x0c' => ['\\', 'f']
  | '\n' => ['\\', 'n']
  | '\r' => ['\\', 'r']
  | '\t' => ['\\', 't']
  | _ =>
    if letter.toNat < 0x20 then
      let digits := Nat.toDigits 16 letter.toNat
      ['\\', 'u'] ++ List.replicate (4 - digits.length) '0' ++ digits
    else [letter]

/-- A JSON text. -/
def jsonText (text : String) : String :=
  "\"" ++ .ofList (text.toList.flatMap jsonChar) ++ "\""

/-- A JSON object. -/
def jsonObject (fields : List (String × String)) : String :=
  let pairs := fields.map fun (name, value) => jsonText name ++ ":" ++ value
  "\x7b" ++ ",".intercalate pairs ++ "\x7d"

/-- The value of a field as JSON. -/
def FieldValue.json : FieldValue → String
  | .text content => jsonText content
  | .count value => toString value

/-- The event as JSON. -/
def Event.json (event : Event) : String :=
  let fields := event.fields.map fun (name, value) => (name, value.json)
  jsonObject [("level", jsonText event.level.label),
    ("fields", jsonObject (("message", jsonText event.message) :: fields)),
    ("target", jsonText event.target)]

end Stencil.Log
