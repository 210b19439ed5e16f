import Stencil.Number.Shortest
import Stencil.Template.Value
import Stencil.Text.Quoted

/-!
# Printed values

The text of a value, on its own and inside a list or a map. Inside, texts are quoted and large or
small numbers are written in scientific form.
-/

namespace Stencil.Template.Value

/-- Numbers on their own are always written with all their places. -/
def plainFloat : Number.FloatFormat := ⟨"NaN", "inf", Option.none, Option.none⟩

/-- Numbers inside other values from 1e16 on or below 1e-4 are written in scientific form. -/
def innerFloat : Number.FloatFormat := ⟨"NaN", "inf", some (-4), some 16⟩

mutual

/-- The text of a value inside another. -/
def innerText : Value → String
  | .undefined _ => "undefined"
  | .none => "none"
  | .bool value => toString value
  | .int value => toString value
  | .float value => innerFloat.write value
  | .text value => Text.quoted value
  | .list items => "[" ++ itemsText items ++ "]"
  | .map entries => "\x7b" ++ entriesText entries ++ "\x7d"
  | .function builtin => builtin.name
  | .macroIn _ _ => "macro"
  | .position _ => "loop"

/-- The texts of the items of a list. -/
def itemsText : List Value → String
  | [] => ""
  | [item] => innerText item
  | item :: rest => innerText item ++ ", " ++ itemsText rest

/-- The texts of the entries of a map. -/
def entriesText : List (Value × Value) → String
  | [] => ""
  | [(key, value)] => innerText key ++ ": " ++ innerText value
  | (key, value) :: rest =>
    innerText key ++ ": " ++ innerText value ++ ", " ++ entriesText rest

end

/-- The text that a value prints as. -/
def print : Value → String
  | .undefined _ => ""
  | .text value => value
  | .float value => plainFloat.write value
  | value => innerText value

end Stencil.Template.Value
