import Stencil.Template.Builtin
import Stencil.Template.Node

/-!
# Values of templates

What expressions evaluate to. Maps are lists of entries in the order of their keys, each key once.
A macro does not carry the variables it can see; it knows the height of the frame that declared it,
and that frame is on the stack whenever the macro can be called.
-/

namespace Stencil.Template

/-- A declared macro. The last parameters have the defaults. -/
structure Macro where
  parameters : List String
  defaults : List Expr
  body : List Stmt

/-- How far a loop has come, and how many recursive loops it stands in. -/
structure LoopPosition where
  index : Nat
  length : Nat
  depth : Nat
deriving DecidableEq, Repr

/-- Values. -/
inductive Value where
  /-- A missing value. A quiet one prints as nothing; any other is an error wherever it counts. -/
  | undefined (quiet : Bool)
  | none
  | bool (value : Bool)
  | int (value : Int)
  | float (value : Float)
  | text (value : String)
  | list (items : List Value)
  | map (entries : List (Value × Value))
  | function (builtin : Builtin)
  /-- A macro declared in the frame at the height `home`. -/
  | macroIn (home : Nat) (declared : Macro)
  | position (loop : LoopPosition)

namespace Value

/-- A literal as a value. -/
def ofLiteral : Literal → Value
  | .none => .none
  | .bool value => .bool value
  | .int value => .int value
  | .float value => .float value
  | .text value => .text value

/-- A map with texts as keys, given in their order. -/
def ofFields (fields : List (String × Value)) : Value :=
  .map (fields.map fun (name, value) => (.text name, value))

/-- The value is missing. -/
def isUndefined : Value → Bool
  | .undefined _ => true
  | _ => false

/-- The value is missing and does not hide it. -/
def isLoudlyUndefined : Value → Bool
  | .undefined quiet => !quiet
  | _ => false

/-- The value counts as true: it is neither missing, zero nor empty. -/
def isTrue : Value → Bool
  | .undefined _ => false
  | .none => false
  | .bool value => value
  | .int value => value != 0
  | .float value => value != 0
  | .text value => value != ""
  | .list items => !items.isEmpty
  | .map entries => !entries.isEmpty
  | .function _ => true
  | .macroIn _ _ => true
  | .position _ => true

end Value

end Stencil.Template
