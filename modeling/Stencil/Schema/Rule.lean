import Stencil.Schema.Path

/-!
# Structural rules

The rules that every attribute of a schema keeps. `violated?` gives the first rule that an attribute
breaks, and `firstViolation?` the first attribute that breaks one, in the order of `located`.
-/

namespace Stencil.Schema

/-- The rules, in the order in which they are checked. -/
inductive Rule where
  | childrenRequireCollection
  | childrenWithElementType
  | mapElementType
  | orderedListNotList
  | orderedListWithId
  | mapWithId
deriving DecidableEq, Repr

/-- What a rule says. -/
def Rule.message : Rule → String
  | .childrenRequireCollection =>
    "attributes with child attributes must be of type List, Set or Map"
  | .childrenWithElementType =>
    "attributes cannot have both child attributes and an element type"
  | .mapElementType => "Map attributes with an element type are not supported"
  | .orderedListNotList => "ordered_list is only supported on List attributes"
  | .orderedListWithId => "ordered_list attributes cannot contain a child flagged as id"
  | .mapWithId => "Map attributes cannot contain a child flagged as id"

/-- The rules, in the order in which they are checked. -/
def Rule.all : List Rule :=
  [.childrenRequireCollection, .childrenWithElementType, .mapElementType, .orderedListNotList,
    .orderedListWithId, .mapWithId]

/-- Some child tells the objects of the collection apart. -/
def Attribute.hasIdChild (attr : Attribute) : Bool :=
  attr.children.any (·.field.isId)

/-- The attribute breaks the rule. -/
def Rule.isBroken (attr : Attribute) : Rule → Bool
  | .childrenRequireCollection => attr.isComposite && !attr.field.type.isCollection
  | .childrenWithElementType => attr.isComposite && attr.field.elementType.isSome
  | .mapElementType => attr.field.type == .map && attr.field.elementType.isSome
  | .orderedListNotList => attr.field.orderedList && attr.field.type != .list
  | .orderedListWithId => attr.field.orderedList && attr.hasIdChild
  | .mapWithId => attr.field.type == .map && attr.hasIdChild

/-- The first rule that the attribute breaks. -/
def Attribute.violated? (attr : Attribute) : Option Rule :=
  Rule.all.find? (·.isBroken attr)

/-- A rule that the attribute at a path breaks. -/
structure Violation where
  path : String
  rule : Rule
deriving DecidableEq, Repr

/-- The attribute and the rule it breaks. -/
def Violation.message (violation : Violation) : String :=
  s!"attribute '{violation.path}': {violation.rule.message}"

/-- The first violation in a schema. -/
def firstViolation? (schema : Schema) : Option Violation :=
  schema.located.findSome? fun (path, attr) => attr.violated?.map fun rule => ⟨path, rule⟩

end Stencil.Schema
