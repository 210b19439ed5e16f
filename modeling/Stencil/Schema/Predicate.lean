import Stencil.Schema.Basic

/-!
# Predicates on attributes

The questions that templates ask about attributes and lists of attributes. Ids and references are
looked for among the immediate members only, parts of the parent's path at every depth.
-/

namespace Stencil.Schema

namespace Field

/-- A flat list or set. -/
def isListSet (field : Field) : Bool :=
  field.type.isListOrSet && field.elementType.isSome

/-- A flat list or set of texts. -/
def isStringListSet (field : Field) : Bool :=
  field.isListSet && field.elementType == some .string

/-- A flat list or set of integers. -/
def isInt64ListSet (field : Field) : Bool :=
  field.isListSet && field.elementType == some .int64

/-- A collection of objects. -/
def isNested (field : Field) : Bool :=
  field.type.isCollection && field.elementType.isNone

/-- A list of objects. -/
def isNestedList (field : Field) : Bool :=
  field.type == .list && field.elementType.isNone

/-- A set of objects. -/
def isNestedSet (field : Field) : Bool :=
  field.type == .set && field.elementType.isNone

/-- A map of objects. -/
def isNestedMap (field : Field) : Bool :=
  field.type == .map && field.elementType.isNone

end Field

/-- Some attribute of the list is an id. -/
def hasId (attributes : List Attribute) : Bool :=
  attributes.any (·.field.isId)

/-- Some attribute of the list is a reference. -/
def hasReference (attributes : List Attribute) : Bool :=
  attributes.any (·.field.isReference)

mutual

/-- The attribute or one of its descendants is part of the parent's path. -/
def Attribute.reachesResourceId : Attribute → Bool
  | ⟨field, children⟩ => field.isResourceId || hasResourceId children

/-- Some attribute, at any depth, is part of the parent's path. -/
def hasResourceId : List Attribute → Bool
  | [] => false
  | attr :: rest => attr.reachesResourceId || hasResourceId rest

end

/-- The attribute contributes a part to an import identifier. One that is both a reference and an
id contributes one part only. -/
def Attribute.isImportPart (attr : Attribute) : Bool :=
  attr.field.isReference || attr.field.isId

/-- The number of parts of an import identifier: one for the object's own id, and one for each
attribute of the list that contributes. -/
def importParts (attributes : List Attribute) : Nat :=
  1 + attributes.countP (·.isImportPart)

end Stencil.Schema
