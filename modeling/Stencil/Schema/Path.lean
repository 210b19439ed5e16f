import Stencil.Schema.Basic

/-!
# Paths of attributes

Where an attribute stands in the tree of a schema: the external names from the root to it, joined
with dots, without the empty names in front. The walk in `located` meets parents before their
children and siblings in order.
-/

namespace Stencil.Schema

/-- The path of a child with that name below a parent. -/
def childPath (parent name : String) : String :=
  if parent = "" then name else s!"{parent}.{name}"

mutual

/-- An attribute and its descendants, parents first, each with its path. -/
def Attribute.located (parent : String) : Attribute → List (String × Attribute)
  | ⟨field, children⟩ =>
    let path := childPath parent field.tfName
    (path, ⟨field, children⟩) :: Attribute.locatedAll path children

/-- Siblings and their descendants, each with its path. -/
def Attribute.locatedAll (parent : String) : List Attribute → List (String × Attribute)
  | [] => []
  | attr :: rest => attr.located parent ++ Attribute.locatedAll parent rest

end

/-- All attributes of a schema, parents first, each with its path. -/
def located (schema : Schema) : List (String × Attribute) :=
  Attribute.locatedAll "" schema.attributes

end Stencil.Schema
