import Stencil.Schema.Basic

/-!
# Nested types

The composite attributes of a tree, for each of which a type is generated, parents first. Attributes
at the top are at depth one. One that lies too deep is an error; none is left out.
-/

namespace Stencil.Schema

/-- A composite attribute lies deeper than allowed. -/
structure DepthExceeded where
  typeName : String
  depth : Nat
  maxDepth : Nat
deriving DecidableEq, Repr

/-- What is wrong, in words. -/
def DepthExceeded.message (fault : DepthExceeded) : String :=
  s!"composite attribute '{fault.typeName}' is nested {fault.depth} levels deep, " ++
    s!"at most {fault.maxDepth} are supported"

mutual

/-- The composite attributes among an attribute at a depth and its descendants. -/
def Attribute.compositesFrom (maxDepth depth : Nat) :
    Attribute → Except DepthExceeded (List Attribute)
  | ⟨field, children⟩ =>
    if children.isEmpty then pure []
    else if maxDepth < depth then throw ⟨field.typeName, depth, maxDepth⟩
    else do
      let below ← compositesFromAll maxDepth (depth + 1) children
      pure (⟨field, children⟩ :: below)

/-- The composite attributes among siblings at a depth and their descendants. -/
def compositesFromAll (maxDepth depth : Nat) :
    List Attribute → Except DepthExceeded (List Attribute)
  | [] => pure []
  | attr :: rest => do
    let first ← attr.compositesFrom maxDepth depth
    let others ← compositesFromAll maxDepth depth rest
    pure (first ++ others)

end

/-- The composite attributes of a forest, parents before children. -/
def nestedTypes (attributes : List Attribute) (maxDepth : Nat) :
    Except DepthExceeded (List Attribute) :=
  compositesFromAll maxDepth 1 attributes

end Stencil.Schema
