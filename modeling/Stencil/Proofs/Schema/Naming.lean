import Stencil.Proofs.Schema.Position
import Stencil.Schema.Derive

/-!
# Names in a tree

What deriving names does to a tree of attributes, attribute by attribute. The tree keeps its shape,
so a walk through the named tree meets at every position what it met before with its names
(`visitsAll_derive`): the external name that was declared or follows from the wire name, and the
type name of the schema followed by the Pascal-cased external names on the way (`typeName_derive`).
-/

namespace Stencil.Schema

open Attribute (visitsAll deriveAll)

/-- A type name followed by the Pascal-cased external names of attributes. -/
def typeBelow (parent : String) (way : List Attribute) : String :=
  way.foldl (fun parent attr => parent ++ Name.pascalCase attr.field.externalName) parent

/-- The attributes on a way with their names. -/
def deriveWay (parent : String) : List Attribute → List Attribute
  | [] => []
  | attr :: rest => attr.derive parent :: deriveWay (typeBelow parent [attr]) rest

/-- An attribute that a walk meets, with its names. -/
def Visit.derive (parent : String) (visit : Visit) : Visit :=
  ⟨visit.position, deriveWay parent visit.above,
    visit.attr.derive (typeBelow parent visit.above)⟩

/-- A type name is extended by one way after another. -/
theorem typeBelow_append (parent : String) (above below : List Attribute) :
    typeBelow parent (above ++ below) = typeBelow (typeBelow parent above) below :=
  List.foldl_append

/-- An attribute gets its names, and its children get theirs below its type name. -/
theorem derive_eq (parent : String) (attr : Attribute) :
    attr.derive parent =
      ⟨attr.field.derive parent, deriveAll (typeBelow parent [attr]) attr.children⟩ := by
  obtain ⟨field, children⟩ := attr
  rw [Attribute.derive]
  rfl

/-- Siblings get their names one by one. -/
theorem deriveAll_eq_map (parent : String) (attributes : List Attribute) :
    deriveAll parent attributes = attributes.map (Attribute.derive parent) := by
  induction attributes with
  | nil => rfl
  | cons attr rest ih => rw [deriveAll, ih, List.map_cons]

/-- The way to an attribute with its names. -/
theorem way_derive (parent : String) (visit : Visit) :
    (visit.derive parent).way = deriveWay parent visit.way := by
  obtain ⟨position, above, attr⟩ := visit
  simp only [Visit.derive, Visit.way]
  induction above generalizing parent with
  | nil => rfl
  | cons first rest ih => exact congrArg (first.derive parent :: ·) (ih (typeBelow parent [first]))

/-- The external names on a way are those that were declared or follow from the wire names. -/
theorem tfName_deriveWay (parent : String) (way : List Attribute) :
    (deriveWay parent way).map (·.field.tfName) = way.map (·.field.externalName) := by
  induction way generalizing parent with
  | nil => rfl
  | cons attr rest ih => rw [deriveWay, List.map_cons, ih, derive_eq]; rfl

/-- The type name of an attribute is that of its schema followed by the Pascal-cased external names
on the way to it. -/
theorem typeName_derive (parent : String) (visit : Visit) :
    (visit.derive parent).attr.field.typeName = typeBelow parent visit.way := by
  rw [Visit.derive, derive_eq, Visit.way, typeBelow_append]
  rfl

/-- A walk through a named tree meets at every position what it met before, with its names. -/
theorem visitsAll_derive (parent : String) (index : Nat) (attributes : List Attribute) :
    visitsAll index (deriveAll parent attributes) =
      (visitsAll index attributes).map (Visit.derive parent) := by
  induction attributes using forest_induction generalizing parent index with
  | nil => rfl
  | cons field children rest ihChildren ihRest =>
      have hbelow : ∀ visit : Visit, (visit.below index ⟨field, children⟩).derive parent =
          (visit.derive (typeBelow parent [⟨field, children⟩])).below index
            (Attribute.derive parent ⟨field, children⟩) := fun visit => rfl
      rw [deriveAll, visitsAll_cons, visitsAll_cons, List.map_cons, List.map_append, ihRest,
        List.map_map, derive_eq, ihChildren, List.map_map]
      simp only [Function.comp_def, hbelow, derive_eq]
      rfl

/-- Exactly the attributes of a tree are, with their names, those of the named tree. -/
theorem in_derive_iff {parent : String} {attributes : List Attribute} {visit : Visit} :
    visit.In (deriveAll parent attributes) ↔
      ∃ raw : Visit, raw.In attributes ∧ raw.derive parent = visit := by
  simp only [← mem_visits, visitsAll_derive, List.mem_map]

end Stencil.Schema
