import Stencil.Name
import Stencil.Schema.Basic

/-!
# Derived names

Names and descriptions that a document may leave out. Declared external names are kept and missing
ones derived from the wire names; type names are always derived, each from the type name of the
parent and the attribute's own external name.
-/

namespace Stencil.Schema

/-- The external name of a field: the declared one, or one derived from the wire name. -/
def Field.externalName (field : Field) : String :=
  if field.tfName = "" then Name.externalName field.modelName else field.tfName

/-- A field with its names, below a parent with the type name `parent`. -/
def Field.derive (parent : String) (field : Field) : Field :=
  let tfName := field.externalName
  { field with tfName, typeName := parent ++ Name.pascalCase tfName }

mutual

/-- An attribute and its descendants with their names. -/
def Attribute.derive (parent : String) : Attribute → Attribute
  | ⟨field, children⟩ =>
    let named := field.derive parent
    ⟨named, Attribute.deriveAll named.typeName children⟩

/-- Siblings and their descendants with their names. -/
def Attribute.deriveAll (parent : String) : List Attribute → List Attribute
  | [] => []
  | attr :: rest => attr.derive parent :: Attribute.deriveAll parent rest

end

/-- A header with its names and descriptions. -/
def Header.derive (header : Header) : Header :=
  { header with
    tfName := if header.tfName = "" then Name.snakeName header.name else header.tfName
    typeName := Name.pascalName header.name
    dsDescription :=
      if header.dsDescription = "" then s!"This data source can read the {header.name}."
      else header.dsDescription
    resDescription :=
      if header.resDescription = "" then
        s!"This resource can manage {Name.article header.name} {header.name}."
      else header.resDescription }

/-- A schema with all its names and descriptions. -/
def derive (schema : Schema) : Schema :=
  let header := schema.header.derive
  ⟨header, Attribute.deriveAll header.typeName schema.attributes⟩

end Stencil.Schema
