import Stencil.Number.Width
import Stencil.Schema.Reading
import Stencil.Template.Order

/-!
# Schemas as template values

Attributes and schemas as the maps that templates see, and attributes read back from such maps. The
maps have the keys of the documents, in the order of their names. Reading accepts any map with the
required keys, and a list that holds the properties by position, as a template may build either.
-/

namespace Stencil.Schema

open Template (Value)

/-- An optional property as a value. -/
def optionalValue (make : α → Value) : Option α → Value
  | some value => make value
  | none => .none

/-- Texts as a list. -/
def textsValue (texts : List String) : Value :=
  .list (texts.map .text)

/-- The fields of the map for an attribute, given its children as a value. -/
def Field.toFields (field : Field) (children : Value) : List (String × Value) :=
  [("attributes", children),
    ("data_path", textsValue field.dataPath),
    ("default_value", optionalValue .text field.defaultValue),
    ("description", optionalValue .text field.description),
    ("element_type", optionalValue (.text ·.tag) field.elementType),
    ("enum_values", textsValue field.enumValues),
    ("example", optionalValue .text field.exampleValue),
    ("exclude_example", .bool field.excludeExample),
    ("exclude_test", .bool field.excludeTest),
    ("id", .bool field.isId),
    ("mandatory", .bool field.mandatory),
    ("max_float", optionalValue .float field.maxFloat),
    ("max_int", optionalValue .int field.maxInt),
    ("max_list", optionalValue .int field.maxList),
    ("min_float", optionalValue .float field.minFloat),
    ("min_int", optionalValue .int field.minInt),
    ("min_list", optionalValue .int field.minList),
    ("model_name", .text field.modelName),
    ("ordered_list", .bool field.orderedList),
    ("reference", .bool field.isReference),
    ("requires_replace", .bool field.requiresReplace),
    ("resource_id", .bool field.isResourceId),
    ("string_max_length", optionalValue .int field.stringMaxLength),
    ("string_min_length", optionalValue .int field.stringMinLength),
    ("string_patterns", textsValue field.stringPatterns),
    ("test_value", optionalValue .text field.testValue),
    ("tf_name", .text field.tfName),
    ("type", .text field.type.tag),
    ("type_name", .text field.typeName),
    ("value", optionalValue .text field.value),
    ("write_changes_only", .bool field.writeChangesOnly),
    ("write_only", .bool field.writeOnly)]

mutual

/-- An attribute as the map that templates see. -/
def Attribute.toValue : Attribute → Value
  | ⟨field, children⟩ => .ofFields (field.toFields (.list (Attribute.toValues children)))

/-- Attributes as values. -/
def Attribute.toValues : List Attribute → List Value
  | [] => []
  | attr :: rest => attr.toValue :: Attribute.toValues rest

end

/-- The variables that a template sees of a schema. -/
def toFields (schema : Schema) : List (String × Value) :=
  let header := schema.header
  [("attributes", .list (Attribute.toValues schema.attributes)),
    ("data_source_name_query", .bool header.dataSourceNameQuery),
    ("doc_category", optionalValue .text header.docCategory),
    ("ds_description", .text header.dsDescription),
    ("id_from_query_path", optionalValue .text header.idFromQueryPath),
    ("minimum_version", optionalValue .text header.minimumVersion),
    ("name", .text header.name),
    ("no_data_source", .bool header.noDataSource),
    ("no_delete", .bool header.noDelete),
    ("no_resource", .bool header.noResource),
    ("no_update", .bool header.noUpdate),
    ("put_create", .bool header.putCreate),
    ("res_description", .text header.resDescription),
    ("rest_endpoint", .text header.restEndpoint),
    ("test_prerequisites", optionalValue .text header.testPrerequisites),
    ("test_tags", textsValue header.testTags),
    ("tf_name", .text header.tfName),
    ("type_name", .text header.typeName)]

/-- A type given by its name, or by a map from its name to nothing. -/
def typeOfValue : Value → Decoded AttributeType
  | .text tag => namedType tag
  | .map [(.text tag, content)] => do
    let type ← namedType tag
    match content with
    | .none | .undefined _ => pure type
    | _ => throw .invalidValue
  | _ => throw .invalidValue
where
  /-- The type with that name. -/
  namedType (tag : String) : Decoded AttributeType :=
    match AttributeType.ofTag? tag with
    | some type => pure type
    | none => throw (.unknownVariant tag)

/-- A text among values. -/
def textOfValue : Value → Decoded String
  | .text text => pure text
  | _ => throw .invalidValue

/-- How properties are read from values. -/
def valueSource : Source Value where
  text := textOfValue
  flag
    | .bool flag => pure flag
    | _ => throw .invalidValue
  integer
    | .int value => if inIntRange value then pure value else throw .invalidValue
    | _ => throw .invalidValue
  number
    | .float value => pure value
    | .int value =>
      if Number.fitsSigned 64 value || Number.fitsUnsigned 64 value then pure (Float.ofInt value)
      else throw .invalidValue
    | _ => throw .invalidValue
  texts
    | .list items => items.mapM textOfValue
    | _ => throw .invalidValue
  type := typeOfValue
  isAbsent
    | .none | .undefined _ => pure true
    | _ => pure false

mutual

/-- An attribute read from a map, or from a list of its properties. -/
def Attribute.ofValue? : Value → Decoded Attribute
  | .map entries => do (← Attribute.ofEntries? entries .blank).finish
  | .list items => do
    let partly ← Attribute.ofPositions? AttributeKey.all items .blank
    if AttributeKey.required.all (partly.seen.contains ·) then partly.finish
    else throw .invalidValue
  | _ => throw .invalidValue

/-- Attributes read from a list. -/
def Attribute.listOfValue? : Value → Decoded (List Attribute)
  | .list items => Attribute.ofItems? items
  | _ => throw .invalidValue

/-- Attributes read from values in order. -/
def Attribute.ofItems? : List Value → Decoded (List Attribute)
  | [] => pure []
  | item :: rest => do
    let attr ← Attribute.ofValue? item
    let others ← Attribute.ofItems? rest
    pure (attr :: others)

/-- The properties in the entries of a map, read in order. -/
def Attribute.ofEntries? : List (Value × Value) → PartialAttribute → Decoded PartialAttribute
  | [], partly => pure partly
  | (key, value) :: rest, partly => do
    match ← textOfValue key >>= (pure ∘ AttributeKey.ofName?) with
    | none => Attribute.ofEntries? rest partly
    | some .attributes =>
      let partly ← partly.reserve .attributes
      let children ← Attribute.listOfValue? value
      Attribute.ofEntries? rest { partly with children }
    | some key =>
      let partly ← partly.reserve key
      Attribute.ofEntries? rest (← partly.read valueSource key value)

/-- The properties in a list, each read under the key at its position. -/
def Attribute.ofPositions? :
    List AttributeKey → List Value → PartialAttribute → Decoded PartialAttribute
  | [], _, partly => pure partly
  | _, [], partly => pure partly
  | .attributes :: keys, value :: rest, partly => do
    let partly ← partly.reserve .attributes
    let children ← Attribute.listOfValue? value
    Attribute.ofPositions? keys rest { partly with children }
  | key :: keys, value :: rest, partly => do
    let partly ← partly.reserve key
    Attribute.ofPositions? keys rest (← partly.read valueSource key value)

end

end Stencil.Schema
