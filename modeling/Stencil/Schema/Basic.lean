/-!
# Schemas

A schema describes one object of an interface: where it lives, what is generated for it, and the
tree of its attributes. An attribute is a field, the flat record of its properties, together with
its child attributes.
-/

namespace Stencil.Schema

/-- The types of attributes. `version` and `versions` are texts with a structure of their own: a
dotted version and a list of them joined by commas. -/
inductive AttributeType where
  | string
  | int64
  | float64
  | bool
  | list
  | set
  | map
  | version
  | versions
deriving DecidableEq, Repr

namespace AttributeType

/-- The name of a type in documents. -/
def tag : AttributeType → String
  | .string => "String"
  | .int64 => "Int64"
  | .float64 => "Float64"
  | .bool => "Bool"
  | .list => "List"
  | .set => "Set"
  | .map => "Map"
  | .version => "Version"
  | .versions => "Versions"

/-- All types. -/
def all : List AttributeType :=
  [.string, .int64, .float64, .bool, .list, .set, .map, .version, .versions]

/-- The type with that name. -/
def ofTag? (tag : String) : Option AttributeType :=
  all.find? (·.tag = tag)

/-- The type holds many values. -/
def isCollection : AttributeType → Bool
  | .list | .set | .map => true
  | _ => false

/-- The type is a list or a set. -/
def isListOrSet : AttributeType → Bool
  | .list | .set => true
  | _ => false

/-- A type is found by its name. -/
@[simp]
theorem ofTag?_tag (type : AttributeType) : ofTag? type.tag = some type := by
  cases type <;> decide

end AttributeType

/-- The properties of one attribute, its children apart. -/
structure Field where
  /-- The declared name in the object's wire form. -/
  modelName : String
  /-- The name that users of the generated code see. -/
  tfName : String
  type : AttributeType
  /-- The type of the elements of a flat collection. -/
  elementType : Option AttributeType
  /-- The path of the object that holds the field. -/
  dataPath : List String
  /-- The field tells the objects of a collection apart. -/
  isId : Bool
  /-- The field is part of the path of the parent object. -/
  isResourceId : Bool
  /-- The field only serves to look an object up. -/
  isReference : Bool
  mandatory : Bool
  requiresReplace : Bool
  writeOnly : Bool
  writeChangesOnly : Bool
  excludeTest : Bool
  excludeExample : Bool
  /-- The place in the list is the identity of an element. -/
  orderedList : Bool
  description : Option String
  enumValues : List String
  minList : Option Int
  maxList : Option Int
  minInt : Option Int
  maxInt : Option Int
  minFloat : Option Float
  maxFloat : Option Float
  stringPatterns : List String
  stringMinLength : Option Int
  stringMaxLength : Option Int
  defaultValue : Option String
  exampleValue : Option String
  testValue : Option String
  /-- A fixed value; the attribute is computed and never set by users. -/
  value : Option String
  /-- The name of the generated type: the Pascal-cased names of the ancestors and its own. -/
  typeName : String

/-- A field with no property set. -/
def Field.blank : Field :=
  { modelName := "", tfName := "", type := .string, elementType := none, dataPath := [],
    isId := false, isResourceId := false, isReference := false, mandatory := false,
    requiresReplace := false, writeOnly := false, writeChangesOnly := false, excludeTest := false,
    excludeExample := false, orderedList := false, description := none, enumValues := [],
    minList := none, maxList := none, minInt := none, maxInt := none, minFloat := none,
    maxFloat := none, stringPatterns := [], stringMinLength := none, stringMaxLength := none,
    defaultValue := none, exampleValue := none, testValue := none, value := none, typeName := "" }

/-- An attribute: a field and its child attributes. -/
structure Attribute where
  field : Field
  children : List Attribute

/-- The attribute has children. -/
def Attribute.isComposite (attr : Attribute) : Bool :=
  !attr.children.isEmpty

/-- The properties of a schema, its attributes apart. -/
structure Header where
  name : String
  /-- The short name in file names. -/
  tfName : String
  /-- The Pascal-cased name, with which the type names of all attributes start. -/
  typeName : String
  restEndpoint : String
  /-- Objects are created by an update request. -/
  putCreate : Bool
  noUpdate : Bool
  noDelete : Bool
  /-- Where the id of a created object is found. -/
  idFromQueryPath : Option String
  /-- Objects are looked up by name. -/
  dataSourceNameQuery : Bool
  noDataSource : Bool
  noResource : Bool
  minimumVersion : Option String
  dsDescription : String
  resDescription : String
  docCategory : Option String
  testTags : List String
  /-- Configuration that generated tests apply first. -/
  testPrerequisites : Option String

/-- A header with no property set. -/
def Header.blank : Header :=
  { name := "", tfName := "", typeName := "", restEndpoint := "", putCreate := false,
    noUpdate := false, noDelete := false, idFromQueryPath := none, dataSourceNameQuery := false,
    noDataSource := false, noResource := false, minimumVersion := none, dsDescription := "",
    resDescription := "", docCategory := none, testTags := [], testPrerequisites := none }

end Schema

/-- A schema: one unit of generation. -/
structure Schema where
  header : Schema.Header
  attributes : List Schema.Attribute

end Stencil
