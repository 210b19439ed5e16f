/-!
# Keys of schema documents

The names under which a document holds the properties of attributes and of schemas. Each list has
the keys in the order in which missing ones are reported.
-/

namespace Stencil.Schema

/-- The properties of an attribute. -/
inductive AttributeKey where
  | modelName
  | tfName
  | type
  | elementType
  | dataPath
  | isId
  | isResourceId
  | isReference
  | mandatory
  | requiresReplace
  | writeOnly
  | writeChangesOnly
  | excludeTest
  | excludeExample
  | orderedList
  | description
  | enumValues
  | minList
  | maxList
  | minInt
  | maxInt
  | minFloat
  | maxFloat
  | stringPatterns
  | stringMinLength
  | stringMaxLength
  | defaultValue
  | exampleValue
  | testValue
  | value
  | attributes
  | typeName
deriving DecidableEq, Repr

namespace AttributeKey

/-- The name of a property in documents. -/
def name : AttributeKey → String
  | .modelName => "model_name"
  | .tfName => "tf_name"
  | .type => "type"
  | .elementType => "element_type"
  | .dataPath => "data_path"
  | .isId => "id"
  | .isResourceId => "resource_id"
  | .isReference => "reference"
  | .mandatory => "mandatory"
  | .requiresReplace => "requires_replace"
  | .writeOnly => "write_only"
  | .writeChangesOnly => "write_changes_only"
  | .excludeTest => "exclude_test"
  | .excludeExample => "exclude_example"
  | .orderedList => "ordered_list"
  | .description => "description"
  | .enumValues => "enum_values"
  | .minList => "min_list"
  | .maxList => "max_list"
  | .minInt => "min_int"
  | .maxInt => "max_int"
  | .minFloat => "min_float"
  | .maxFloat => "max_float"
  | .stringPatterns => "string_patterns"
  | .stringMinLength => "string_min_length"
  | .stringMaxLength => "string_max_length"
  | .defaultValue => "default_value"
  | .exampleValue => "example"
  | .testValue => "test_value"
  | .value => "value"
  | .attributes => "attributes"
  | .typeName => "type_name"

/-- All properties of an attribute. -/
def all : List AttributeKey :=
  [.modelName, .tfName, .type, .elementType, .dataPath, .isId, .isResourceId, .isReference,
    .mandatory, .requiresReplace, .writeOnly, .writeChangesOnly, .excludeTest, .excludeExample,
    .orderedList, .description, .enumValues, .minList, .maxList, .minInt, .maxInt, .minFloat,
    .maxFloat, .stringPatterns, .stringMinLength, .stringMaxLength, .defaultValue, .exampleValue,
    .testValue, .value, .attributes, .typeName]

/-- The properties that every attribute declares. -/
def required : List AttributeKey := [.modelName, .type]

/-- The property with that name. -/
def ofName? (name : String) : Option AttributeKey :=
  all.find? (·.name = name)

/-- A property is found by its name. -/
theorem ofName?_name (key : AttributeKey) : ofName? key.name = some key := by
  cases key <;> decide

end AttributeKey

/-- The properties of a schema. -/
inductive SchemaKey where
  | name
  | tfName
  | typeName
  | restEndpoint
  | putCreate
  | noUpdate
  | noDelete
  | idFromQueryPath
  | dataSourceNameQuery
  | noDataSource
  | noResource
  | minimumVersion
  | dsDescription
  | resDescription
  | docCategory
  | testTags
  | testPrerequisites
  | attributes
deriving DecidableEq, Repr

namespace SchemaKey

/-- The name of a property in documents. -/
def label : SchemaKey → String
  | .name => "name"
  | .tfName => "tf_name"
  | .typeName => "type_name"
  | .restEndpoint => "rest_endpoint"
  | .putCreate => "put_create"
  | .noUpdate => "no_update"
  | .noDelete => "no_delete"
  | .idFromQueryPath => "id_from_query_path"
  | .dataSourceNameQuery => "data_source_name_query"
  | .noDataSource => "no_data_source"
  | .noResource => "no_resource"
  | .minimumVersion => "minimum_version"
  | .dsDescription => "ds_description"
  | .resDescription => "res_description"
  | .docCategory => "doc_category"
  | .testTags => "test_tags"
  | .testPrerequisites => "test_prerequisites"
  | .attributes => "attributes"

/-- All properties of a schema. -/
def all : List SchemaKey :=
  [.name, .tfName, .typeName, .restEndpoint, .putCreate, .noUpdate, .noDelete, .idFromQueryPath,
    .dataSourceNameQuery, .noDataSource, .noResource, .minimumVersion, .dsDescription,
    .resDescription, .docCategory, .testTags, .testPrerequisites, .attributes]

/-- The properties that every schema declares. -/
def required : List SchemaKey := [.name, .restEndpoint]

/-- The property with that label. -/
def ofLabel? (label : String) : Option SchemaKey :=
  all.find? (·.label = label)

end SchemaKey

end Stencil.Schema
