/-!
# Built-in functions

The functions that every template can call: the registered ones, which know schemas, and the ranges
of numbers.
-/

namespace Stencil.Template

/-- The built-in functions. -/
inductive Builtin where
  | pascalCase
  | pascalName
  | snakeName
  | path
  | subtract
  | fail
  | isListSet
  | isStringListSet
  | isInt64ListSet
  | isNested
  | isNestedList
  | isNestedSet
  | isNestedMap
  | hasId
  | hasReference
  | hasResourceId
  | importParts
  | nestedTypes
  | range
deriving DecidableEq, Repr

namespace Builtin

/-- The name under which templates call a function. -/
def name : Builtin → String
  | .pascalCase => "pascal_case"
  | .pascalName => "pascal_name"
  | .snakeName => "snake_name"
  | .path => "path"
  | .subtract => "subtract"
  | .fail => "fail"
  | .isListSet => "is_list_set"
  | .isStringListSet => "is_string_list_set"
  | .isInt64ListSet => "is_int64_list_set"
  | .isNested => "is_nested"
  | .isNestedList => "is_nested_list"
  | .isNestedSet => "is_nested_set"
  | .isNestedMap => "is_nested_map"
  | .hasId => "has_id"
  | .hasReference => "has_reference"
  | .hasResourceId => "has_resource_id"
  | .importParts => "import_parts"
  | .nestedTypes => "nested_types"
  | .range => "range"

/-- The registered functions, in order. -/
def registered : List Builtin :=
  [.pascalCase, .pascalName, .snakeName, .path, .subtract, .fail, .isListSet, .isStringListSet,
    .isInt64ListSet, .isNested, .isNestedList, .isNestedSet, .isNestedMap, .hasId, .hasReference,
    .hasResourceId, .importParts, .nestedTypes]

/-- The function with that name. -/
def ofName? (name : String) : Option Builtin :=
  (.range :: registered : List Builtin).find? (·.name = name)

end Builtin

end Stencil.Template
