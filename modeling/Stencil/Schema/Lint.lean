import Stencil.Schema.Path

/-!
# Lint

What is valid in a schema but is probably a mistake: siblings with one name, minima above maxima,
enumerations on attributes that are no texts, and mandatory attributes that no test can set. Issues
come in the order of the attributes, parents first.
-/

namespace Stencil.Schema

/-- How bad an issue is. -/
inductive Severity where
  | error
  | warning
  | info
deriving DecidableEq, Repr

/-- A severity in words. -/
def Severity.label : Severity → String
  | .error => "error"
  | .warning => "warning"
  | .info => "info"

/-- The pairs of bounds that an attribute may have. -/
inductive Bounds where
  | list
  | int
  | float
  | length
deriving DecidableEq, Repr

/-- The name of a pair of bounds in documents. -/
def Bounds.label : Bounds → String
  | .list => "list"
  | .int => "int"
  | .float => "float"
  | .length => "length"

/-- What an issue is about. -/
inductive Finding where
  /-- An earlier sibling has the same external name. -/
  | duplicateName (name : String)
  | invertedBounds (bounds : Bounds)
  | enumOnNonString (type : AttributeType)
  | untestedMandatory
deriving DecidableEq, Repr

namespace Finding

/-- How bad it is. -/
def severity : Finding → Severity
  | .duplicateName _ => .error
  | .invertedBounds _ => .error
  | .enumOnNonString _ => .warning
  | .untestedMandatory => .info

/-- Its kind, in one word. -/
def kind : Finding → String
  | .duplicateName _ => "duplicate_name"
  | .invertedBounds _ => "inverted_bounds"
  | .enumOnNonString _ => "enum_on_non_string"
  | .untestedMandatory => "untested_mandatory"

/-- What it says. -/
def message : Finding → String
  | .duplicateName name => s!"'{name}' is declared more than once at this level"
  | .invertedBounds bounds => s!"min_{bounds.label} is greater than max_{bounds.label}"
  | .enumOnNonString type =>
    s!"enum_values are only enforced on String attributes, not {type.tag}"
  | .untestedMandatory =>
    "mandatory attribute is excluded from tests and has no example or test_value"

/-- What would mend it. -/
def suggestion : Finding → Option String
  | .duplicateName _ => some "Set tf_name explicitly on one of the attributes"
  | .untestedMandatory => some "Provide a test_value so generated tests can set it"
  | _ => none

end Finding

/-- A finding at an attribute. -/
structure Issue where
  /-- The schema's name and the attribute's path, with a colon between them. -/
  location : String
  finding : Finding
deriving DecidableEq, Repr

/-- Both bounds are there and the lower one is greater. -/
def inverted [LT α] [DecidableLT α] : Option α → Option α → Bool
  | some low, some high => decide (low > high)
  | _, _ => false

/-- The bounds of a field are inverted. -/
def Bounds.areInverted (field : Field) : Bounds → Bool
  | .list => inverted field.minList field.maxList
  | .int => inverted field.minInt field.maxInt
  | .float => inverted field.minFloat field.maxFloat
  | .length => inverted field.stringMinLength field.stringMaxLength

/-- What is found at a field, given the names of its earlier siblings. -/
def Field.findings (earlier : List String) (field : Field) : List Finding :=
  (if earlier.contains field.tfName then [.duplicateName field.tfName] else []) ++
  ([Bounds.list, .int, .float, .length].filter (·.areInverted field)).map .invertedBounds ++
  (if !field.enumValues.isEmpty && field.type != .string then [.enumOnNonString field.type]
    else []) ++
  (if field.mandatory && field.excludeTest && field.exampleValue.isNone && field.testValue.isNone
    then [.untestedMandatory] else [])

mutual

/-- The issues of an attribute and its descendants. -/
def Attribute.lint (schemaName parent : String) (earlier : List String) : Attribute → List Issue
  | ⟨field, children⟩ =>
    let path := childPath parent field.tfName
    (field.findings earlier).map (fun finding => ⟨s!"{schemaName}:{path}", finding⟩) ++
      Attribute.lintAll schemaName path [] children

/-- The issues of siblings and their descendants. -/
def Attribute.lintAll (schemaName parent : String) (earlier : List String) :
    List Attribute → List Issue
  | [] => []
  | attr :: rest =>
    attr.lint schemaName parent earlier ++
      Attribute.lintAll schemaName parent (attr.field.tfName :: earlier) rest

end

/-- The issues of a schema. -/
def lint (schema : Schema) : List Issue :=
  Attribute.lintAll schema.header.name "" [] schema.attributes

/-- Some issue is an error. -/
def hasErrors (issues : List Issue) : Bool :=
  issues.any (·.finding.severity == .error)

end Stencil.Schema
