import Stencil.Number.Width
import Stencil.Schema.Basic
import Stencil.Schema.Key

/-!
# Reading records

How attributes and schemas are read from data of any form. A `Source` says how each primitive value
is read; the records themselves are read in the same way from every form: entries in order, each
known key once, unknown keys passed over, and the required keys checked at the end. The first
problem wins.
-/

namespace Stencil.Schema

/-- Why data cannot be read as a record. -/
inductive DecodeFault where
  /-- The text is malformed. -/
  | malformed
  | missingField (name : String)
  | duplicateField (name : String)
  | unknownField (name : String)
  | unknownVariant (name : String)
  /-- A value is of the wrong type or out of range. -/
  | invalidValue
deriving DecidableEq, Repr

/-- The rule that the data breaks, if it is not malformed as a whole. -/
def DecodeFault.detail : DecodeFault → Option String
  | .malformed => none
  | .missingField name => some s!"missing field `{name}`"
  | .duplicateField name => some s!"duplicate field `{name}`"
  | .unknownField name => some s!"unknown field `{name}`"
  | .unknownVariant name => some s!"unknown variant `{name}`"
  | .invalidValue => some "invalid value"

/-- What reading yields. -/
abbrev Decoded := Except DecodeFault

/-- The range of integer properties. -/
def inIntRange (value : Int) : Bool := Number.fitsSigned 64 value

/-- How values of a form of data are read as primitive values. -/
structure Source (σ : Type) where
  text : σ → Decoded String
  flag : σ → Decoded Bool
  integer : σ → Decoded Int
  number : σ → Decoded Float
  texts : σ → Decoded (List String)
  type : σ → Decoded AttributeType
  /-- The value stands for the absence of an optional property. -/
  isAbsent : σ → Decoded Bool

/-- An optional property. -/
def Source.optional (source : Source σ) (read : σ → Decoded α) (raw : σ) :
    Decoded (Option α) := do
  if ← source.isAbsent raw then pure none else some <$> read raw

/-- A key that has not occurred before, added to those that have. -/
def reserve [DecidableEq κ] (label : κ → String) (key : κ) (seen : List κ) : Decoded (List κ) :=
  if key ∈ seen then throw (.duplicateField (label key)) else pure (key :: seen)

/-- The first of the required keys that has not occurred is missing. -/
def requireAll [DecidableEq κ] (label : κ → String) (required seen : List κ) : Decoded Unit :=
  match required.find? (· ∉ seen) with
  | some key => throw (.missingField (label key))
  | none => pure ()

/-- A field with one of its properties read. The children are read elsewhere. -/
def Field.read (source : Source σ) (key : AttributeKey) (raw : σ) (field : Field) :
    Decoded Field :=
  match key with
  | .modelName => return { field with modelName := ← source.text raw }
  | .tfName => return { field with tfName := ← source.text raw }
  | .type => return { field with type := ← source.type raw }
  | .elementType => return { field with elementType := ← source.optional source.type raw }
  | .dataPath => return { field with dataPath := ← source.texts raw }
  | .isId => return { field with isId := ← source.flag raw }
  | .isResourceId => return { field with isResourceId := ← source.flag raw }
  | .isReference => return { field with isReference := ← source.flag raw }
  | .mandatory => return { field with mandatory := ← source.flag raw }
  | .requiresReplace => return { field with requiresReplace := ← source.flag raw }
  | .writeOnly => return { field with writeOnly := ← source.flag raw }
  | .writeChangesOnly => return { field with writeChangesOnly := ← source.flag raw }
  | .excludeTest => return { field with excludeTest := ← source.flag raw }
  | .excludeExample => return { field with excludeExample := ← source.flag raw }
  | .orderedList => return { field with orderedList := ← source.flag raw }
  | .description => return { field with description := ← source.optional source.text raw }
  | .enumValues => return { field with enumValues := ← source.texts raw }
  | .minList => return { field with minList := ← source.optional source.integer raw }
  | .maxList => return { field with maxList := ← source.optional source.integer raw }
  | .minInt => return { field with minInt := ← source.optional source.integer raw }
  | .maxInt => return { field with maxInt := ← source.optional source.integer raw }
  | .minFloat => return { field with minFloat := ← source.optional source.number raw }
  | .maxFloat => return { field with maxFloat := ← source.optional source.number raw }
  | .stringPatterns => return { field with stringPatterns := ← source.texts raw }
  | .stringMinLength =>
    return { field with stringMinLength := ← source.optional source.integer raw }
  | .stringMaxLength =>
    return { field with stringMaxLength := ← source.optional source.integer raw }
  | .defaultValue => return { field with defaultValue := ← source.optional source.text raw }
  | .exampleValue => return { field with exampleValue := ← source.optional source.text raw }
  | .testValue => return { field with testValue := ← source.optional source.text raw }
  | .value => return { field with value := ← source.optional source.text raw }
  | .attributes => return field
  | .typeName => return { field with typeName := ← source.text raw }

/-- A header with one of its properties read. The attributes are read elsewhere. -/
def Header.read (source : Source σ) (key : SchemaKey) (raw : σ) (header : Header) :
    Decoded Header :=
  match key with
  | .name => return { header with name := ← source.text raw }
  | .tfName => return { header with tfName := ← source.text raw }
  | .typeName => return { header with typeName := ← source.text raw }
  | .restEndpoint => return { header with restEndpoint := ← source.text raw }
  | .putCreate => return { header with putCreate := ← source.flag raw }
  | .noUpdate => return { header with noUpdate := ← source.flag raw }
  | .noDelete => return { header with noDelete := ← source.flag raw }
  | .idFromQueryPath =>
    return { header with idFromQueryPath := ← source.optional source.text raw }
  | .dataSourceNameQuery => return { header with dataSourceNameQuery := ← source.flag raw }
  | .noDataSource => return { header with noDataSource := ← source.flag raw }
  | .noResource => return { header with noResource := ← source.flag raw }
  | .minimumVersion => return { header with minimumVersion := ← source.optional source.text raw }
  | .dsDescription => return { header with dsDescription := ← source.text raw }
  | .resDescription => return { header with resDescription := ← source.text raw }
  | .docCategory => return { header with docCategory := ← source.optional source.text raw }
  | .testTags => return { header with testTags := ← source.texts raw }
  | .testPrerequisites =>
    return { header with testPrerequisites := ← source.optional source.text raw }
  | .attributes => return header

/-- An attribute of which some properties have been read. -/
structure PartialAttribute where
  field : Field
  children : List Attribute
  seen : List AttributeKey

/-- An attribute of which nothing has been read. -/
def PartialAttribute.blank : PartialAttribute := ⟨.blank, [], []⟩

/-- A key has occurred. -/
def PartialAttribute.reserve (partly : PartialAttribute) (key : AttributeKey) :
    Decoded PartialAttribute :=
  return { partly with seen := ← Schema.reserve AttributeKey.name key partly.seen }

/-- A property other than the children has been read. -/
def PartialAttribute.read (source : Source σ) (partly : PartialAttribute) (key : AttributeKey)
    (raw : σ) : Decoded PartialAttribute :=
  return { partly with field := ← partly.field.read source key raw }

/-- The attribute, once all its properties have been read. -/
def PartialAttribute.finish (partly : PartialAttribute) : Decoded Attribute := do
  requireAll AttributeKey.name AttributeKey.required partly.seen
  pure ⟨partly.field, partly.children⟩

end Stencil.Schema
