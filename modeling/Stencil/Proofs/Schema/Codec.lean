import Mathlib.Data.List.Nodup
import Stencil.Proofs.Outcome
import Stencil.Proofs.Schema.Position
import Stencil.Schema.Codec
import Stencil.Template.Operator

/-!
# Attributes as template values and back

An attribute becomes a map with a value under every key (`Attribute.toValue_eq`), and reading that
map gives the attribute back (`Attribute.ofValue_toValue`). The map is read key by key: each step
takes one property over from the attribute (`PartialAttribute.take`), and the keys are all of them.
Integers are kept if they have 64 bits, which is what a document can hold.
-/

namespace Stencil.Schema

open Template (Value)
open Attribute (visitsAll toValues)

/-- The keys of attributes in the order of their names. -/
def AttributeKey.byName : List AttributeKey :=
  [.attributes, .dataPath, .defaultValue, .description, .elementType, .enumValues, .exampleValue,
    .excludeExample, .excludeTest, .isId, .mandatory, .maxFloat, .maxInt, .maxList, .minFloat,
    .minInt, .minList, .modelName, .orderedList, .isReference, .requiresReplace, .isResourceId,
    .stringMaxLength, .stringMinLength, .stringPatterns, .testValue, .tfName, .type, .typeName,
    .value, .writeChangesOnly, .writeOnly]

/-- What templates see under a key of an attribute. -/
def Attribute.property (attr : Attribute) : AttributeKey → Value
  | .modelName => .text attr.field.modelName
  | .tfName => .text attr.field.tfName
  | .type => .text attr.field.type.tag
  | .elementType => optionalValue (.text ·.tag) attr.field.elementType
  | .dataPath => textsValue attr.field.dataPath
  | .isId => .bool attr.field.isId
  | .isResourceId => .bool attr.field.isResourceId
  | .isReference => .bool attr.field.isReference
  | .mandatory => .bool attr.field.mandatory
  | .requiresReplace => .bool attr.field.requiresReplace
  | .writeOnly => .bool attr.field.writeOnly
  | .writeChangesOnly => .bool attr.field.writeChangesOnly
  | .excludeTest => .bool attr.field.excludeTest
  | .excludeExample => .bool attr.field.excludeExample
  | .orderedList => .bool attr.field.orderedList
  | .description => optionalValue .text attr.field.description
  | .enumValues => textsValue attr.field.enumValues
  | .minList => optionalValue .int attr.field.minList
  | .maxList => optionalValue .int attr.field.maxList
  | .minInt => optionalValue .int attr.field.minInt
  | .maxInt => optionalValue .int attr.field.maxInt
  | .minFloat => optionalValue .float attr.field.minFloat
  | .maxFloat => optionalValue .float attr.field.maxFloat
  | .stringPatterns => textsValue attr.field.stringPatterns
  | .stringMinLength => optionalValue .int attr.field.stringMinLength
  | .stringMaxLength => optionalValue .int attr.field.stringMaxLength
  | .defaultValue => optionalValue .text attr.field.defaultValue
  | .exampleValue => optionalValue .text attr.field.exampleValue
  | .testValue => optionalValue .text attr.field.testValue
  | .value => optionalValue .text attr.field.value
  | .attributes => .list (toValues attr.children)
  | .typeName => .text attr.field.typeName

/-- A field with the property under a key taken from another. -/
def Field.take (field : Field) (key : AttributeKey) (source : Field) : Field :=
  match key with
  | .modelName => { field with modelName := source.modelName }
  | .tfName => { field with tfName := source.tfName }
  | .type => { field with type := source.type }
  | .elementType => { field with elementType := source.elementType }
  | .dataPath => { field with dataPath := source.dataPath }
  | .isId => { field with isId := source.isId }
  | .isResourceId => { field with isResourceId := source.isResourceId }
  | .isReference => { field with isReference := source.isReference }
  | .mandatory => { field with mandatory := source.mandatory }
  | .requiresReplace => { field with requiresReplace := source.requiresReplace }
  | .writeOnly => { field with writeOnly := source.writeOnly }
  | .writeChangesOnly => { field with writeChangesOnly := source.writeChangesOnly }
  | .excludeTest => { field with excludeTest := source.excludeTest }
  | .excludeExample => { field with excludeExample := source.excludeExample }
  | .orderedList => { field with orderedList := source.orderedList }
  | .description => { field with description := source.description }
  | .enumValues => { field with enumValues := source.enumValues }
  | .minList => { field with minList := source.minList }
  | .maxList => { field with maxList := source.maxList }
  | .minInt => { field with minInt := source.minInt }
  | .maxInt => { field with maxInt := source.maxInt }
  | .minFloat => { field with minFloat := source.minFloat }
  | .maxFloat => { field with maxFloat := source.maxFloat }
  | .stringPatterns => { field with stringPatterns := source.stringPatterns }
  | .stringMinLength => { field with stringMinLength := source.stringMinLength }
  | .stringMaxLength => { field with stringMaxLength := source.stringMaxLength }
  | .defaultValue => { field with defaultValue := source.defaultValue }
  | .exampleValue => { field with exampleValue := source.exampleValue }
  | .testValue => { field with testValue := source.testValue }
  | .value => { field with value := source.value }
  | .attributes => field
  | .typeName => { field with typeName := source.typeName }

/-- An attribute of which one more property has been read, the one that another has. -/
def PartialAttribute.take (partly : PartialAttribute) (key : AttributeKey) (source : Attribute) :
    PartialAttribute :=
  ⟨partly.field.take key source.field,
    if key = .attributes then source.children else partly.children, key :: partly.seen⟩

/-- The integers of a field have 64 bits. -/
def Field.InRange (field : Field) : Prop :=
  ∀ bound ∈ [field.minList, field.maxList, field.minInt, field.maxInt, field.stringMinLength,
    field.stringMaxLength], ∀ value, bound = some value → inIntRange value = true

/-- Templates see a map with all keys of an attribute. -/
theorem Attribute.toValue_eq (attr : Attribute) :
    attr.toValue =
      .map (AttributeKey.byName.map fun key => (.text key.name, attr.property key)) := by
  obtain ⟨field, children⟩ := attr
  rfl

/-- A key of an attribute is a member of its map. -/
theorem Attribute.member_toValue (attr : Attribute) (key : AttributeKey) :
    attr.toValue.member key.name = .ok (attr.property key) := by
  rw [toValue_eq]
  cases key <;> rfl

/-- Attributes become values one by one. -/
theorem Attribute.toValues_eq_map (attributes : List Attribute) :
    toValues attributes = attributes.map toValue := by
  induction attributes with
  | nil => rfl
  | cons attr rest ih => rw [toValues, ih, List.map_cons]

/-- An optional property is read back if its value is. -/
theorem optional_value {α : Type} {make : α → Value} {read : Value → Decoded α} {option : Option α}
    (h : ∀ value, option = some value →
      valueSource.isAbsent (make value) = .ok false ∧ read (make value) = .ok value) :
    valueSource.optional read (optionalValue make option) = .ok option := by
  cases option with
  | none => rfl
  | some value =>
      obtain ⟨hpresent, hread⟩ := h value rfl
      rw [Source.optional, optionalValue, hpresent]
      change some <$> read (make value) = _
      rw [hread]
      rfl

/-- An optional integer of 64 bits is read back. -/
theorem optional_integer {option : Option Int}
    (h : ∀ value, option = some value → inIntRange value = true) :
    valueSource.optional valueSource.integer (optionalValue .int option) = .ok option :=
  optional_value fun value hvalue => ⟨rfl, by simp [valueSource, h value hvalue]; rfl⟩

/-- Texts are read back. -/
theorem texts_value (texts : List String) : valueSource.texts (textsValue texts) = .ok texts := by
  change (texts.map Value.text).mapM textOfValue = .ok texts
  rw [mapM_ok_iff, List.forall₂_map_left_iff]
  exact List.forall₂_same.2 fun _ _ => rfl

/-- A type is read back. -/
theorem type_value (type : AttributeType) : valueSource.type (.text type.tag) = .ok type := by
  simp [valueSource, typeOfValue, typeOfValue.namedType, pure, Except.pure]

/-- Reading the property under a key takes it over. -/
theorem read_property {attr : Attribute} (h : attr.field.InRange) {key : AttributeKey}
    (hkey : key ≠ .attributes) (field : Field) :
    field.read valueSource key (attr.property key) = .ok (field.take key attr.field) := by
  have htext : ∀ option : Option String,
      valueSource.optional valueSource.text (optionalValue .text option) = .ok option :=
    fun _ => optional_value fun _ _ => ⟨rfl, rfl⟩
  have hnumber : ∀ option : Option Float,
      valueSource.optional valueSource.number (optionalValue .float option) = .ok option :=
    fun _ => optional_value fun _ _ => ⟨rfl, rfl⟩
  have htype : valueSource.optional valueSource.type
      (optionalValue (.text ·.tag) attr.field.elementType) = .ok attr.field.elementType :=
    optional_value fun type _ => ⟨rfl, type_value type⟩
  have hinteger : ∀ option ∈ [attr.field.minList, attr.field.maxList, attr.field.minInt,
      attr.field.maxInt, attr.field.stringMinLength, attr.field.stringMaxLength],
      valueSource.optional valueSource.integer (optionalValue .int option) = .ok option :=
    fun option hoption => optional_integer (h option hoption)
  simp only [List.forall_mem_cons] at hinteger
  cases key <;>
    simp_all only [Field.read, Attribute.property, texts_value, type_value] <;> rfl

/-- Reading one more key takes its property over. -/
theorem ofEntries_cons {attr : Attribute} (h : attr.field.InRange)
    (hchildren : Attribute.listOfValue? (.list (toValues attr.children)) = .ok attr.children)
    {key : AttributeKey} {partly : PartialAttribute} (hkey : key ∉ partly.seen)
    (rest : List (Value × Value)) :
    Attribute.ofEntries? ((.text key.name, attr.property key) :: rest) partly =
      Attribute.ofEntries? rest (partly.take key attr) := by
  have hname : (textOfValue (.text key.name) >>= (pure ∘ AttributeKey.ofName?) :
      Decoded (Option AttributeKey)) = .ok (some key) :=
    congrArg Except.ok (AttributeKey.ofName?_name key)
  have hreserve : partly.reserve key = .ok { partly with seen := key :: partly.seen } := by
    simp [PartialAttribute.reserve, Schema.reserve, hkey, pure, Except.pure, bind, Except.bind]
  rw [Attribute.ofEntries?, hname]
  by_cases hattributes : key = .attributes
  · subst hattributes
    have hproperty : attr.property .attributes = .list (toValues attr.children) := rfl
    simp only [bind, Except.bind, hreserve, hproperty, hchildren]
    rfl
  · have hread := read_property h hattributes partly.field
    simp only [bind, Except.bind, hreserve, PartialAttribute.read, hread, pure, Except.pure,
      PartialAttribute.take, if_neg hattributes]

/-- Reading keys takes their properties over. -/
theorem ofEntries_keys {attr : Attribute} (h : attr.field.InRange)
    (hchildren : Attribute.listOfValue? (.list (toValues attr.children)) = .ok attr.children)
    {keys : List AttributeKey} {partly : PartialAttribute} (hnodup : keys.Nodup)
    (hfresh : ∀ key ∈ keys, key ∉ partly.seen) :
    Attribute.ofEntries? (keys.map fun key => (.text key.name, attr.property key)) partly =
      .ok (keys.foldl (·.take · attr) partly) := by
  induction keys generalizing partly with
  | nil => rfl
  | cons key rest ih =>
      obtain ⟨hkey, hrest⟩ := List.nodup_cons.1 hnodup
      rw [List.map_cons, ofEntries_cons h hchildren (hfresh key List.mem_cons_self)]
      refine ih hrest fun other hother => ?_
      -- The key that was read last does not come again.
      rw [PartialAttribute.take, List.mem_cons, not_or]
      exact ⟨fun heq => hkey (heq ▸ hother), hfresh other (List.mem_cons_of_mem _ hother)⟩

/-- An attribute is made up of its properties. -/
theorem take_all (attr : Attribute) :
    AttributeKey.byName.foldl (·.take · attr) PartialAttribute.blank =
      ⟨attr.field, attr.children, AttributeKey.byName.reverse⟩ := by
  -- With its properties as variables the field is computed, property by property.
  obtain ⟨field, children⟩ := attr
  cases field
  cbv

/-- An attribute whose children are read back is read back. -/
theorem ofValue_of_children {attr : Attribute} (h : attr.field.InRange)
    (hchildren : Attribute.listOfValue? (.list (toValues attr.children)) = .ok attr.children) :
    Attribute.ofValue? attr.toValue = .ok attr := by
  have hnodup : AttributeKey.byName.Nodup := by decide
  have hfresh : ∀ key ∈ AttributeKey.byName, key ∉ PartialAttribute.blank.seen :=
    fun _ _ => List.not_mem_nil
  have hread := ofEntries_keys h hchildren hnodup hfresh
  have hrequired : requireAll AttributeKey.name AttributeKey.required
      AttributeKey.byName.reverse = .ok () := rfl
  rw [Attribute.toValue_eq, Attribute.ofValue?, hread, take_all]
  simp only [bind, Except.bind, PartialAttribute.finish, hrequired]
  cases attr
  rfl

/-- Attributes whose integers have 64 bits at every depth are read back. -/
theorem Attribute.listOfValue_toValues {attributes : List Attribute}
    (h : Everywhere (·.field.InRange) attributes) :
    listOfValue? (.list (toValues attributes)) = .ok attributes := by
  induction attributes using forest_induction with
  | nil => rfl
  | cons field children rest ihChildren ihRest =>
      obtain ⟨hfield, hchildren, hrest⟩ := everywhere_cons.1 h
      have hfirst : ofValue? (Attribute.toValue ⟨field, children⟩) = .ok ⟨field, children⟩ :=
        ofValue_of_children hfield (ihChildren hchildren)
      have hothers : ofItems? (toValues rest) = .ok rest := ihRest hrest
      rw [listOfValue?, toValues, ofItems?, hfirst]
      simp only [bind, Except.bind, hothers]
      rfl

/-- An attribute whose integers have 64 bits at every depth is read back. -/
theorem Attribute.ofValue_toValue {attr : Attribute} (h : attr.field.InRange)
    (hchildren : Everywhere (·.field.InRange) attr.children) : ofValue? attr.toValue = .ok attr :=
  ofValue_of_children h (listOfValue_toValues hchildren)

end Stencil.Schema
