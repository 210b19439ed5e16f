import Stencil.Proofs.Schema.Validation
import Stencil.Proofs.Standard.Model

/-!
# Types that the data model declares

Attributes with children are collections of objects, and only a collection that is declared with
neither an element type nor children is one without them. So if the standard template of the data
model yields a text, the types that it writes for the fields of collections with children, and of
maps, are those of nested types, which it declares (`declared_of_schema`).
-/

namespace Stencil.Standard

open Schema (Attribute AttributeType Everywhere Field Visit loadContent nestedTypes)
open Schema.Attribute (visitsAll)
open Template

/-- The text contains another. -/
def Contains (text part : String) : Prop := part.toList <:+: text.toList

namespace Contains

variable {text part : String}

/-- What a text contains is still there after another text. -/
theorem after (h : Contains text part) (before : String) : Contains (before ++ text) part := by
  rw [Contains, String.toList_append]
  exact h.trans (List.suffix_append _ _).isInfix

/-- What a text contains is still there before another text. -/
theorem before (h : Contains text part) (after : String) : Contains (text ++ after) part := by
  rw [Contains, String.toList_append]
  exact h.trans (List.prefix_append _ _).isInfix

/-- A text contains itself. -/
theorem refl (text : String) : Contains text text := List.infix_rfl

/-- Texts one after the other contain each of them. -/
theorem join {texts : List String} (h : text ∈ texts) (hpart : Contains text part) :
    Contains (String.join texts) part := by
  induction texts with
  | nil => cases h
  | cons first rest ih =>
      rw [String.join_cons]
      rcases List.mem_cons.1 h with rfl | hrest
      · exact hpart.before _
      · exact (ih hrest).after _

end Contains

/-- One text after another is there if both are. -/
theorem andThen_eq_ok {first second : Outcome String} {text : String}
    (h : andThen first second = .ok text) :
    ∃ before after, first = .ok before ∧ second = .ok after ∧ text = before ++ after := by
  obtain ⟨before, hfirst, h⟩ := bind_ok_iff.1 h
  obtain ⟨after, hsecond, h⟩ := bind_ok_iff.1 h
  exact ⟨before, after, hfirst, hsecond, (Except.ok.inj h).symm⟩

/-- The texts of items are all there if they are together. -/
theorem textsOf_eq_ok {α : Type} {write : α → Outcome String} {text : α → String} {items : List α}
    (hwrite : ∀ item written, write item = .ok written → written = text item) {written : String}
    (h : textsOf write items = .ok written) :
    written = String.join (items.map text) ∧ ∀ item ∈ items, write item = .ok (text item) := by
  induction items generalizing written with
  | nil => exact ⟨(Except.ok.inj h).symm, by simp⟩
  | cons item rest ih =>
      obtain ⟨first, others, hfirst, hothers, rfl⟩ := andThen_eq_ok h
      obtain rfl := hwrite item first hfirst
      obtain ⟨rfl, hrest⟩ := ih hothers
      exact ⟨by rw [List.map_cons, String.join_cons], List.forall_mem_cons.2 ⟨hfirst, hrest⟩⟩

namespace Model

variable {owner written : String} {attr : Attribute} {attributes : List Attribute}

/-- The fields of attributes. -/
def fieldsText (attributes : List Attribute) : String :=
  String.join ((attributes.filter (·.field.value.isNone)).map (fieldText ·.field))

/-- The structure of a nested type. -/
def structText (attr : Attribute) : String :=
  declaration attr.field.typeName ++ (fieldsText attr.children ++ "\x7d\n")

/-- The structures of a schema and of nested types. -/
def structsText (schema : Schema) (types : List Attribute) : String :=
  heading schema.header.name schema.header.typeName ++ (fieldsText schema.attributes ++
    ("\x7d\n" ++ String.join (types.map structText)))

/-- The maps among attributes without a fixed value have children. -/
def MapsHaveChildren (attributes : List Attribute) : Prop :=
  ∀ attr ∈ attributes, attr.field.value = none → attr.field.isNestedMap = true →
    attr.isComposite = true

/-- If the fields of attributes are written, their maps have children. -/
theorem writeFields_eq_ok (h : writeFields owner attributes = .ok written) :
    written = fieldsText attributes ∧ MapsHaveChildren attributes := by
  have hfield {attr : Attribute} {written : String} (h : writeField owner attr = .ok written) :
      written = fieldText attr.field ∧
        (attr.field.isNestedMap = true → attr.isComposite = true) := by
    rw [writeField] at h
    split at h
    · cases h
    · next hpasses => exact ⟨(Except.ok.inj h).symm, by simpa using hpasses⟩
  obtain ⟨htext, hfields⟩ := textsOf_eq_ok (fun _ _ h => (hfield h).1) h
  refine ⟨htext, fun attr hattr hvalue => (hfield (hfields attr ?_)).2⟩
  exact List.mem_filter.2 ⟨hattr, by simp [hvalue]⟩

/-- If the structure of a type is written, its maps have children. -/
theorem writeStruct_eq_ok (h : writeStruct attr = .ok written) :
    written = structText attr ∧ MapsHaveChildren attr.children := by
  obtain ⟨_, _, hdeclaration, hafter, rfl⟩ := andThen_eq_ok h
  obtain ⟨_, _, hfields, hend, rfl⟩ := andThen_eq_ok hafter
  obtain ⟨rfl, hmaps⟩ := writeFields_eq_ok hfields
  cases hdeclaration
  cases hend
  exact ⟨rfl, hmaps⟩

/-- If the structures of a schema are written, the nested types can be listed, and all maps that
have no fixed value have children. -/
theorem writeStructs_eq_ok {limit : Nat} {schema : Schema}
    (h : writeStructs limit schema = .ok written) : ∃ types,
      nestedTypes schema.attributes limit = .ok types ∧ written = structsText schema types ∧
        MapsHaveChildren schema.attributes ∧ ∀ type ∈ types, MapsHaveChildren type.children := by
  obtain ⟨_, _, hheading, hafter, rfl⟩ := andThen_eq_ok h
  obtain ⟨_, _, hfields, hothers, rfl⟩ := andThen_eq_ok hafter
  obtain ⟨_, _, hend, htypes, rfl⟩ := andThen_eq_ok hothers
  obtain ⟨rfl, hmaps⟩ := writeFields_eq_ok hfields
  obtain rfl := Except.ok.inj hheading
  obtain rfl := Except.ok.inj hend
  rw [writeTypes] at htypes
  split at htypes
  · next types hnested =>
      obtain ⟨rfl, hstructs⟩ := textsOf_eq_ok (fun _ _ h => (writeStruct_eq_ok h).1) htypes
      exact ⟨types, hnested, rfl, hmaps,
        fun type htype => (writeStruct_eq_ok (hstructs type htype)).2⟩
  · cases htypes

/-- The type of a field with objects is named after the type of the objects. -/
theorem rustType_of_nested {field : Field} (h : field.isNested = true) :
    rustType field ∈
      ["BTreeMap<String, " ++ field.typeName ++ ">", "Vec<" ++ field.typeName ++ ">"] := by
  have hflat : field.isListSet = false := by
    obtain ⟨-, helement⟩ : field.type.isCollection = true ∧ field.elementType.isNone = true := by
      simpa [Field.isNested] using h
    simp [Field.isListSet, Option.isNone_iff_eq_none.1 helement]
  rw [rustType, hflat, h]
  cases field.isNestedMap <;> simp

/-- The structure of a nested type is declared. -/
theorem contains_declaration {schema : Schema} {types : List Attribute} (h : attr ∈ types) :
    Contains (structsText schema types) (declaration attr.field.typeName) := by
  have hstruct : Contains (structText attr) (declaration attr.field.typeName) :=
    (Contains.refl _).before _
  exact (((hstruct.join (List.mem_map_of_mem h)).after _).after _).after _

/-- A field that is written is in the structures, for an attribute at any depth. -/
theorem contains_field {schema : Schema} {types : List Attribute} {limit : Nat}
    (htypes : nestedTypes schema.attributes limit = .ok types) {visit : Visit}
    (hvisit : visit ∈ visitsAll 0 schema.attributes) (hvalue : visit.attr.field.value = none) :
    Contains (structsText schema types) (fieldText visit.attr.field) := by
  have hfields {attributes : List Attribute} (hattr : visit.attr ∈ attributes) :
      Contains (fieldsText attributes) (fieldText visit.attr.field) :=
    .join (List.mem_map_of_mem (List.mem_filter.2 ⟨hattr, by simp [hvalue]⟩)) (.refl _)
  rcases Schema.parent_of_visit hvisit with hattr | ⟨parent, hparent, hattr⟩
  · exact ((hfields hattr).before _).after _
  · have hlisted := Schema.mem_nestedTypes htypes hparent (Schema.isComposite_of_mem hattr)
    have hstruct : Contains (structText parent.attr) (fieldText visit.attr.field) :=
      ((hfields hattr).before _).after _
    exact (((hstruct.join (List.mem_map_of_mem hlisted)).after _).after _).after _

end Model

/-- The template of the data model. -/
theorem ofArtifact_model : ofArtifact modelArtifact = Model.source := by
  simp [ofArtifact, modelArtifact, text?, Model.source]

/-- In a loaded schema, an attribute with children is a collection of objects, and a collection of
objects is without children only if it is declared with neither an element type nor children. If the
data model is rendered, it consists of the structures of the schema and of its nested types and a
text after them. A field is written for every attribute without a fixed value, at any depth, and if
it has children or is a map of objects, the type of the field is named after a nested type, which is
declared. -/
theorem declared_of_schema {content : Content} {schema : Schema}
    (hload : loadContent content = .ok schema) :
    (∀ visit : Visit, visit.In schema.attributes →
      (visit.attr.isComposite = true → visit.attr.field.isNested = true) ∧
      (visit.attr.field.isNested ≠ visit.attr.isComposite ↔
        visit.attr.field.type ∈ [.list, .set, .map] ∧ visit.attr.field.elementType = none ∧
          visit.attr.children = [])) ∧
    ∀ (config : Config) (limit : Nat) (text : String),
      (ofArtifact modelArtifact).render ⟨limit⟩ (Project.schemaContext config schema) = .ok text →
      ∃ types after, nestedTypes schema.attributes limit = .ok types ∧
        text = Model.structsText schema types ++ after ∧
        ∀ visit : Visit, visit.In schema.attributes → visit.attr.field.value = none →
          Contains (Model.structsText schema types) (Model.fieldText visit.attr.field) ∧
          (visit.attr.isComposite = true ∨ visit.attr.field.isNestedMap = true →
            visit.attr ∈ types ∧
            Model.rustType visit.attr.field ∈
              ["BTreeMap<String, " ++ visit.attr.field.typeName ++ ">",
                "Vec<" ++ visit.attr.field.typeName ++ ">"] ∧
            Contains (Model.structsText schema types)
              (Model.declaration visit.attr.field.typeName)) := by
  refine ⟨fun visit hvisit => ?_, fun config limit text hrender => ?_⟩
  · have hnested := (Schema.loaded_fits hload hvisit).nested
    refine ⟨hnested, ?_⟩
    have hcollection : visit.attr.field.isNested = true ↔
        visit.attr.field.type ∈ [.list, .set, .map] ∧ visit.attr.field.elementType = none := by
      rw [Field.isNested, Bool.and_eq_true, Option.isNone_iff_eq_none]
      cases visit.attr.field.type <;> simp [AttributeType.isCollection]
    have hchildless : visit.attr.isComposite = false ↔ visit.attr.children = [] := by
      simp [Attribute.isComposite]
    rw [← and_assoc, ← hcollection, ← hchildless]
    cases hobjects : visit.attr.field.isNested <;>
      cases hchildren : visit.attr.isComposite <;> simp_all
  have hrange : Everywhere (·.field.InRange) schema.attributes :=
    fun visit hvisit => (Schema.loaded_bounded hload visit hvisit).1
  obtain ⟨after, hsource⟩ := Model.render_source hrange ⟨limit⟩ config
  rw [ofArtifact_model, hsource] at hrender
  obtain ⟨_, _, hwritten, hafter, rfl⟩ := andThen_eq_ok (mapError_ok_iff.1 hrender)
  obtain rfl := Except.ok.inj hafter
  obtain ⟨types, htypes, rfl, hmaps, hbelow⟩ := Model.writeStructs_eq_ok hwritten
  refine ⟨types, after, htypes, rfl, fun visit hvisit hvalue => ?_⟩
  have hmet := Schema.mem_visits.2 hvisit
  refine ⟨Model.contains_field htypes hmet hvalue, fun hkind => ?_⟩
  have hcomposite : visit.attr.isComposite = true := by
    refine hkind.elim id fun hmap => ?_
    rcases Schema.parent_of_visit hmet with hattr | ⟨parent, hparent, hattr⟩
    · exact hmaps _ hattr hvalue hmap
    · have hlisted := Schema.mem_nestedTypes htypes hparent (Schema.isComposite_of_mem hattr)
      exact hbelow _ hlisted _ hattr hvalue hmap
  have hlisted := Schema.mem_nestedTypes htypes hmet hcomposite
  exact ⟨hlisted, Model.rustType_of_nested ((Schema.loaded_fits hload hvisit).nested hcomposite),
    Model.contains_declaration hlisted⟩

/-- A document with a map of objects in a list of objects. -/
def mapInList : Content :=
  .text ("name: X\nrest_endpoint: x\nattributes:\n- model_name: rules\n  type: List\n" ++
    "  attributes:\n  - model_name: options\n    type: Map\n    attributes:\n" ++
    "    - {model_name: on, type: Bool}\n")

/-- The map is a nested type, and declared as such. -/
theorem declared_of_schema_map_in_list :
    ∃ (schema : Schema) (visit : Visit), loadContent mapInList = .ok schema ∧
      visit.In schema.attributes ∧ visit.attr.field.isNestedMap = true ∧ ∀ config, ∃ types text,
        (ofArtifact modelArtifact).render ⟨4⟩ (Project.schemaContext config schema) = .ok text ∧
        nestedTypes schema.attributes 4 = .ok types ∧ visit.attr ∈ types ∧
        Contains text (Model.fieldText visit.attr.field) ∧
        Contains text (Model.declaration "XRulesOptions") := by
  have hfound : ((loadContent mapInList).toOption.bind fun schema =>
      (visitsAll 0 schema.attributes)[1]?.map fun visit =>
        (visit.attr.field.isNestedMap, visit.attr.field.value, visit.attr.field.typeName,
          (Model.writeStructs 4 schema).toOption.isSome)) =
      some (true, none, "XRulesOptions", true) := by
    unfold mapInList
    rw [Schema.loadContent_eq, Schema.written_text, String.toList_append, String.toList_append]
    repeat rw [String.toList_ofList]
    decide +kernel
  obtain ⟨schema, hschema, hfound⟩ := Option.bind_eq_some_iff.1 hfound
  obtain ⟨visit, hvisit, hfound⟩ := Option.map_eq_some_iff.1 hfound
  obtain ⟨hmap, hvalue, hname, hwritten⟩ : visit.attr.field.isNestedMap = true ∧
      visit.attr.field.value = none ∧ visit.attr.field.typeName = "XRulesOptions" ∧
      (Model.writeStructs 4 schema).toOption.isSome = true := by
    simpa using hfound
  rw [toOption_eq_some_iff] at hschema
  obtain ⟨written, hwritten⟩ := Option.isSome_iff_exists.1 hwritten
  have hin := Schema.mem_visits.1 (List.mem_of_getElem? hvisit)
  have hrange : Everywhere (·.field.InRange) schema.attributes :=
    fun visit hvisit => (Schema.loaded_bounded hschema visit hvisit).1
  refine ⟨schema, visit, hschema, hin, hmap, fun config => ?_⟩
  obtain ⟨rest, hsource⟩ := Model.render_source hrange ⟨4⟩ config
  have hrender : (ofArtifact modelArtifact).render ⟨4⟩ (Project.schemaContext config schema) =
      .ok (written ++ rest) := by
    rw [ofArtifact_model, hsource, toOption_eq_some_iff.1 hwritten]
    rfl
  obtain ⟨types, after, htypes, htext, hfields⟩ := (declared_of_schema hschema).2 config 4 _ hrender
  obtain ⟨hfield, hdeclared⟩ := hfields visit hin hvalue
  obtain ⟨hlisted, -, hdeclaration⟩ := hdeclared (.inr hmap)
  rw [hname] at hdeclaration
  have hpart {part : String} (h : Contains (Model.structsText schema types) part) :
      Contains (written ++ rest) part := by
    rw [htext]
    exact h.before after
  exact ⟨types, _, hrender, htypes, hlisted, hpart hfield, hpart hdeclaration⟩

/-- A document with a list that is declared with neither an element type nor children. -/
def childlessList : Content :=
  .text "name: X\nrest_endpoint: x\nattributes:\n- model_name: a\n  type: List\n"

/-- The list is a collection of objects and has no children, and its field has a type that is not
listed. -/
theorem childless_list_nested :
    ∃ (schema : Schema) (visit : Visit), loadContent childlessList = .ok schema ∧
      visit.In schema.attributes ∧ visit.attr.field.isNested = true ∧ visit.attr.isComposite = false ∧
      Model.rustType visit.attr.field = "Vec<XA>" ∧ nestedTypes schema.attributes 4 = .ok [] := by
  have hfound : ((loadContent childlessList).toOption.bind fun schema =>
      (visitsAll 0 schema.attributes)[0]?.map fun visit =>
        (visit.attr.field.isNested, visit.attr.isComposite, Model.rustType visit.attr.field,
          (nestedTypes schema.attributes 4).toOption.map (·.length))) =
      some (true, false, "Vec<XA>", some 0) := by
    unfold childlessList
    rw [Schema.loadContent_eq, Schema.written_text]
    repeat rw [String.toList_ofList]
    decide +kernel
  obtain ⟨schema, hschema, hfound⟩ := Option.bind_eq_some_iff.1 hfound
  obtain ⟨visit, hvisit, hfound⟩ := Option.map_eq_some_iff.1 hfound
  obtain ⟨hnested, hchildren, htype, hlength⟩ : visit.attr.field.isNested = true ∧
      visit.attr.isComposite = false ∧ Model.rustType visit.attr.field = "Vec<XA>" ∧
      (nestedTypes schema.attributes 4).toOption.map (·.length) = some 0 := by
    simpa using hfound
  obtain ⟨types, htypes, hlength⟩ := Option.map_eq_some_iff.1 hlength
  obtain rfl := List.length_eq_zero_iff.1 hlength
  rw [toOption_eq_some_iff] at hschema htypes
  exact ⟨schema, visit, hschema, Schema.mem_visits.1 (List.mem_of_getElem? hvisit), hnested,
    hchildren, htype, htypes⟩

end Stencil.Standard
