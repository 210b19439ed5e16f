import Stencil.Proofs.Outcome
import Stencil.Proofs.Schema.Validation
import Stencil.Proofs.Text.Piece

/-!
# Names of a loaded schema

What loading adds to a document that can be read and keeps the rules (`load_names`). Walks through
the schema that was read and through the loaded one meet the same attributes in the same order, with
the same properties apart from the two names. An external name is the declared one or follows from
the wire name; a type name spells the way from the schema down to the attribute, in Pascal case. All
names being filled in, filling them in again changes nothing (`derive_derive`).
-/

namespace Stencil.Schema

open Attribute (visitsAll deriveAll)

/-- A loaded header is the one that was read with its names and descriptions filled in. -/
structure Header.Named (read loaded : Header) : Prop where
  same : loaded = { read with
    tfName := loaded.tfName, typeName := loaded.typeName, dsDescription := loaded.dsDescription,
    resDescription := loaded.resDescription }
  typeName_eq : loaded.typeName = Name.pascalName read.name
  tfName_kept : read.tfName ≠ "" → loaded.tfName = read.tfName
  dsDescription_kept : read.dsDescription ≠ "" → loaded.dsDescription = read.dsDescription
  resDescription_kept : read.resDescription ≠ "" → loaded.resDescription = read.resDescription

/-- An attribute of a loaded schema is the one that was read at its position with its names, below a
schema of that name. The type name is given in two ways: name by name, and for the names joined. -/
structure Visit.Named (schemaName : String) (read loaded : Visit) : Prop where
  position_eq : loaded.position = read.position
  children_eq : loaded.attr.children.length = read.attr.children.length
  same : loaded.attr.field = { read.attr.field with
    tfName := loaded.attr.field.tfName, typeName := loaded.attr.field.typeName }
  tfName_eq : loaded.attr.field.tfName =
    if read.attr.field.tfName = "" then Name.externalName read.attr.field.modelName
    else read.attr.field.tfName
  typeName_eq : loaded.attr.field.typeName = Name.pascalName schemaName ++
    String.join (loaded.way.map fun attr => Name.pascalCase attr.field.tfName)
  typeName_joined : loaded.attr.field.typeName = Name.pascalName schemaName ++
    Name.pascalCase ("_".intercalate (loaded.way.map (·.field.tfName)))

/-- Names that are joined with an underscore are put in Pascal case one by one. -/
theorem pascalCase_underscore (first second : String) :
    Name.pascalCase (first ++ "_" ++ second) =
      Name.pascalCase first ++ Name.pascalCase second := by
  have hpieces : Text.pieces (· == '_') (first.toList ++ '_' :: second.toList) =
      Text.pieces (· == '_') first.toList ++ Text.pieces (· == '_') second.toList :=
    Text.pieces_separator (by decide) first.toList second.toList
  have hjoined : (first ++ "_" ++ second).toList = first.toList ++ '_' :: second.toList := by simp
  rw [Name.pascalCase, Name.pascal, hjoined, hpieces, List.flatMap_append, String.ofList_append]
  rfl

/-- The Pascal case of joined names is made up of those of the names. -/
theorem pascalCase_intercalate (names : List String) :
    Name.pascalCase ("_".intercalate names) = String.join (names.map Name.pascalCase) := by
  induction names with
  | nil => decide
  | cons first rest ih =>
      cases rest with
      | nil => simp [String.intercalate_singleton, String.join_cons]
      | cons second others =>
          rw [String.intercalate_cons_cons, pascalCase_underscore, ih]
          show _ = String.join (Name.pascalCase first :: (second :: others).map Name.pascalCase)
          rw [String.join_cons]

/-- A type name is that of the schema and the names on the way in Pascal case. -/
theorem typeBelow_eq (parent : String) (way : List Attribute) :
    typeBelow parent way =
      parent ++ String.join ((way.map (·.field.externalName)).map Name.pascalCase) := by
  induction way generalizing parent with
  | nil => simp [typeBelow]
  | cons attr rest ih =>
      have hcons : typeBelow parent (attr :: rest) =
          typeBelow (parent ++ Name.pascalCase attr.field.externalName) rest :=
        rfl
      rw [hcons, ih, List.map_cons, List.map_cons, String.join_cons, String.append_assoc]

/-- A header is the one it was before it got its names and descriptions, apart from these. -/
theorem Header.named_derive (header : Header) : header.Named header.derive where
  same := rfl
  typeName_eq := rfl
  tfName_kept h := if_neg h
  dsDescription_kept h := if_neg h
  resDescription_kept h := if_neg h

/-- An attribute is the one it was before it got its names, apart from these. -/
theorem Visit.named_derive (schemaName : String) (visit : Visit) :
    visit.Named schemaName (visit.derive (Name.pascalName schemaName)) := by
  have hway : (visit.derive (Name.pascalName schemaName)).way.map (·.field.tfName) =
      visit.way.map (·.field.externalName) := by
    rw [way_derive, tfName_deriveWay]
  have htype := typeName_derive (Name.pascalName schemaName) visit
  rw [typeBelow_eq, ← hway] at htype
  refine ⟨rfl, ?_, ?_, ?_, ?_, ?_⟩
  · rw [Visit.derive, derive_eq, deriveAll_eq_map, List.length_map]
  · rw [Visit.derive, derive_eq]
    rfl
  · rw [Visit.derive, derive_eq]
    rfl
  · rw [htype, List.map_map]
    rfl
  · rw [htype, pascalCase_intercalate]

/-- A text that stands in for an empty one does so again. -/
theorem default_twice (text default : String) :
    (if (if text = "" then default else text) = "" then default
      else if text = "" then default else text) = if text = "" then default else text := by
  by_cases hblank : text = ""
  · rw [if_pos hblank, ite_self]
  · rw [if_neg hblank, if_neg hblank]

/-- A field that has its names keeps them. -/
theorem Field.derive_derive (parent : String) (field : Field) :
    (field.derive parent).derive parent = field.derive parent := by
  have hname : (field.derive parent).externalName = field.externalName :=
    default_twice field.tfName (Name.externalName field.modelName)
  rw [Field.derive, hname]
  rfl

/-- A header that has its names and descriptions keeps them. -/
theorem Header.derive_derive (header : Header) : header.derive.derive = header.derive := by
  simp only [Header.derive, Header.mk.injEq, true_and, and_true]
  exact ⟨default_twice _ _, default_twice _ _, default_twice _ _⟩

/-- Attributes that have their names keep them. -/
theorem deriveAll_deriveAll (parent : String) (attributes : List Attribute) :
    deriveAll parent (deriveAll parent attributes) = deriveAll parent attributes := by
  induction attributes using forest_induction generalizing parent with
  | nil => rfl
  | cons field children rest ihChildren ihRest =>
      rw [deriveAll, deriveAll, Attribute.derive, Attribute.derive, Field.derive_derive, ihChildren,
        ihRest]

/-- A schema that has its names and descriptions keeps them. -/
theorem derive_derive (schema : Schema) : schema.derive.derive = schema.derive := by
  rw [derive, derive, Header.derive_derive, deriveAll_deriveAll]

/-- A document that can be read and keeps the rules is loaded. The header and each attribute are
what was read with their names filled in, and filling them in again changes nothing. -/
theorem load_names {content : Content} {schema : Schema} (h : written content = .ok schema)
    (hkeeps : KeepsRules schema) :
    ∃ loaded, loadContent content = .ok loaded ∧ schema.header.Named loaded.header ∧
      List.Forall₂ (Visit.Named schema.header.name) (visitsAll 0 schema.attributes)
        (visitsAll 0 loaded.attributes) ∧
      loaded.derive = loaded := by
  have hload := loadContent_written h
  rw [firstViolation_eq_none_iff.2 hkeeps] at hload
  refine ⟨schema.derive, hload, Header.named_derive _, ?_, derive_derive schema⟩
  have hwalk : visitsAll 0 schema.derive.attributes =
      (visitsAll 0 schema.attributes).map (Visit.derive (Name.pascalName schema.header.name)) :=
    visitsAll_derive _ 0 schema.attributes
  rw [hwalk, List.forall₂_map_right_iff, List.forall₂_same]
  intro visit hvisit
  exact Visit.named_derive schema.header.name visit

/-- A document with a list whose type name is given and whose child has a name of its own. -/
def givenNames : Content :=
  .text ("name: an x-y\nrest_endpoint: x\nds_description: d\nattributes:\n- model_name: aB\n" ++
    "  type_name: Other\n  type: List\n  attributes:\n" ++
    "  - {model_name: c, tf_name: d__eF, type: String}\n")

/-- The type name that is given is ignored, and the name and the description are kept. -/
theorem load_names_given :
    ∃ schema, written givenNames = .ok schema ∧ KeepsRules schema ∧
      ∃ loaded, loadContent givenNames = .ok loaded ∧ schema.header.Named loaded.header ∧
        List.Forall₂ (Visit.Named schema.header.name) (visitsAll 0 schema.attributes)
          (visitsAll 0 loaded.attributes) ∧
        loaded.derive = loaded ∧
        (loaded.header.typeName, loaded.header.tfName, loaded.header.dsDescription) =
          ("AnXY", "an_x_y", "d") ∧
        (visitsAll 0 loaded.attributes).map
            (fun visit => (visit.attr.field.tfName, visit.attr.field.typeName)) =
          [("a_b", "AnXYAB"), ("d__eF", "AnXYABDEF")] := by
  have hnames : (loadContent givenNames).toOption.map (fun loaded =>
      ((loaded.header.typeName, loaded.header.tfName, loaded.header.dsDescription),
        (visitsAll 0 loaded.attributes).map fun visit =>
          (visit.attr.field.tfName, visit.attr.field.typeName))) =
      some (("AnXY", "an_x_y", "d"), [("a_b", "AnXYAB"), ("d__eF", "AnXYABDEF")]) := by
    unfold givenNames
    rw [loadContent_eq, written_text, String.toList_append, String.toList_append]
    repeat rw [String.toList_ofList]
    decide +kernel
  obtain ⟨named, hnamed, hnames⟩ := Option.map_eq_some_iff.1 hnames
  have hload := toOption_eq_some_iff.1 hnamed
  obtain ⟨hheader, hattributes⟩ := Prod.mk.inj hnames
  obtain ⟨schema, hwritten, -⟩ := written_of_load hload
  have hkeeps := keepsRules_of_load hwritten hload
  obtain ⟨loaded, hloaded, hrest⟩ := load_names hwritten hkeeps
  obtain rfl : named = loaded := Except.ok.inj (hload.symm.trans hloaded)
  exact ⟨schema, hwritten, hkeeps, named, hload, hrest.1, hrest.2.1, hrest.2.2, hheader,
    hattributes⟩

end Stencil.Schema
