import Stencil.Proofs.Schema.Lint
import Stencil.Proofs.Schema.Nested
import Stencil.Proofs.Schema.Validation

/-!
# Type names of composite attributes

A type name is that of the schema followed by the Pascal-cased external names on the way to the
attribute, with nothing between them, so that different ways can spell one name
(`shared_type_name`). The type names are all different exactly if no two ways to composite
attributes spell the same and none spells nothing (`typeNames_nodup_iff`). A code that is read from
the front is enough for it: among siblings, no Pascal-cased name of a composite attribute is empty
or begins another one (`typeNames_nodup`).
-/

namespace Stencil.Schema

open Attribute (visitsAll)

/-- The external name in Pascal case, which is what an attribute adds to type names. -/
def Attribute.pascal (attr : Attribute) : List Char :=
  Name.pascal attr.field.tfName.toList

/-- What a way adds to the type name of the schema. -/
def spelled (way : List Attribute) : List Char :=
  way.flatMap Attribute.pascal

/-- A schema's own type name and those of the types nested in it. -/
def typeNames (schema : Schema) (types : List Attribute) : List String :=
  schema.header.typeName :: types.map (·.field.typeName)

/-- What a composite attribute adds is not empty, and does not begin what a composite sibling with
another name adds. -/
def Separate (siblings : List Attribute) : Prop :=
  ∀ first ∈ siblings, first.isComposite = true → first.pascal ≠ [] ∧
    ∀ second ∈ siblings, second.isComposite = true → first.field.tfName ≠ second.field.tfName →
      ¬ first.pascal <+: second.pascal

instance : DecidablePred Separate := fun siblings =>
  inferInstanceAs (Decidable (∀ first ∈ siblings, first.isComposite = true →
    first.pascal ≠ [] ∧ ∀ second ∈ siblings, second.isComposite = true →
      first.field.tfName ≠ second.field.tfName → ¬ first.pascal <+: second.pascal))

/-- Names in Pascal case follow the parent's type name one by one. -/
theorem toList_typeBelow (parent : String) (way : List Attribute) :
    (typeBelow parent way).toList =
      parent.toList ++ (way.map (·.field.externalName)).flatMap (Name.pascal ·.toList) := by
  induction way generalizing parent with
  | nil => simp [typeBelow]
  | cons attr rest ih =>
      have hcons : typeBelow parent (attr :: rest) =
          typeBelow (parent ++ Name.pascalCase attr.field.externalName) rest :=
        rfl
      rw [hcons, ih]
      simp [Name.pascalCase]

/-- In a loaded schema, a type name is that of the schema and what the way to the attribute adds. -/
theorem toList_typeName {content : Content} {schema : Schema} {visit : Visit}
    (hload : loadContent content = .ok schema) (hvisit : visit.In schema.attributes) :
    visit.attr.field.typeName.toList = schema.header.typeName.toList ++ spelled visit.way := by
  obtain ⟨written, -, rfl⟩ := written_of_load hload
  obtain ⟨raw, -, rfl⟩ := in_derive_iff.1 hvisit
  rw [typeName_derive, toList_typeBelow, way_derive,
    ← tfName_deriveWay written.header.derive.typeName, List.flatMap_map]
  rfl

/-- What is above an attribute has children. -/
theorem composite_above {attributes above below : List Attribute} {position : List Nat}
    (h : way? attributes position = some (above ++ below)) (hbelow : below ≠ []) :
    ∀ attr ∈ above, attr.isComposite = true := by
  induction above generalizing attributes position with
  | nil => simp
  | cons first rest ih =>
      cases position with
      | nil => simp [way?] at h
      | cons index later =>
          obtain ⟨attr, -, h⟩ := Option.bind_eq_some_iff.1 h
          obtain ⟨way, hway, hsplit⟩ := Option.map_eq_some_iff.1 h
          obtain ⟨rfl, rfl⟩ := List.cons.inj hsplit
          refine List.forall_mem_cons.2 ⟨?_, ih hway⟩
          cases hchildren : attr.children with
          | nil =>
              -- No way leads on from an attribute without children.
              rw [hchildren] at hway
              cases later <;> simp [way?, hbelow] at hway
          | cons child children => simp [Attribute.isComposite, hchildren]

/-- The way to a composite attribute leads through composite attributes only. -/
theorem composite_way {attributes : List Attribute} {visit : Visit} (h : visit.In attributes)
    (hcomposite : visit.attr.isComposite = true) : ∀ attr ∈ visit.way, attr.isComposite = true := by
  intro attr hattr
  rcases List.mem_append.1 hattr with habove | hself
  · exact composite_above h (List.cons_ne_nil _ _) attr habove
  · rw [List.mem_singleton.1 hself]
    exact hcomposite

/-- Where the names of siblings are different and separate, composite siblings that begin one text
are the same. -/
theorem same_of_prefix {siblings : List Attribute} (hdistinct : Distinct siblings)
    (hseparate : Separate siblings) {first second : Nat} {attr other : Attribute} {text : List Char}
    (hfirst : siblings[first]? = some attr) (hsecond : siblings[second]? = some other)
    (hattr : attr.isComposite = true) (hother : other.isComposite = true)
    (hbegins : attr.pascal <+: text) (hothers : other.pascal <+: text) : first = second := by
  have hmem := List.mem_of_getElem? hfirst
  have hmem' := List.mem_of_getElem? hsecond
  have hname : attr.field.tfName = other.field.tfName := by
    by_contra hne
    rcases List.prefix_or_prefix_of_prefix hbegins hothers with h | h
    · exact (hseparate attr hmem hattr).2 other hmem' hother hne h
    · exact (hseparate other hmem' hother).2 attr hmem hattr (Ne.symm hne) h
  refine (List.getElem?_inj ?_ hdistinct).1 ?_
  · rw [List.length_map]
    exact (List.getElem?_eq_some_iff.1 hfirst).1
  · rw [List.getElem?_map, List.getElem?_map, hfirst, hsecond]
    exact congrArg some hname

/-- Where the names of siblings are separate, a way of composite attributes adds something. -/
theorem spelled_ne_nil {siblings : List Attribute} (hseparate : Separate siblings) {index : Nat}
    {rest : List Nat} {way : List Attribute} (hway : way? siblings (index :: rest) = some way)
    (hcomposite : ∀ attr ∈ way, attr.isComposite = true) : spelled way ≠ [] := by
  obtain ⟨attr, hattr, hway⟩ := Option.bind_eq_some_iff.1 hway
  obtain ⟨below, -, rfl⟩ := Option.map_eq_some_iff.1 hway
  have hself := hcomposite attr List.mem_cons_self
  have hne := (hseparate attr (List.mem_of_getElem? hattr) hself).1
  exact List.append_ne_nil_of_left_ne_nil hne _

/-- Where names are different and separate at every level, a way of composite attributes can be read
back from what it adds. -/
theorem position_of_spelled {attributes : List Attribute}
    (hdistinct : EveryLevel Distinct attributes) (hseparate : EveryLevel Separate attributes)
    {first second : List Nat} {way other : List Attribute}
    (hway : way? attributes first = some way) (hother : way? attributes second = some other)
    (hcomposite : ∀ attr ∈ way, attr.isComposite = true)
    (hcomposite' : ∀ attr ∈ other, attr.isComposite = true)
    (hspelled : spelled way = spelled other) : first = second := by
  -- Both ways start with siblings whose names begin one text, so they start with the same one.
  induction first generalizing attributes second way other with
  | nil =>
      obtain rfl : [] = way := Option.some.inj hway
      cases second with
      | nil => rfl
      | cons index rest =>
          exact absurd hspelled.symm (spelled_ne_nil hseparate.1 hother hcomposite')
  | cons index rest ih =>
      cases second with
      | nil =>
          obtain rfl : [] = other := Option.some.inj hother
          exact absurd hspelled (spelled_ne_nil hseparate.1 hway hcomposite)
      | cons index' rest' =>
          obtain ⟨attr, hattr, hway⟩ := Option.bind_eq_some_iff.1 hway
          obtain ⟨below, hbelow, rfl⟩ := Option.map_eq_some_iff.1 hway
          obtain ⟨attr', hattr', hother⟩ := Option.bind_eq_some_iff.1 hother
          obtain ⟨below', hbelow', rfl⟩ := Option.map_eq_some_iff.1 hother
          obtain ⟨hself, hdeeper⟩ := List.forall_mem_cons.1 hcomposite
          obtain ⟨hself', hdeeper'⟩ := List.forall_mem_cons.1 hcomposite'
          have hjoined : attr.pascal ++ spelled below = attr'.pascal ++ spelled below' := hspelled
          have hbegins : attr'.pascal <+: attr.pascal ++ spelled below :=
            hjoined ▸ List.prefix_append _ _
          obtain rfl : index = index' := same_of_prefix hdistinct.1 hseparate.1 hattr hattr' hself
            hself' (List.prefix_append _ _) hbegins
          obtain rfl : attr = attr' := Option.some.inj (hattr.symm.trans hattr')
          have hmem := List.mem_of_getElem? hattr
          rw [ih (hdistinct.below hmem) (hseparate.below hmem) hbelow hbelow' hdeeper hdeeper'
            (List.append_cancel_left hjoined)]

section

variable {content : Content} {schema : Schema} {maxDepth : Nat} {types : List Attribute}

/-- The type names are all different exactly if each way to a composite attribute adds something and
no two of them add the same. -/
theorem typeNames_nodup_iff (hload : loadContent content = .ok schema)
    (htypes : nestedTypes schema.attributes maxDepth = .ok types) :
    (typeNames schema types).Nodup ↔
      (∀ visit ∈ compositeVisits 0 schema.attributes, spelled visit.way ≠ []) ∧
        ∀ first ∈ compositeVisits 0 schema.attributes,
          ∀ second ∈ compositeVisits 0 schema.attributes,
            spelled first.way = spelled second.way → first = second := by
  have hname : ∀ visit ∈ compositeVisits 0 schema.attributes,
      visit.attr.field.typeName.toList = schema.header.typeName.toList ++ spelled visit.way :=
    fun visit hvisit => toList_typeName hload (mem_visits.1 (List.mem_filter.1 hvisit).1)
  rw [typeNames, nestedTypes_ok htypes, List.map_map, List.nodup_cons]
  refine and_congr ?_ ⟨fun h first hfirst second hsecond hspelled => ?_, fun h => ?_⟩
  · simp only [List.mem_map, not_exists, not_and, Function.comp_apply]
    refine forall₂_congr fun visit hvisit => not_congr ?_
    rw [← String.toList_inj, hname visit hvisit, List.append_right_eq_self]
  · refine List.inj_on_of_nodup_map h hfirst hsecond ?_
    rw [Function.comp_apply, Function.comp_apply, ← String.toList_inj, hname first hfirst,
      hname second hsecond, hspelled]
  · refine (compositeVisits_nodup 0 schema.attributes).map_on fun first hfirst second hsecond heq =>
      h first hfirst second hsecond ?_
    rw [Function.comp_apply, Function.comp_apply, ← String.toList_inj, hname first hfirst,
      hname second hsecond] at heq
    exact List.append_cancel_left heq

/-- In a loaded schema that lint finds no errors in and whose composite siblings are separate at
every level, all type names are different. -/
theorem typeNames_nodup (hload : loadContent content = .ok schema)
    (hclean : hasErrors (lint schema) = false) (hseparate : EveryLevel Separate schema.attributes)
    (htypes : nestedTypes schema.attributes maxDepth = .ok types) :
    (typeNames schema types).Nodup := by
  have hin : ∀ visit ∈ compositeVisits 0 schema.attributes,
      visit.In schema.attributes ∧ ∀ attr ∈ visit.way, attr.isComposite = true := by
    intro visit hvisit
    obtain ⟨hvisit, hcomposite⟩ := List.mem_filter.1 hvisit
    exact ⟨mem_visits.1 hvisit, composite_way (mem_visits.1 hvisit) hcomposite⟩
  refine (typeNames_nodup_iff hload htypes).2 ⟨fun visit hvisit => ?_,
    fun first hfirst second hsecond hspelled => ?_⟩
  · obtain ⟨hway, hcomposite⟩ := hin visit hvisit
    obtain ⟨index, rest, hposition, -⟩ := mem_visitsAll.1 (List.mem_filter.1 hvisit).1
    rw [Visit.In, hposition] at hway
    exact spelled_ne_nil hseparate.1 hway hcomposite
  · obtain ⟨hway, hcomposite⟩ := hin first hfirst
    obtain ⟨hway', hcomposite'⟩ := hin second hsecond
    exact hway.unique hway' (position_of_spelled (distinct_of_clean hclean) hseparate hway hway'
      hcomposite hcomposite' hspelled)

end

/-- A document with a map in a map, beside another map. -/
def separateMaps : Content :=
  .text ("name: X\nrest_endpoint: x\nattributes:\n- model_name: a\n  type: Map\n" ++
    "  attributes: &c\n  - model_name: c\n    type: Map\n- model_name: b\n  type: Map\n" ++
    "  attributes:\n  - model_name: a\n    type: Map\n    attributes: *c\n")

/-- The names of its types are all different. -/
theorem typeNames_nodup_separate_maps :
    ∃ schema types, loadContent separateMaps = .ok schema ∧ hasErrors (lint schema) = false ∧
      EveryLevel Separate schema.attributes ∧ nestedTypes schema.attributes 4 = .ok types ∧
      typeNames schema types = ["X", "XA", "XB", "XBA"] ∧ (typeNames schema types).Nodup := by
  have hfound : ((loadContent separateMaps).toOption.bind fun schema =>
      (nestedTypes schema.attributes 4).toOption.map fun types =>
        (hasErrors (lint schema), decide (EveryLevel Separate schema.attributes),
          typeNames schema types)) =
      some (false, true, ["X", "XA", "XB", "XBA"]) := by
    unfold separateMaps
    rw [loadContent_eq, written_text, String.toList_append, String.toList_append]
    repeat rw [String.toList_ofList]
    decide +kernel
  obtain ⟨schema, hload, hfound⟩ := Option.bind_eq_some_iff.1 hfound
  obtain ⟨types, htypes, hfound⟩ := Option.map_eq_some_iff.1 hfound
  simp only [Prod.mk.injEq, decide_eq_true_eq] at hfound
  obtain ⟨hclean, hseparate, hnames⟩ := hfound
  rw [toOption_eq_some_iff] at hload htypes
  exact ⟨schema, types, hload, hclean, hseparate, htypes, hnames,
    typeNames_nodup hload hclean hseparate htypes⟩

/-- A document with a map called `a_b` beside a map `a` that contains a map `b`. -/
def entwinedMaps : Content :=
  .text ("name: X\nrest_endpoint: x\nattributes:\n- model_name: aB\n  type: Map\n" ++
    "  attributes: &c\n  - model_name: c\n    type: Map\n- model_name: a\n  type: Map\n" ++
    "  attributes:\n  - model_name: b\n    type: Map\n    attributes: *c\n")

/-- Different ways can spell one type name in a schema without errors. -/
theorem shared_type_name :
    ¬ ∀ content schema maxDepth types, loadContent content = .ok schema →
      hasErrors (lint schema) = false → nestedTypes schema.attributes maxDepth = .ok types →
        (typeNames schema types).Nodup := by
  intro h
  have hfound : ((loadContent entwinedMaps).toOption.bind fun schema =>
      (nestedTypes schema.attributes 4).toOption.map fun types =>
        (hasErrors (lint schema), typeNames schema types)) =
      some (false, ["X", "XAB", "XA", "XAB"]) := by
    unfold entwinedMaps
    rw [loadContent_eq, written_text, String.toList_append, String.toList_append]
    repeat rw [String.toList_ofList]
    decide +kernel
  obtain ⟨schema, hload, hfound⟩ := Option.bind_eq_some_iff.1 hfound
  obtain ⟨types, htypes, hfound⟩ := Option.map_eq_some_iff.1 hfound
  obtain ⟨hclean, hnames⟩ := Prod.mk.inj hfound
  rw [toOption_eq_some_iff] at hload htypes
  have hnodup := h entwinedMaps schema 4 types hload hclean htypes
  rw [hnames] at hnodup
  revert hnodup
  decide

end Stencil.Schema
