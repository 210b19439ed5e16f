import Mathlib.Logic.Basic
import Stencil.FileSystem.Tree
import Stencil.Proofs.Outcome
import Stencil.Proofs.Schema.Naming
import Stencil.Schema.Document
import Stencil.Schema.Predicate

/-!
# Validation of schemas

`load_exact` says what loading a document that can be read comes to. It succeeds exactly if no
attribute at any depth breaks a rule. Otherwise it reports the first attribute that breaks one, in
the order of positions, with the first rule that it breaks and the dotted path of external names to
it. The attributes of a loaded schema are what templates rely on (`Attribute.Fits`).
-/

namespace Stencil.Schema

open Attribute (visitsAll)

/-- What it is for an attribute to break a rule. -/
def Rule.BrokenBy (attr : Attribute) : Rule → Prop
  | .childrenRequireCollection => attr.children ≠ [] ∧ attr.field.type ∉ [.list, .set, .map]
  | .childrenWithElementType => attr.children ≠ [] ∧ attr.field.elementType ≠ none
  | .mapElementType => attr.field.type = .map ∧ attr.field.elementType ≠ none
  | .orderedListNotList => attr.field.orderedList = true ∧ attr.field.type ≠ .list
  | .orderedListWithId =>
    attr.field.orderedList = true ∧ ∃ child ∈ attr.children, child.field.isId = true
  | .mapWithId => attr.field.type = .map ∧ ∃ child ∈ attr.children, child.field.isId = true

/-- No attribute at any depth breaks a rule. -/
def KeepsRules (schema : Schema) : Prop :=
  ∀ visit : Visit, visit.In schema.attributes → ∀ rule : Rule, ¬ rule.BrokenBy visit.attr

/-- The external names on the way to an attribute, joined with dots, without the empty ones in
front. -/
def Visit.dotted (visit : Visit) : String :=
  Name.dottedPath ((visit.way.map (·.field.externalName)).dropWhile (· = ""))

/-- The violation is that of the attribute that is met, and the first one in the schema: the
attribute breaks the rule and none before it in the order of rules, and no attribute at a lesser
position breaks any. -/
structure FirstViolation (schema : Schema) (visit : Visit) (violation : Violation) : Prop where
  stands : visit.In schema.attributes
  path_eq : violation.path = visit.dotted
  broken : violation.rule.BrokenBy visit.attr
  rule_first : ∃ before after, Rule.all = before ++ violation.rule :: after ∧
    ∀ rule ∈ before, ¬ rule.BrokenBy visit.attr
  first : ∀ earlier : Visit, earlier.In schema.attributes → earlier.position < visit.position →
    ∀ rule : Rule, ¬ rule.BrokenBy earlier.attr

/-- What templates rely on. An attribute with children is a collection of objects, a collection is
either flat or one of objects, which is a list, a set or a map, and neither an ordered list nor a
map has a child that is an id. -/
structure Attribute.Fits (attr : Attribute) : Prop where
  nested : attr.isComposite = true → attr.field.isNested = true
  collection : attr.field.type.isCollection = true →
    [attr.field.isListSet, attr.field.isNested].count true = 1
  kind : attr.field.isNested = true →
    [attr.field.isNestedList, attr.field.isNestedSet, attr.field.isNestedMap].count true = 1
  no_id : attr.field.orderedList = true ∨ attr.field.type = .map →
    ∀ child ∈ attr.children, child.field.isId = false

/-- The schema that a file holds, as it is written. -/
def written : Content → Decoded Schema
  | .text text => ofText (Yaml.withoutMark text.toList)
  | .binary bytes => (Yaml.decode? bytes).elim (throw .malformed) ofText

/-- The schema that a file holds, with all its names and within the rules. -/
def loadContent : Content → Except LoadFault Schema
  | .text text => load text
  | .binary bytes => loadBytes bytes

/-- Loading is reading, naming and checking. -/
theorem loadContent_eq (content : Content) : loadContent content = complete (written content) := by
  cases content <;> rfl

/-- A text is read letter by letter. The letters of a literal are evaluated much faster than what
takes the literal apart. -/
theorem written_text (text : String) :
    written (.text text) = ofText (Yaml.withoutMark text.toList) :=
  rfl

/-- A rule is broken exactly if it is found broken. -/
theorem isBroken_iff {attr : Attribute} {rule : Rule} :
    rule.isBroken attr = true ↔ rule.BrokenBy attr := by
  have hcollection : attr.field.type.isCollection = false ↔
      attr.field.type ∉ [.list, .set, .map] := by
    cases attr.field.type <;> decide
  cases rule <;>
    simp [Rule.isBroken, Rule.BrokenBy, Attribute.isComposite, Attribute.hasIdChild, hcollection,
      Option.isSome_iff_ne_none]

/-- An attribute breaks with its names the rules that it breaks without them. -/
theorem brokenBy_derive {parent : String} {attr : Attribute} {rule : Rule} :
    rule.BrokenBy (attr.derive parent) ↔ rule.BrokenBy attr := by
  cases rule <;> simp [Rule.BrokenBy, derive_eq, deriveAll_eq_map, Field.derive]

/-- No rule is found that an attribute breaks exactly if it breaks none. -/
theorem violated_eq_none_iff {attr : Attribute} :
    attr.violated? = none ↔ ∀ rule : Rule, ¬ rule.BrokenBy attr := by
  have hall : ∀ rule : Rule, rule ∈ Rule.all := fun rule => by cases rule <;> decide
  simp only [Attribute.violated?, List.find?_eq_none, ← isBroken_iff]
  exact ⟨fun h rule => h rule (hall rule), fun h rule _ => h rule⟩

/-- The rule found is the first that an attribute breaks. -/
theorem violated_eq_some_iff {attr : Attribute} {rule : Rule} :
    attr.violated? = some rule ↔ rule.BrokenBy attr ∧ ∃ before after,
      Rule.all = before ++ rule :: after ∧ ∀ earlier ∈ before, ¬ earlier.BrokenBy attr := by
  simp only [Attribute.violated?, List.find?_eq_some_iff_append, ← isBroken_iff, Bool.not_eq_true,
    Bool.not_eq_true']

/-- Names before which another name stands are joined to it one by one. -/
theorem foldl_childPath {parent : String} (h : parent ≠ "") (names : List String) :
    names.foldl childPath parent = Name.dottedPath (parent :: names) := by
  induction names generalizing parent with
  | nil => simp [Name.dottedPath]
  | cons name rest ih =>
      have hchild : childPath parent name = parent ++ "." ++ name := by
        simp [childPath, h, toString]
      have hne : parent ++ "." ++ name ≠ "" := fun hempty => by
        have hlist := congrArg String.toList hempty
        simp at hlist
      rw [List.foldl_cons, hchild, ih hne]
      cases rest <;>
        simp [Name.dottedPath, String.intercalate_cons_cons, String.append_assoc]

/-- Paths leave out the empty names at their start. -/
theorem foldl_childPath_empty (names : List String) :
    names.foldl childPath "" = Name.dottedPath (names.dropWhile (· = "")) := by
  induction names with
  | nil => rfl
  | cons name rest ih =>
      rw [List.foldl_cons, childPath, if_pos rfl]
      by_cases hname : name = ""
      · subst hname
        simpa using ih
      · rw [foldl_childPath hname, List.dropWhile_cons_of_neg (by simpa using hname)]

/-- The path of an attribute with its names joins external names with dots. -/
theorem path_derive (parent : String) (visit : Visit) :
    (visit.derive parent).path "" = visit.dotted := by
  rw [Visit.path, way_derive, tfName_deriveWay, foldl_childPath_empty, Visit.dotted]

/-- What is found in a schema with its names is found by a walk through the schema without. -/
theorem firstViolation_derive (schema : Schema) :
    firstViolation? schema.derive = (visitsAll 0 schema.attributes).findSome? fun visit =>
      visit.attr.violated?.map fun rule => ⟨visit.dotted, rule⟩ := by
  have hviolated : ∀ parent attr, (Attribute.derive parent attr).violated? = attr.violated? := by
    intro parent attr
    refine Option.ext fun rule => ?_
    simp only [violated_eq_some_iff, brokenBy_derive]
  rw [firstViolation?, located, derive, located_eq_visits "" 0, visitsAll_derive, List.map_map,
    List.findSome?_map]
  congr 1
  funext visit
  have hattr : (visit.derive schema.header.derive.typeName).attr.violated? =
      visit.attr.violated? := hviolated _ _
  simp [path_derive, hattr]

/-- Nothing is found exactly if all attributes keep the rules. -/
theorem firstViolation_eq_none_iff {schema : Schema} :
    firstViolation? schema.derive = none ↔ KeepsRules schema := by
  simp only [firstViolation_derive, List.findSome?_eq_none_iff, Option.map_eq_none_iff,
    violated_eq_none_iff, mem_visits]
  rfl

/-- What is found is the first violation. -/
theorem firstViolation_eq_some_iff {schema : Schema} {violation : Violation} :
    firstViolation? schema.derive = some violation ↔
      ∃ visit, FirstViolation schema visit violation := by
  simp only [firstViolation_derive, findSome_visits, Option.map_eq_some_iff, Option.map_eq_none_iff,
    violated_eq_none_iff, violated_eq_some_iff]
  constructor
  · rintro ⟨visit, hin, ⟨rule, ⟨hbroken, hrule⟩, rfl⟩, hfirst⟩
    exact ⟨visit, hin, rfl, hbroken, hrule, hfirst⟩
  · rintro ⟨visit, hin, hpath, hbroken, hrule, hfirst⟩
    refine ⟨visit, hin, ⟨violation.rule, ⟨hbroken, hrule⟩, ?_⟩, hfirst⟩
    rw [← hpath]

/-- What loading comes to for a document that can be read. -/
theorem loadContent_written {content : Content} {schema : Schema}
    (h : written content = .ok schema) :
    loadContent content =
      match firstViolation? schema.derive with
      | some violation => .error (.invalid violation)
      | none => .ok schema.derive := by
  rw [loadContent_eq, complete, h]
  simp only [mapError_ok, bind, Except.bind]
  cases firstViolation? schema.derive <;> rfl

/-- What loading comes to for a document that cannot be read. -/
theorem loadContent_unreadable {content : Content} {fault : DecodeFault}
    (h : written content = .error fault) : loadContent content = .error (.unreadable fault) := by
  rw [loadContent_eq, h]
  rfl

/-- A loaded schema is one that was read, with its names. -/
theorem written_of_load {content : Content} {loaded : Schema}
    (h : loadContent content = .ok loaded) :
    ∃ schema : Schema, written content = .ok schema ∧ schema.derive = loaded := by
  cases hwritten : written content with
  | error fault =>
      rw [loadContent_unreadable hwritten] at h
      cases h
  | ok schema =>
      rw [loadContent_written hwritten] at h
      split at h
      · cases h
      · exact ⟨schema, rfl, Except.ok.inj h⟩

/-- What was read keeps the rules if it could be loaded. -/
theorem keepsRules_of_load {content : Content} {schema loaded : Schema}
    (h : written content = .ok schema) (hload : loadContent content = .ok loaded) :
    KeepsRules schema := by
  refine firstViolation_eq_none_iff.1 ?_
  rw [loadContent_written h] at hload
  split at hload
  · cases hload
  · assumption

/-- A collection that is no map with an element type is of exactly one kind. -/
theorem Field.one_kind {field : Field} (hmap : field.type = .map → field.elementType = none) :
    (field.type.isCollection = true → [field.isListSet, field.isNested].count true = 1) ∧
      (field.isNested = true →
        [field.isNestedList, field.isNestedSet, field.isNestedMap].count true = 1) := by
  simp only [isListSet, isNested, isNestedList, isNestedSet, isNestedMap]
  generalize field.type = type at hmap ⊢
  generalize field.elementType = element at hmap ⊢
  cases type <;> cases element <;>
    simp_all [AttributeType.isCollection, AttributeType.isListOrSet]

/-- An attribute that breaks no rule is what templates rely on. -/
theorem Attribute.fits {attr : Attribute} (h : ∀ rule : Rule, ¬ rule.BrokenBy attr) :
    attr.Fits := by
  have hcollection := h .childrenRequireCollection
  have helement := h .childrenWithElementType
  have hmap := h .mapElementType
  have hordered := h .orderedListWithId
  have hid := h .mapWithId
  simp only [Rule.BrokenBy, not_and, not_not] at hcollection helement hmap
  simp only [Rule.BrokenBy, not_and, not_exists, Bool.not_eq_true] at hordered hid
  obtain ⟨hflat, hkind⟩ := Field.one_kind hmap
  refine ⟨fun hchildren => ?_, hflat, hkind, fun h => h.elim hordered hid⟩
  have hne : attr.children ≠ [] := by simpa [isComposite] using hchildren
  have htype := hcollection hne
  rw [Field.isNested, helement hne]
  generalize attr.field.type = type at htype ⊢
  revert htype
  cases type <;> decide

/-- The attributes of a loaded schema, at every depth, are what templates rely on. -/
theorem loaded_fits {content : Content} {loaded : Schema} (h : loadContent content = .ok loaded)
    {visit : Visit} (hvisit : visit.In loaded.attributes) : visit.attr.Fits := by
  obtain ⟨schema, hwritten, rfl⟩ := written_of_load h
  have hkeeps := keepsRules_of_load hwritten h
  obtain ⟨raw, hraw, rfl⟩ := in_derive_iff.1 hvisit
  exact Attribute.fits fun rule hrule => hkeeps raw hraw rule (brokenBy_derive.1 hrule)

/-- Loading a document that can be read succeeds exactly if no attribute at any depth breaks a rule,
and fails with the first violation otherwise. The attributes of a loaded schema, at every depth, are
what templates rely on. -/
theorem load_exact {content : Content} {schema : Schema} (h : written content = .ok schema) :
    ((∃ loaded, loadContent content = .ok loaded) ↔ KeepsRules schema) ∧
      (¬ KeepsRules schema → ∃ visit violation, FirstViolation schema visit violation ∧
        loadContent content = .error (.invalid violation)) ∧
      ∀ loaded, loadContent content = .ok loaded →
        ∀ visit : Visit, visit.In loaded.attributes → visit.attr.Fits := by
  have hload := loadContent_written h
  cases hfirst : firstViolation? schema.derive with
  | none =>
      have hkeeps := firstViolation_eq_none_iff.1 hfirst
      rw [hfirst] at hload
      refine ⟨⟨fun _ => hkeeps, fun _ => ⟨_, hload⟩⟩, fun hbroken => absurd hkeeps hbroken, ?_⟩
      intro loaded hloaded visit hvisit
      obtain rfl : schema.derive = loaded := Except.ok.inj (hload.symm.trans hloaded)
      obtain ⟨raw, hraw, rfl⟩ := in_derive_iff.1 hvisit
      exact Attribute.fits fun rule hrule => hkeeps raw hraw rule (brokenBy_derive.1 hrule)
  | some violation =>
      obtain ⟨visit, hvisit⟩ := firstViolation_eq_some_iff.1 hfirst
      have hbroken : ¬ KeepsRules schema := fun hkeeps =>
        hkeeps visit hvisit.stands violation.rule hvisit.broken
      rw [hfirst] at hload
      refine ⟨⟨fun ⟨loaded, hloaded⟩ => ?_, fun hkeeps => absurd hkeeps hbroken⟩,
        fun _ => ⟨visit, violation, hvisit, hload⟩, fun loaded hloaded => ?_⟩
      all_goals
        rw [hload] at hloaded
        cases hloaded

/-- A document with a map in a list. The map has an element type, which is not supported, and is an
ordered list, which it cannot be. -/
def nestedMap : Content :=
  .text ("name: X\nrest_endpoint: x\nattributes:\n- model_name: aB\n  type: List\n" ++
    "  attributes:\n  - {model_name: c, type: Map, element_type: Map, ordered_list: true}\n")

/-- Of the two rules that the map breaks, the first is reported, with the path to the map. -/
theorem load_exact_nested_map :
    ∃ schema, written nestedMap = .ok schema ∧
      ((∃ loaded, loadContent nestedMap = .ok loaded) ↔ KeepsRules schema) ∧
      (¬ KeepsRules schema → ∃ visit violation, FirstViolation schema visit violation ∧
        loadContent nestedMap = .error (.invalid violation)) ∧
      (∀ loaded, loadContent nestedMap = .ok loaded →
        ∀ visit : Visit, visit.In loaded.attributes → visit.attr.Fits) ∧
      loadContent nestedMap = .error (.invalid ⟨"a_b.c", .mapElementType⟩) := by
  have hfound : (written nestedMap).toOption.bind (firstViolation? ·.derive) =
      some ⟨"a_b.c", .mapElementType⟩ := by
    unfold nestedMap
    rw [written_text, String.toList_append]
    repeat rw [String.toList_ofList]
    decide +kernel
  obtain ⟨schema, hwritten, hfirst⟩ := Option.bind_eq_some_iff.1 hfound
  rw [toOption_eq_some_iff] at hwritten
  obtain ⟨hloads, hfails, hfits⟩ := load_exact hwritten
  have hload := loadContent_written hwritten
  rw [hfirst] at hload
  exact ⟨schema, hwritten, hloads, hfails, hfits, hload⟩

end Stencil.Schema
