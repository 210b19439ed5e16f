import Stencil.Proofs.Standard.Example
import Stencil.Proofs.Standard.Test

/-!
# The limit on nesting

Two standard templates write attributes at every depth, the example of a resource and its test. They
fail at the first attribute that they come to one level below the limit, whether it is composite or
not, while nested types may lie at every level up to the limit. `failure_of_schema` says where the
templates fail, and that one level more than the nested types need is enough for them.
-/

namespace Stencil.Standard

open Schema (Attribute Everywhere Field Levels Visit loadContent nestedTypes)
open Schema.Attribute (visitsAll)
open Template

/-- The artifact with the example of a resource. -/
def exampleArtifact : Artifact :=
  ⟨"resource.tf", "examples/resources/", "/resource.tf", .document, .resource⟩

/-- The artifact with the test of a resource. -/
def testArtifact : Artifact := ⟨"resource_test.rs", "tests/resource_", ".rs", .code, .resource⟩

/-- The artifacts whose templates write attributes at every depth, with the fields that each
shows. -/
def deepArtifacts : List (Artifact × (Field → Bool)) :=
  [(exampleArtifact, Example.visible), (testArtifact, Test.visible)]

/-- The template of the example. -/
theorem ofArtifact_example : ofArtifact exampleArtifact = Example.source := by
  simp [ofArtifact, exampleArtifact, text?, Example.source]

/-- The template of the test. -/
theorem ofArtifact_test : ofArtifact testArtifact = Test.source := by
  simp [ofArtifact, testArtifact, text?, Test.source]

/-- A template comes to what is met, which stands one level below the limit. -/
def TooDeep (visible : Field → Bool) (limit : Nat) (visit : Visit) : Prop :=
  visit.position.length = limit + 1 ∧ Reached visible visit

/-- The failure of a template at what is met. -/
def failureAt (limit : Nat) (visit : Visit) : RenderFault :=
  .failed (.failed (tooDeepMessage visit.attr.field.tfName limit))

/-- It is the first of what is met that stands too deep. -/
def FirstTooDeep (visible : Field → Bool) (limit : Nat) (attributes : List Attribute)
    (visit : Visit) : Prop :=
  visit.In attributes ∧ TooDeep visible limit visit ∧
    ∀ earlier : Visit, earlier.In attributes → earlier.position < visit.position →
      ¬ TooDeep visible limit earlier

variable {visible : Field → Bool} {limit : Nat} {attributes : List Attribute} {visit : Visit}

/-- What a recursive loop finds to stand too deep. -/
theorem tooDeep_eq_some {fault : Fault} : tooDeep? visible limit 1 visit = some fault ↔
    TooDeep visible limit visit ∧ RenderFault.failed fault = failureAt limit visit := by
  have hlength : visit.position.length + 1 = limit + 2 ↔ visit.position.length = limit + 1 := by
    omega
  rw [tooDeep?, failureAt, RenderFault.failed.injEq, Option.ite_none_right_eq_some,
    Option.some.injEq, TooDeep, hlength, eq_comm (a := fault)]

/-- What a loop finds first is the first that stands too deep. -/
theorem findSome_tooDeep {fault : Fault} :
    (visitsAll 0 attributes).findSome? (tooDeep? visible limit 1) = some fault ↔
      ∃ visit, FirstTooDeep visible limit attributes visit ∧
        RenderFault.failed fault = failureAt limit visit := by
  have hnone {earlier : Visit} : tooDeep? visible limit 1 earlier = none ↔
      ¬ TooDeep visible limit earlier := by
    rw [Option.eq_none_iff_forall_ne_some]
    simp [tooDeep_eq_some, failureAt]
  rw [Schema.findSome_visits]
  simp only [tooDeep_eq_some, hnone, FirstTooDeep]
  tauto

/-- A text with a recursive loop in it fails at the first attribute that stands too deep. -/
theorem failure_iff (text : NestedText) {before after : String} {fault : RenderFault} :
    (andThen (.ok before) (andThen (text.writeAll limit 1 attributes) (.ok after))).mapError
        RenderFault.failed = .error fault ↔
      ∃ visit, FirstTooDeep text.visible limit attributes visit ∧
        fault = failureAt limit visit := by
  have hbefore : Ends (.ok before) none := ⟨_, rfl⟩
  have hafter : Ends (.ok after) none := ⟨_, rfl⟩
  have htext : Ends (text.writeAll limit 1 attributes) _ :=
    text.writeAll_ends (Nat.le_add_left 1 limit) 0
  have hends := hbefore.andThen (htext.andThen hafter)
  rw [Option.none_or, Option.or_none] at hends
  have hfailed : (andThen (.ok before) (andThen (text.writeAll limit 1 attributes)
      (.ok after))).mapError RenderFault.failed = .error fault ↔
      ∃ found, (visitsAll 0 attributes).findSome? (tooDeep? text.visible limit 1) = some found ∧
        fault = .failed found := by
    cases hfound : (visitsAll 0 attributes).findSome? (tooDeep? text.visible limit 1) with
    | none =>
        obtain ⟨written, hwritten⟩ := hfound ▸ hends
        simp [hwritten]
    | some found =>
        have hfault : _ = Except.error found := hfound ▸ hends
        simp [hfault, eq_comm]
  rw [hfailed]
  constructor
  · rintro ⟨found, hfound, rfl⟩
    exact findSome_tooDeep.1 hfound
  · rintro ⟨visit, hvisit, rfl⟩
    exact ⟨_, findSome_tooDeep.2 ⟨visit, hvisit, rfl⟩, rfl⟩

/-- The template of an artifact fails at the first attribute that stands too deep for it. -/
theorem render_deep_iff {content : Content} {schema : Schema}
    (hload : loadContent content = .ok schema) {pair : Artifact × (Field → Bool)}
    (hpair : pair ∈ deepArtifacts) (config : Config) (limit : Nat) (fault : RenderFault) :
    (ofArtifact pair.1).render ⟨limit⟩ (Project.schemaContext config schema) = .error fault ↔
      ∃ visit, FirstTooDeep pair.2 limit schema.attributes visit ∧
        fault = failureAt limit visit := by
  have hbounded := Schema.loaded_bounded hload
  have hrange : Everywhere (·.field.InRange) schema.attributes :=
    fun visit hvisit => (hbounded visit hvisit).1
  have hlevels : Levels 64 schema.attributes := fun visit hvisit => (hbounded visit hvisit).2
  simp only [deepArtifacts, List.mem_cons, List.not_mem_nil, or_false] at hpair
  rcases hpair with rfl | rfl
  · rw [ofArtifact_example, Example.render_source hrange hlevels, Example.written]
    exact failure_iff Example.block
  · obtain ⟨before, hrender⟩ := Test.render_source hrange hlevels ⟨limit⟩ config
    rw [ofArtifact_test, hrender]
    exact failure_iff Test.block

/-- The templates that write the attributes of a loaded schema at every depth fail exactly at the
first attribute that they come to one level below the limit. If the nested types are within a limit,
such an attribute has no children, and the templates do not fail under any greater limit. -/
theorem failure_of_schema {content : Content} {schema : Schema}
    (hload : loadContent content = .ok schema) :
    ∀ pair ∈ deepArtifacts, ∀ (config : Config) (limit : Nat),
      (∀ fault, (ofArtifact pair.1).render ⟨limit⟩ (Project.schemaContext config schema) =
          .error fault ↔
        ∃ visit, FirstTooDeep pair.2 limit schema.attributes visit ∧
          fault = failureAt limit visit) ∧
      ∀ deepest types, nestedTypes schema.attributes deepest = .ok types →
        (deepest = limit → ∀ visit, FirstTooDeep pair.2 limit schema.attributes visit →
          visit.attr.children = []) ∧
        (deepest < limit → ∃ text,
          (ofArtifact pair.1).render ⟨limit⟩ (Project.schemaContext config schema) = .ok text) := by
  intro pair hpair config limit
  have hfails := render_deep_iff hload hpair config limit
  refine ⟨hfails, fun deepest types htypes => ?_⟩
  obtain ⟨hlevels, hcomposites⟩ := Schema.nestedTypes_levels htypes
  refine ⟨?_, fun hless => ?_⟩
  · rintro rfl visit ⟨hin, ⟨hdeep, -⟩, -⟩
    by_contra hchildren
    have hlevel := hcomposites visit (Schema.mem_visits.2 hin) (by
      simpa [Attribute.isComposite] using hchildren)
    omega
  · cases hrender : (ofArtifact pair.1).render ⟨limit⟩ (Project.schemaContext config schema) with
    | ok text => exact ⟨text, rfl⟩
    | error fault =>
        obtain ⟨visit, ⟨hin, ⟨hdeep, -⟩, -⟩, -⟩ := (hfails fault).1 hrender
        have hlevel := hlevels visit (Schema.mem_visits.2 hin)
        omega

/-- A document with a list of objects in a list of objects, which examples do not show. -/
def hiddenList : Content :=
  .text ("name: X\nrest_endpoint: x\nattributes:\n- model_name: a\n  type: List\n" ++
    "  exclude_example: true\n  attributes:\n  - model_name: b\n    type: List\n" ++
    "    attributes:\n    - {model_name: c, type: Int64, example: 7}\n")

/-- The example does not come to the integer in the lists, and so does not fail where the test
does. -/
theorem failure_of_schema_hidden_list :
    ∃ schema types, loadContent hiddenList = .ok schema ∧
      nestedTypes schema.attributes 2 = .ok types ∧ ∀ config,
        (∃ text, (ofArtifact exampleArtifact).render ⟨2⟩ (Project.schemaContext config schema) =
          .ok text) ∧
        (ofArtifact testArtifact).render ⟨2⟩ (Project.schemaContext config schema) =
          .error (.failed (.failed "attribute 'c' is nested deeper than 2 levels")) ∧
        ∃ text, (ofArtifact testArtifact).render ⟨3⟩ (Project.schemaContext config schema) =
          .ok text := by
  have hfound : ((loadContent hiddenList).toOption.bind fun schema =>
      (nestedTypes schema.attributes 2).toOption.map fun types => deepArtifacts.map fun pair =>
        (visitsAll 0 schema.attributes).findSome? (tooDeep? pair.2 2 1)) =
      some [none, some (.failed "attribute 'c' is nested deeper than 2 levels")] := by
    unfold hiddenList
    rw [Schema.loadContent_eq, Schema.written_text, String.toList_append, String.toList_append]
    repeat rw [String.toList_ofList]
    decide +kernel
  obtain ⟨schema, hschema, hfound⟩ := Option.bind_eq_some_iff.1 hfound
  obtain ⟨types, htypes, hfound⟩ := Option.map_eq_some_iff.1 hfound
  rw [toOption_eq_some_iff] at hschema htypes
  obtain ⟨hexample, htest⟩ : (visitsAll 0 schema.attributes).findSome?
        (tooDeep? Example.visible 2 1) = none ∧
      (visitsAll 0 schema.attributes).findSome? (tooDeep? Test.visible 2 1) =
        some (.failed "attribute 'c' is nested deeper than 2 levels") := by
    simpa [deepArtifacts] using hfound
  have hfails := failure_of_schema hschema
  have hexampleMem : (exampleArtifact, Example.visible) ∈ deepArtifacts := List.mem_cons_self
  have htestMem : (testArtifact, Test.visible) ∈ deepArtifacts :=
    List.mem_cons_of_mem _ List.mem_cons_self
  refine ⟨schema, types, hschema, htypes, fun config => ⟨?_, ?_, ?_⟩⟩
  · obtain ⟨hfailure, -⟩ := hfails _ hexampleMem config 2
    cases hrender :
        (ofArtifact exampleArtifact).render ⟨2⟩ (Project.schemaContext config schema) with
    | ok text => exact ⟨text, rfl⟩
    | error fault =>
        obtain ⟨visit, hvisit, -⟩ := (hfailure fault).1 hrender
        rw [findSome_tooDeep.2 ⟨visit, hvisit, rfl⟩] at hexample
        cases hexample
  · exact ((hfails _ htestMem config 2).1 _).2 (findSome_tooDeep.1 htest)
  · exact ((hfails _ htestMem config 3).2 2 types htypes).2 (by decide)

/-- A document with a text in a list of objects. -/
def textInList : Content :=
  .text ("name: X\nrest_endpoint: x\nattributes:\n- model_name: a\n  type: List\n" ++
    "  attributes:\n  - {model_name: b, type: String, example: v}\n")

/-- The only composite attribute is at the first level, which is the limit, and yet both templates
fail. -/
theorem failure_within_limit :
    ∃ schema types, loadContent textInList = .ok schema ∧
      nestedTypes schema.attributes 1 = .ok types ∧ ∀ pair ∈ deepArtifacts, ∀ config,
        (ofArtifact pair.1).render ⟨1⟩ (Project.schemaContext config schema) =
          .error (.failed (.failed "attribute 'b' is nested deeper than 1 levels")) := by
  have hfound : ((loadContent textInList).toOption.bind fun schema =>
      (nestedTypes schema.attributes 1).toOption.map fun types => deepArtifacts.map fun pair =>
        (visitsAll 0 schema.attributes).findSome? (tooDeep? pair.2 1 1)) =
      some (deepArtifacts.map fun _ =>
        some (.failed "attribute 'b' is nested deeper than 1 levels")) := by
    unfold textInList
    rw [Schema.loadContent_eq, Schema.written_text, String.toList_append]
    repeat rw [String.toList_ofList]
    decide +kernel
  obtain ⟨schema, hschema, hfound⟩ := Option.bind_eq_some_iff.1 hfound
  obtain ⟨types, htypes, hfound⟩ := Option.map_eq_some_iff.1 hfound
  rw [toOption_eq_some_iff] at hschema htypes
  refine ⟨schema, types, hschema, htypes, fun pair hpair config => ?_⟩
  have htooDeep := List.map_inj_left.1 hfound pair hpair
  exact (render_deep_iff hschema hpair config 1 _).2 (findSome_tooDeep.1 htooDeep)

end Stencil.Standard
