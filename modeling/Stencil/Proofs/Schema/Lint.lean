import Stencil.Proofs.Schema.Siblings
import Stencil.Schema.Lint

/-!
# What lint finds

The issues of a schema are the findings at its attributes, each located at the path of the
attribute, in the order in which a walk meets the attributes (`reports_lint`). What is found at an
attribute depends on its field and on the names of its earlier siblings only. So there is an error
exactly if two siblings have one name or some pair of bounds is inverted (`hasErrors_lint_iff`), and
in a schema without errors the siblings at every level have different external names
(`distinct_of_clean`).
-/

namespace Stencil.Schema

open Attribute (visitsAll lintAll)

/-- Siblings have different external names. -/
def Distinct (siblings : List Attribute) : Prop :=
  (siblings.map (·.field.tfName)).Nodup

/-- Both bounds of a pair are there, and the lower one is greater than the upper one. -/
def Bounds.Inverted (field : Field) : Bounds → Prop
  | .list => ∃ low high, field.minList = some low ∧ field.maxList = some high ∧ low > high
  | .int => ∃ low high, field.minInt = some low ∧ field.maxInt = some high ∧ low > high
  | .float => ∃ low high, field.minFloat = some low ∧ field.maxFloat = some high ∧ low > high
  | .length =>
    ∃ low high, field.stringMinLength = some low ∧ field.stringMaxLength = some high ∧ low > high

/-- The place of a finding among those at one attribute. -/
def Finding.rank : Finding → Nat
  | .duplicateName _ => 0
  | .invertedBounds .list => 1
  | .invertedBounds .int => 2
  | .invertedBounds .float => 3
  | .invertedBounds .length => 4
  | .enumOnNonString _ => 5
  | .untestedMandatory => 6

/-- Where an issue at an attribute is located. -/
def Visit.location (schema : Schema) (visit : Visit) : String :=
  schema.header.name ++ ":" ++ visit.path ""

/-- What is found at an attribute of a tree: at most one finding of each kind, in order. -/
structure Found (attributes : List Attribute) (visit : Visit) (findings : List Finding) : Prop where
  ordered : findings.Pairwise (·.rank < ·.rank)
  duplicate : ∀ name, .duplicateName name ∈ findings ↔
    name = visit.attr.field.tfName ∧ ∃ earlier : Visit, earlier.In attributes ∧
      earlier.position < visit.position ∧ earlier.Namesakes visit
  inverted : ∀ bounds, .invertedBounds bounds ∈ findings ↔ bounds.Inverted visit.attr.field
  enumerated : ∀ type, .enumOnNonString type ∈ findings ↔
    type = visit.attr.field.type ∧ type ≠ .string ∧ visit.attr.field.enumValues ≠ []
  untested : .untestedMandatory ∈ findings ↔
    visit.attr.field.mandatory = true ∧ visit.attr.field.excludeTest = true ∧
      visit.attr.field.exampleValue = none ∧ visit.attr.field.testValue = none

/-- The issues of a schema are what is found at its attributes. These come in the order of their
positions and have the paths that they are located at when the rules of schemas are checked. Among
siblings there are as many repeated names as siblings without their different names. -/
structure Reports (schema : Schema) (visits : List Visit) (found : Visit → List Finding) :
    Prop where
  sorted : visits.Pairwise (·.position < ·.position)
  mem_iff : ∀ visit : Visit, visit ∈ visits ↔ visit.In schema.attributes
  lint_eq : lint schema =
    visits.flatMap fun visit => (found visit).map (Issue.mk (visit.location schema))
  exact : ∀ visit ∈ visits, Found schema.attributes visit (found visit)
  located_eq : schema.located = visits.map fun visit => (visit.path "", visit.attr)
  repeated : ∀ place above, way? schema.attributes place = some above →
    let siblings := siblingsBelow schema.attributes above
    ((visits.filter (·.position.dropLast = place)).flatMap found).countP
        (fun finding => finding.kind = "duplicate_name") +
      (siblings.map (·.field.tfName)).toFinset.card = siblings.length

variable {attributes : List Attribute} {visit : Visit} {field : Field}

/-- What is found at an attribute that a walk meets. -/
def Visit.findings (attributes : List Attribute) (visit : Visit) : List Finding :=
  visit.attr.field.findings (visit.earlierNames attributes)

/-- Bounds are inverted exactly if both are there in the wrong order. -/
theorem inverted_iff {α : Type} [LT α] [DecidableLT α] {low high : Option α} :
    inverted low high = true ↔
      ∃ least most, low = some least ∧ high = some most ∧ least > most := by
  cases low <;> cases high <;> simp [inverted]

/-- A pair of bounds is found inverted exactly if it is. -/
theorem areInverted_iff {bounds : Bounds} :
    bounds.areInverted field = true ↔ bounds.Inverted field := by
  cases bounds <;> exact inverted_iff

/-- Only which names are those of earlier siblings counts for what is found. -/
theorem findings_congr {earlier other : List String}
    (h : ∀ name, name ∈ earlier ↔ name ∈ other) :
    field.findings earlier = field.findings other := by
  simp [Field.findings, h]

/-- Findings at a field come in the order of their ranks. -/
theorem findings_ordered (earlier : List String) (field : Field) :
    (field.findings earlier).Pairwise (·.rank < ·.rank) := by
  have hoptional : ∀ (holds : Prop) [Decidable holds] (finding : Finding),
      (if holds then [finding] else []).Sublist [finding] := by
    intro holds _ finding
    split <;> simp
  have hsublist : (field.findings earlier).Sublist
      ([Finding.duplicateName field.tfName] ++
        [Bounds.list, .int, .float, .length].map Finding.invertedBounds ++
        [Finding.enumOnNonString field.type] ++ [Finding.untestedMandatory]) :=
    (((hoptional _ _).append (List.filter_sublist.map _)).append (hoptional _ _)).append
      (hoptional _ _)
  refine List.Pairwise.sublist hsublist ?_
  simp [Finding.rank]

/-- What is found at an attribute of a tree. -/
theorem found_findings (h : visit.In attributes) :
    Found attributes visit (visit.findings attributes) where
  ordered := findings_ordered _ _
  duplicate name := by
    have hname : visit.attr.field.tfName ∈ visit.earlierNames attributes ↔
        ∃ earlier : Visit, earlier.In attributes ∧ earlier.position < visit.position ∧
          earlier.Namesakes visit := mem_earlierNames h
    rw [← hname]
    simp [Visit.findings, Field.findings, and_comm]
  inverted bounds := by
    rw [← areInverted_iff]
    cases bounds <;> simp [Visit.findings, Field.findings]
  enumerated type := by
    have hmem : .enumOnNonString type ∈ visit.findings attributes ↔
        (visit.attr.field.enumValues ≠ [] ∧ visit.attr.field.type ≠ .string) ∧
          type = visit.attr.field.type := by
      simp [Visit.findings, Field.findings]
    rw [hmem]
    constructor
    · rintro ⟨⟨hvalues, htype⟩, rfl⟩
      exact ⟨rfl, htype, hvalues⟩
    · rintro ⟨rfl, htype, hvalues⟩
      exact ⟨⟨hvalues, htype⟩, rfl⟩
  untested := by
    simp [Visit.findings, Field.findings, and_assoc]

/-- The issues of siblings are the findings at the attributes that a walk meets. -/
theorem lintAll_eq (schemaName parent : String) {earlier : List String}
    (before attributes : List Attribute)
    (hearlier : ∀ name, name ∈ earlier ↔ name ∈ before.map (·.field.tfName)) :
    lintAll schemaName parent earlier attributes =
      (visitsAll before.length attributes).flatMap fun visit =>
        (visit.findings (before ++ attributes)).map
          (Issue.mk (schemaName ++ ":" ++ visit.path parent)) := by
  -- The siblings met before are carried along, and start anew among the children.
  induction attributes using forest_induction generalizing parent earlier before with
  | nil => rfl
  | cons field children rest ihChildren ihRest =>
      have hfirst : field.findings earlier =
          Visit.findings (before ++ ⟨field, children⟩ :: rest)
            ⟨[before.length], [], ⟨field, children⟩⟩ := by
        refine findings_congr fun name => ?_
        simp [hearlier, Visit.earlierNames, siblingsBelow]
      have hrest : ∀ name, name ∈ field.tfName :: earlier ↔
          name ∈ (before ++ [Attribute.mk field children]).map (·.field.tfName) := by
        intro name
        simp [hearlier, or_comm]
      rw [lintAll, Attribute.lint, ihChildren _ [] (by simp), ihRest _ _ hrest, visitsAll_cons,
        List.flatMap_cons, List.flatMap_append, List.flatMap_map, hfirst]
      -- An attribute below has its path and its earlier siblings from there.
      simp only [Visit.findings, earlierNames_below, List.nil_append, List.append_assoc,
        List.cons_append, List.length_append, List.length_cons, List.length_nil, Nat.zero_add]
      rfl

/-- The issues of a schema are the findings at its attributes. -/
theorem lint_eq_visits (schema : Schema) :
    lint schema = (visitsAll 0 schema.attributes).flatMap fun visit =>
      (visit.findings schema.attributes).map (Issue.mk (visit.location schema)) :=
  lintAll_eq schema.header.name "" [] schema.attributes (by simp)

/-- A finding is counted among repeated names exactly if the name is one of an earlier sibling. -/
theorem countP_findings (earlier : List String) (field : Field) :
    (field.findings earlier).countP (fun finding => finding.kind = "duplicate_name") =
      if field.tfName ∈ earlier then 1 else 0 := by
  simp only [Field.findings, List.countP_append, apply_ite (List.countP _), List.countP_map,
    List.countP_singleton, List.countP_nil]
  simp [Finding.kind, Function.comp_def]

/-- What counts once for some members of a list, and for others not at all, is counted as these
members are. -/
theorem countP_flatMap_of_single {α β : Type} {list : List α} {parts : α → List β}
    {counts : β → Bool} {holds : α → Prop} [DecidablePred holds]
    (h : ∀ item ∈ list, (parts item).countP counts = if holds item then 1 else 0) :
    (list.flatMap parts).countP counts = list.countP (holds ·) := by
  induction list with
  | nil => rfl
  | cons item rest ih =>
      obtain ⟨hitem, hrest⟩ := List.forall_mem_cons.1 h
      rw [List.flatMap_cons, List.countP_append, hitem, ih hrest, List.countP_cons, Nat.add_comm]
      simp

/-- Among siblings as many names are found repeated as there are siblings without their different
names. -/
theorem countP_repeated_at {place : List Nat} {above : List Attribute}
    (h : way? attributes place = some above) :
    (((visitsAll 0 attributes).filter (·.position.dropLast = place)).flatMap
        (Visit.findings attributes)).countP (fun finding => finding.kind = "duplicate_name") +
      ((siblingsBelow attributes above).map (·.field.tfName)).toFinset.card =
        (siblingsBelow attributes above).length := by
  have hcount := countP_repeated ((siblingsBelow attributes above).map (·.field.tfName))
  rw [List.zipIdx_map, List.countP_map, List.length_map] at hcount
  rw [visits_at h, List.flatMap_map, ← hcount]
  congr 1
  refine countP_flatMap_of_single fun (attr, index) _ => ?_
  rw [Visit.findings, countP_findings, earlierNames_concat h rfl]
  rfl

/-- What lint reports. -/
theorem reports_lint (schema : Schema) :
    Reports schema (visitsAll 0 schema.attributes) (Visit.findings schema.attributes) where
  sorted := visits_sorted 0 schema.attributes
  mem_iff _ := mem_visits
  lint_eq := lint_eq_visits schema
  exact _ hvisit := found_findings (mem_visits.1 hvisit)
  located_eq := located_eq_visits "" 0 schema.attributes
  repeated _ _ h := countP_repeated_at h

/-- A finding is an error exactly if it is a repeated name or an inverted pair of bounds. -/
theorem severity_error_iff {finding : Finding} : finding.severity = .error ↔
    (∃ name, finding = .duplicateName name) ∨ ∃ bounds, finding = .invertedBounds bounds := by
  cases finding <;> simp [Finding.severity]

/-- There is an error exactly if two siblings have one name or a pair of bounds is inverted. -/
theorem hasErrors_lint_iff {schema : Schema} :
    hasErrors (lint schema) = true ↔
      (∃ first second : Visit, first.In schema.attributes ∧ second.In schema.attributes ∧
        first.position ≠ second.position ∧ first.Namesakes second) ∨
      ∃ visit : Visit, visit.In schema.attributes ∧
        ∃ bounds : Bounds, bounds.Inverted visit.attr.field := by
  have herror : hasErrors (lint schema) = true ↔ ∃ visit : Visit, visit.In schema.attributes ∧
      ∃ finding ∈ visit.findings schema.attributes, finding.severity = .error := by
    simp [hasErrors, lint_eq_visits, mem_visits]
  rw [herror]
  constructor
  · rintro ⟨visit, hvisit, finding, hfinding, hseverity⟩
    have hfound := found_findings hvisit
    obtain ⟨name, rfl⟩ | ⟨bounds, rfl⟩ := severity_error_iff.1 hseverity
    · obtain ⟨-, earlier, hearlier, hless, hsame⟩ := (hfound.duplicate name).1 hfinding
      exact .inl ⟨earlier, visit, hearlier, hvisit, ne_of_lt hless, hsame⟩
    · exact .inr ⟨visit, hvisit, bounds, (hfound.inverted bounds).1 hfinding⟩
  · rintro (⟨first, second, hfirst, hsecond, hne, hsame⟩ | ⟨visit, hvisit, bounds, hinverted⟩)
    · -- The later one of the two is found to repeat the name.
      wlog hless : first.position < second.position generalizing first second
      · exact this second first hsecond hfirst hne.symm ⟨hsame.1.symm, hsame.2.symm⟩
          ((lt_or_gt_of_ne hne).resolve_left hless)
      exact ⟨second, hsecond, _,
        ((found_findings hsecond).duplicate _).2 ⟨rfl, first, hfirst, hless, hsame⟩, rfl⟩
    · exact ⟨visit, hvisit, _, ((found_findings hvisit).inverted bounds).2 hinverted, rfl⟩

/-- A schema without errors has different external names among siblings at every level. -/
theorem distinct_of_clean {schema : Schema} (h : hasErrors (lint schema) = false) :
    EveryLevel Distinct schema.attributes := by
  have hdistinct : ∀ place above, way? schema.attributes place = some above →
      Distinct (siblingsBelow schema.attributes above) := by
    intro place above hplace
    refine List.nodup_iff_getElem?_ne_getElem?.2 fun first second hless hsecond hsame => ?_
    rw [List.length_map] at hsecond
    have hfirst := hless.trans hsecond
    rw [List.getElem?_map, List.getElem?_map, List.getElem?_eq_getElem hfirst,
      List.getElem?_eq_getElem hsecond] at hsame
    rw [Bool.eq_false_iff, ne_eq, hasErrors_lint_iff] at h
    exact h (.inl ⟨_, _, in_of_sibling hplace (List.getElem?_eq_getElem hfirst),
      in_of_sibling hplace (List.getElem?_eq_getElem hsecond), ne_of_lt (concat_lt_concat.2 hless),
      by simp, Option.some.inj hsame⟩)
  refine ⟨hdistinct [] [] rfl, fun visit hvisit => ?_⟩
  have hchildren := hdistinct visit.position visit.way (mem_visits.1 hvisit)
  simpa [siblingsBelow, Visit.way] using hchildren

end Stencil.Schema
