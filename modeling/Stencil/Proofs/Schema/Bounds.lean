import Stencil.Proofs.Outcome
import Stencil.Proofs.Schema.Codec
import Stencil.Proofs.Schema.Validation

/-!
# Bounds on documents

What a document can hold is bounded: integers have 64 bits, and since collections are nested at most
128 deep, and each attribute with its list of children is two of them, attributes stand at most 64
deep (`loaded_bounded`). An invariant of a step is one of all entries of a mapping
(`eachEntry_invariant`), whatever aliases are followed on the way.
-/

namespace Stencil.Schema

open Attribute (visitsAll)
open Yaml (Node)

/-- The reading comes to the value, from some bound on the aliases that may be followed. -/
def Yields {α : Type} (reading : Following α) (value : α) : Prop :=
  ∃ left rest, reading.run left = .ok (value, rest)

/-- The deepest level at which a document can hold an attribute. -/
def maxLevel : Nat := 64

/-- The integers of a field have 64 bits, and it stands so deep that twice its depth is within a
bound. -/
def Visit.Bounded (bound : Nat) (visit : Visit) : Prop :=
  visit.attr.field.InRange ∧ 2 * visit.position.length ≤ bound

section Following

variable {α β : Type} {value : α}

/-- A sequence comes to a value only if its first part and what follows do. -/
theorem Yields.of_bind {first : Following β} {next : β → Following α}
    (h : Yields (first >>= next) value) : ∃ middle, Yields first middle ∧
      Yields (next middle) value := by
  obtain ⟨left, rest, h⟩ := h
  obtain ⟨⟨middle, between⟩, hfirst, hnext⟩ := bind_ok_iff.1 h
  exact ⟨middle, ⟨left, between, hfirst⟩, between, rest, hnext⟩

/-- What is decoded without following aliases. -/
theorem Yields.of_lift {decoded : Decoded α} (h : Yields (liftM decoded) value) :
    decoded = .ok value := by
  obtain ⟨left, rest, h⟩ := h
  obtain ⟨middle, hdecoded, hpure⟩ := bind_ok_iff.1 h
  cases hpure
  exact hdecoded

/-- A value comes to itself. -/
theorem Yields.of_pure {other : α} (h : Yields (pure other) value) : other = value := by
  obtain ⟨left, rest, h⟩ := h
  cases h
  rfl

/-- Each of several values is what one of the steps comes to. -/
theorem Yields.of_mapM {list : List β} {step : β → Following α} {values : List α}
    (h : Yields (list.mapM step) values) : ∀ value ∈ values, ∃ item, Yields (step item) value := by
  induction list generalizing values with
  | nil =>
      obtain rfl : [] = values := Yields.of_pure h
      simp
  | cons item rest ih =>
      rw [List.mapM_cons] at h
      obtain ⟨first, hfirst, h⟩ := h.of_bind
      obtain ⟨others, hothers, h⟩ := h.of_bind
      obtain rfl := h.of_pure
      exact List.forall_mem_cons.2 ⟨⟨item, hfirst⟩, ih hothers⟩

/-- What every step keeps is kept by all entries of a mapping. -/
theorem eachEntry_invariant {κ σ : Type} {anchors : Anchors} {ofName? : String → Option κ}
    {step : κ → Node → σ → Following σ} {holds : σ → Prop}
    (hstep : ∀ key node state after, holds state → Yields (step key node state) after →
      holds after)
    {entries : List (Node × Node)} {state after : σ} (hstate : holds state)
    (h : Yields (eachEntry anchors ofName? step entries state) after) : holds after := by
  induction entries generalizing state with
  | nil =>
      obtain rfl : state = after := Yields.of_pure h
      exact hstate
  | cons entry rest ih =>
      obtain ⟨key, node⟩ := entry
      obtain ⟨followed, -, h⟩ := Yields.of_bind h
      obtain ⟨name, -, h⟩ := Yields.of_bind h
      split at h
      · next known _ =>
          obtain ⟨between, hbetween, h⟩ := Yields.of_bind h
          exact ih (hstep known node state between hstate hbetween) h
      · split at h
        · exact ih hstate h
        · cases (Yields.of_lift h)

end Following

/-- Attributes are bounded if each is and so is what stands below it. -/
theorem bounded_of_each {bound : Nat} {attributes : List Attribute} (hbound : 2 ≤ bound)
    (h : ∀ attr ∈ attributes, attr.field.InRange ∧
      ∀ visit ∈ visitsAll 0 attr.children, visit.Bounded (bound - 2)) :
    ∀ index, ∀ visit ∈ visitsAll index attributes, visit.Bounded bound := by
  induction attributes with
  | nil => simp [visitsAll]
  | cons attr rest ih =>
      intro index
      obtain ⟨⟨hrange, hbelow⟩, hrest⟩ := List.forall_mem_cons.1 h
      rw [visitsAll_cons, List.forall_mem_cons, List.forall_mem_append, List.forall_mem_map]
      refine ⟨⟨hrange, hbound⟩, fun visit hvisit => ?_, ih hrest (index + 1)⟩
      obtain ⟨hfield, hdepth⟩ := hbelow visit hvisit
      refine ⟨hfield, ?_⟩
      rw [Visit.below, List.length_cons]
      omega

/-- An optional integer that is read has 64 bits. -/
theorem optional_integer_inRange {node : Node} {option : Option Int}
    (h : nodeSource.optional nodeSource.integer node = .ok option) {value : Int}
    (hvalue : option = some value) : inIntRange value = true := by
  subst hvalue
  obtain ⟨absent, -, h⟩ := bind_ok_iff.1 h
  split at h
  · cases h
  · obtain ⟨read, hread, hsome⟩ := bind_ok_iff.1 h
    obtain rfl : read = value := Option.some.inj (Except.ok.inj hsome)
    change valueOfNode Yaml.intTag _ node = _ at hread
    rw [valueOfNode] at hread
    split at hread
    · next found hfound =>
        obtain rfl : found = read := Except.ok.inj hread
        obtain ⟨text, -, hfound⟩ := Option.bind_eq_some_iff.1 hfound
        exact (Option.filter_eq_some_iff.1 hfound).2
    · cases hread

/-- A field of which one more property is read keeps its integers within 64 bits. -/
theorem read_inRange {field after : Field} {key : AttributeKey} {node : Node}
    (h : field.InRange) (hread : field.read nodeSource key node = .ok after) : after.InRange := by
  cases key
  case attributes =>
    cases hread
    exact h
  case minList | maxList | minInt | maxInt | stringMinLength | stringMaxLength =>
    obtain ⟨value, hvalue, hafter⟩ := bind_ok_iff.1 hread
    have hnew (integer : Int) (hinteger : value = some integer) : inIntRange integer = true :=
      optional_integer_inRange hvalue hinteger
    cases hafter
    simp only [Field.InRange, List.forall_mem_cons] at h ⊢
    simp_all
  -- The other properties are no integers.
  all_goals
    obtain ⟨value, -, hafter⟩ := bind_ok_iff.1 hread
    cases hafter
    exact h

/-- An attribute of which some properties have been read, with its children within a bound. -/
def PartialAttribute.Bounded (bound : Nat) (partly : PartialAttribute) : Prop :=
  partly.field.InRange ∧ ∀ visit ∈ visitsAll 0 partly.children, visit.Bounded bound

/-- Nothing that has been read is within every bound. -/
theorem PartialAttribute.blank_bounded (bound : Nat) : PartialAttribute.blank.Bounded bound := by
  simp [Bounded, blank, Field.blank, Field.InRange, visitsAll]

/-- One more entry of an attribute keeps what has been read of it bounded, if the lists of children
that are read are. -/
theorem entry_bounded {anchors : Anchors} {left bound : Nat}
    (hlist : ∀ node attributes, Yields (attributesOfNode anchors left node) attributes →
      ∀ visit ∈ visitsAll 0 attributes, visit.Bounded bound)
    {key : AttributeKey} {node : Node} {partly after : PartialAttribute}
    (hpartly : partly.Bounded bound)
    (h : Yields (do
      let partly ← partly.reserve key
      if key = .attributes then
        let children ← attributesOfNode anchors left (← follow anchors node)
        pure { partly with children }
      else partly.read nodeSource key (← followItems anchors node)) after) :
    after.Bounded bound := by
  obtain ⟨reserved, hreserved, h⟩ := Yields.of_bind h
  obtain ⟨seen, -, hseen⟩ := bind_ok_iff.1 hreserved.of_lift
  cases hseen
  split at h
  · obtain ⟨followed, -, h⟩ := Yields.of_bind h
    obtain ⟨children, hchildren, h⟩ := Yields.of_bind h
    obtain rfl := h.of_pure
    exact ⟨hpartly.1, hlist _ _ hchildren⟩
  · obtain ⟨followed, -, h⟩ := Yields.of_bind h
    obtain ⟨field, hfield, hafter⟩ := bind_ok_iff.1 h.of_lift
    cases hafter
    exact ⟨read_inRange hpartly.1 hfield, hpartly.2⟩

/-- An attribute that has been read is what was read of it. -/
theorem finish_ok {partly : PartialAttribute} {attr : Attribute} (h : partly.finish = .ok attr) :
    attr = ⟨partly.field, partly.children⟩ := by
  obtain ⟨_, -, hattr⟩ := bind_ok_iff.1 h
  exact (Except.ok.inj hattr).symm

/-- Attributes in a document are bounded by the nesting that is left. -/
theorem attributesOfNode_bounded {anchors : Anchors} {left : Nat} {node : Node}
    {attributes : List Attribute} (h : Yields (attributesOfNode anchors left node) attributes) :
    ∀ visit ∈ visitsAll 0 attributes, visit.Bounded (left + 1) := by
  -- An attribute and the list of its children take turns, each within what the other leaves.
  suffices hboth : (∀ node attr, Yields (attributeOfNode anchors left node) attr →
      attr.field.InRange ∧ ∀ visit ∈ visitsAll 0 attr.children, visit.Bounded left) ∧
      ∀ node attributes, Yields (attributesOfNode anchors left node) attributes →
        ∀ visit ∈ visitsAll 0 attributes, visit.Bounded (left + 1) from hboth.2 node attributes h
  clear h
  induction left with
  | zero =>
      refine ⟨fun node attr h => ?_, fun node attributes h => ?_⟩
      · rw [attributeOfNode] at h
        obtain ⟨_, -, h⟩ := h.of_bind
        obtain ⟨_, -, h⟩ := Yields.of_bind h
        rw [finish_ok h.of_lift]
        exact PartialAttribute.blank_bounded 0
      · rw [attributesOfNode] at h
        obtain ⟨_, -, h⟩ := h.of_bind
        obtain ⟨_, -, h⟩ := Yields.of_bind h
        obtain rfl := h.of_pure
        simp [visitsAll]
  | succ left ih =>
      refine ⟨fun node attr h => ?_, fun node attributes h => ?_⟩
      · rw [attributeOfNode] at h
        obtain ⟨entries, -, h⟩ := h.of_bind
        obtain ⟨partly, hpartly, h⟩ := Yields.of_bind h
        have hbounded : partly.Bounded (left + 1) :=
          eachEntry_invariant (fun _ _ _ _ => entry_bounded ih.2)
            (PartialAttribute.blank_bounded _) hpartly
        rw [finish_ok h.of_lift]
        exact hbounded
      · rw [attributesOfNode] at h
        obtain ⟨items, -, h⟩ := h.of_bind
        refine bounded_of_each (by omega) (fun attr hattr => ?_) 0
        obtain ⟨item, hitem⟩ := h.of_mapM attr hattr
        obtain ⟨followed, -, hitem⟩ := hitem.of_bind
        exact ih.1 followed attr hitem

/-- The attributes of a schema of which some properties have been read are bounded. -/
def PartialSchema.Bounded (partly : PartialSchema) : Prop :=
  ∀ visit ∈ visitsAll 0 partly.schema.attributes, visit.Bounded maxNesting

/-- The attributes of a schema that is written in a document are bounded. -/
theorem ofNode_bounded {anchors : Anchors} {root : Node} {schema : Schema}
    (h : Yields (ofNode anchors root) schema) :
    ∀ visit ∈ visitsAll 0 schema.attributes, visit.Bounded maxNesting := by
  obtain ⟨followed, -, h⟩ := Yields.of_bind h
  obtain ⟨entries, -, h⟩ := Yields.of_bind h
  obtain ⟨partly, hpartly, h⟩ := Yields.of_bind h
  obtain ⟨_, -, h⟩ := Yields.of_bind h
  obtain rfl := h.of_pure
  change partly.Bounded
  refine eachEntry_invariant (fun key node partly after hbounded h => ?_) ?_ hpartly
  case refine_2 => simp [PartialSchema.Bounded, visitsAll]
  obtain ⟨seen, -, h⟩ := Yields.of_bind h
  split at h
  · obtain ⟨followed, -, h⟩ := Yields.of_bind h
    obtain ⟨attributes, hattributes, h⟩ := Yields.of_bind h
    obtain rfl := h.of_pure
    exact attributesOfNode_bounded hattributes
  · obtain ⟨followed, -, h⟩ := Yields.of_bind h
    obtain ⟨header, -, h⟩ := Yields.of_bind h
    obtain rfl := h.of_pure
    exact hbounded

/-- The attributes of a schema that is written in a file are bounded. -/
theorem written_bounded {content : Content} {schema : Schema} (h : written content = .ok schema) :
    ∀ visit ∈ visitsAll 0 schema.attributes, visit.Bounded maxNesting := by
  suffices hdocument : ∀ document, ofDocument document = .ok schema →
      ∀ visit ∈ visitsAll 0 schema.attributes, visit.Bounded maxNesting by
    cases content with
    | text text => exact hdocument _ h
    | binary bytes =>
        rw [written] at h
        cases hdecoded : Yaml.decode? bytes with
        | none =>
            rw [hdecoded] at h
            cases h
        | some text =>
            rw [hdecoded] at h
            exact hdocument _ h
  intro document h
  obtain ⟨⟨read, rest⟩, hread, h⟩ := bind_ok_iff.1 h
  cases hcomplete : document.complete with
  | true =>
      rw [hcomplete] at h
      obtain rfl : read = schema := Except.ok.inj h
      exact ofNode_bounded ⟨_, rest, hread⟩
  | false =>
      rw [hcomplete] at h
      cases h

/-- The attributes of a loaded schema have integers of 64 bits, and none stands deeper than a
document can hold it. -/
theorem loaded_bounded {content : Content} {loaded : Schema}
    (h : loadContent content = .ok loaded) :
    ∀ visit ∈ visitsAll 0 loaded.attributes,
      visit.attr.field.InRange ∧ visit.position.length ≤ maxLevel := by
  obtain ⟨schema, hwritten, rfl⟩ := written_of_load h
  rw [derive, visitsAll_derive, List.forall_mem_map]
  intro visit hvisit
  obtain ⟨hrange, hdepth⟩ := written_bounded hwritten visit hvisit
  refine ⟨?_, by unfold maxLevel maxNesting at *; simp only [Visit.derive]; omega⟩
  rw [Visit.derive, derive_eq]
  exact hrange

end Stencil.Schema
