import Stencil.Schema.Derive
import Stencil.Schema.Reading
import Stencil.Schema.Rule
import Stencil.Yaml.Core
import Stencil.Yaml.Encoding

/-!
# Schema documents

Schemas read from YAML. An alias stands for the node that it names. Following aliases could go on
without end, so both the nesting of what is read and the number of aliases followed are bounded, and
a document beyond the bounds counts as malformed. What stands under an unknown key is passed over,
its aliases not followed.
-/

namespace Stencil.Schema

open Yaml (Node)

/-- How deep collections may be nested in what is read. -/
def maxNesting : Nat := 128

/-- The nodes that aliases stand for. -/
abbrev Anchors := List (Nat × Node)

/-- Reading with a bound on the number of aliases that may still be followed. -/
abbrev Following := StateT Nat Decoded

/-- Why a node is not what it should be. -/
def refusal : Node → DecodeFault
  | .broken | .alias _ => .malformed
  | _ => .invalidValue

/-- The text of a scalar. -/
def textOfNode : Node → Decoded String
  | .scalar _ _ text => pure text
  | node => throw (refusal node)

/-- A value that the text of a scalar stands for. -/
def valueOfNode (tag : String) (value? : String → Option α) (node : Node) : Decoded α :=
  match node.valueText? tag >>= value? with
  | some value => pure value
  | none => throw (refusal node)

/-- A type: its name, or its name as a tag of nothing. -/
def typeOfNode (node : Node) : Decoded AttributeType := do
  match node.localTag?, node with
  | some tag, node =>
    let type ← namedType tag
    if isNothing node then pure type else throw .invalidValue
  | none, node => namedType (← textOfNode node)
where
  /-- The type with that name. -/
  namedType (name : String) : Decoded AttributeType :=
    match AttributeType.ofTag? name with
    | some type => pure type
    | none => throw (.unknownVariant name)
  /-- A scalar that stands for nothing. -/
  isNothing : Node → Bool
    | .scalar _ .plain text => text.isEmpty || Yaml.nullTexts.contains text
    | _ => false

/-- How properties are read from nodes. -/
def nodeSource : Source Node where
  text := textOfNode
  flag := valueOfNode Yaml.boolTag Yaml.flag?
  integer := valueOfNode Yaml.intTag fun text =>
    (Yaml.integer? text).filter inIntRange
  number := valueOfNode Yaml.floatTag Yaml.float?
  texts
    | .sequence _ items => items.mapM textOfNode
    | node => if node.isBlank then pure [] else throw (refusal node)
  type := typeOfNode
  isAbsent
    | .scalar label .plain text =>
      if label.tag = some Yaml.nullTag then
        if Yaml.nullTexts.contains text then pure true else throw .invalidValue
      else pure (label.tag.isNone && (text.isEmpty || Yaml.nullTexts.contains text))
    | _ => pure false

/-- The node that a node stands for. -/
def follow (anchors : Anchors) (node : Node) : Following Node := do
  match node with
  | .alias number =>
    match ← get, anchors.reverse.lookup number with
    | left + 1, some meant => set left *> pure meant
    | _, _ => pure .broken
  | node => pure node

/-- The node that a node stands for, and if it is a sequence the same for its items. -/
def followItems (anchors : Anchors) (node : Node) : Following Node := do
  match ← follow anchors node with
  | .sequence label items => return .sequence label (← items.mapM (follow anchors))
  | node => pure node

/-- A step for each entry whose key is known, in order. -/
def eachEntry (anchors : Anchors) (ofName? : String → Option κ) (step : κ → Node → σ → Following σ) :
    List (Node × Node) → σ → Following σ
  | [], state => pure state
  | (key, value) :: rest, state => do
    let name ← textOfNode (← follow anchors key)
    match ofName? name with
    | some key => eachEntry anchors ofName? step rest (← step key value state)
    | none => if value.isWhole then eachEntry anchors ofName? step rest state else throw .malformed

/-- The entries of a mapping. Nothing reads as a mapping without entries. -/
def entriesOf : Node → Decoded (List (Node × Node))
  | .mapping _ entries => pure entries
  | node => if node.isBlank then pure [] else throw (refusal node)

/-- The items of a sequence. Nothing reads as a sequence without items. -/
def itemsOf : Node → Decoded (List Node)
  | .sequence _ items => pure items
  | node => if node.isBlank then pure [] else throw (refusal node)

/-- A collection counts against the nesting that is left, nothing does not. -/
def descend (left : Nat) (node : Node) : Decoded Unit :=
  match left, node with
  | 0, .mapping .. | 0, .sequence .. => throw .malformed
  | _, _ => pure ()

mutual

/-- An attribute, given how many collections may be nested in it. -/
def attributeOfNode (anchors : Anchors) : (left : Nat) → Node → Following Attribute
  | 0, node => do
    descend 0 node
    let _ ← entriesOf node
    PartialAttribute.blank.finish
  | left + 1, node => do
    let step key value (partly : PartialAttribute) : Following PartialAttribute := do
      let partly ← partly.reserve key
      if key = .attributes then
        let children ← attributesOfNode anchors left (← follow anchors value)
        pure { partly with children }
      else partly.read nodeSource key (← followItems anchors value)
    let partly ← eachEntry anchors AttributeKey.ofName? step (← entriesOf node) .blank
    partly.finish

/-- Attributes, given how many collections may be nested in the list. -/
def attributesOfNode (anchors : Anchors) : (left : Nat) → Node → Following (List Attribute)
  | 0, node => do
    descend 0 node
    let _ ← itemsOf node
    pure []
  | left + 1, node => do
    (← itemsOf node).mapM fun item => do attributeOfNode anchors left (← follow anchors item)

end

/-- A schema of which some properties have been read. -/
structure PartialSchema where
  schema : Schema
  seen : List SchemaKey

/-- The schema in the root of a document, as it is written. -/
def ofNode (anchors : Anchors) (root : Node) : Following Schema := do
  let step key value (partly : PartialSchema) : Following PartialSchema := do
    let seen ← reserve SchemaKey.label key partly.seen
    let schema := partly.schema
    if key = .attributes then
      let attributes ← attributesOfNode anchors (maxNesting - 1) (← follow anchors value)
      pure ⟨{ schema with attributes }, seen⟩
    else
      let header ← schema.header.read nodeSource key (← followItems anchors value)
      pure ⟨{ schema with header }, seen⟩
  let entries ← entriesOf (← follow anchors root)
  let partly ← eachEntry anchors SchemaKey.ofLabel? step entries ⟨⟨.blank, []⟩, []⟩
  requireAll SchemaKey.label SchemaKey.required partly.seen
  pure partly.schema

/-- The schema in a document, as it is written. What follows the root is looked at last. -/
def ofDocument (document : Yaml.Document) : Decoded Schema := do
  let root := document.root.getD (.blank .none)
  let (schema, _) ← (ofNode root.anchored root).run (100 * root.size)
  if document.complete then pure schema else throw .malformed

/-- The schema in a text without a byte order mark, as it is written. -/
def ofText (text : List Char) : Decoded Schema :=
  ofDocument (.ofText text)

/-- Why a document yields no schema. -/
inductive LoadFault where
  | unreadable (fault : DecodeFault)
  | invalid (violation : Violation)

/-- What reading yields, with all its names and within the rules. -/
def complete (read : Decoded Schema) : Except LoadFault Schema := do
  let schema ← read.mapError .unreadable
  let derived := schema.derive
  match firstViolation? derived with
  | some violation => throw (.invalid violation)
  | none => pure derived

/-- The schema in a text, with all its names and within the rules. -/
def load (text : String) : Except LoadFault Schema :=
  complete (ofText (Yaml.withoutMark text.toList))

/-- The schema in bytes, with all its names and within the rules. -/
def loadBytes (bytes : List UInt8) : Except LoadFault Schema :=
  complete ((Yaml.decode? bytes).elim (throw .malformed) ofText)

end Stencil.Schema
