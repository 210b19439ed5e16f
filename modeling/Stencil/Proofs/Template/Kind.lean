import Stencil.Proofs.Template.Check
import Stencil.Proofs.Template.Question

/-!
# Kinds of values

What it is for a value to be of a kind (`HasKind`). A text of the document, if all of them are tame,
a number and a truth value may be inserted after calm text. Members, items and the values of built-in
functions are of the kinds that the check gives them.
-/

namespace Stencil.Schema

/-- The texts of a header that templates insert. -/
def Header.inserted (header : Header) : List String :=
  [header.name, header.tfName, header.typeName, header.restEndpoint, header.dsDescription,
    header.resDescription] ++ (header.docCategory.toList ++ (header.idFromQueryPath.toList ++
      (header.minimumVersion.toList ++ (header.testPrerequisites.toList ++ header.testTags))))

/-- The texts of a field that templates insert. -/
def Field.inserted (field : Field) : List String :=
  [field.modelName, field.tfName, field.typeName] ++ (field.description.toList ++
    (field.exampleValue.toList ++ (field.testValue.toList ++ field.value.toList)))

end Stencil.Schema

namespace Stencil.Template

open Schema (Attribute AttributeKey Everywhere)
open Section (Calm Level Quiet Tame)

/-- A calm text with the text after it does not hold the token that closes a section, at least if
all that documents say is tame. -/
def Insertable (tame : Prop) (text : String) : Prop :=
  tame → ∀ {before : List Char}, Calm before → Quiet (before ++ text.toList)

/-- What templates insert of an attribute is tame, and the attribute is read back. -/
def Known (tame : Prop) (attr : Attribute) : Prop :=
  attr.field.InRange ∧ (tame → ∀ text ∈ attr.field.inserted, Tame text.toList)

/-- The value is of the kind. A missing value is of every kind. -/
inductive HasKind (tame : Prop) (kinds : Kinds) : Kind → Value → Prop where
  | any (value : Value) : HasKind tame kinds .any value
  | missing (kind : Kind) (quiet : Bool) : HasKind tame kinds kind (.undefined quiet)
  | text {value : Value} : Insertable tame value.print → HasKind tame kinds .text value
  | texts {items : List Value} : (∀ item ∈ items, HasKind tame kinds .text item) →
      HasKind tame kinds .texts (.list items)
  | attr {attr : Attribute} : Everywhere (Known tame) [attr] →
      HasKind tame kinds .attr attr.toValue
  | attrs {list : List Attribute} : Everywhere (Known tame) list →
      HasKind tame kinds .attrs (.list (Attribute.toValues list))
  | position (loop : LoopPosition) : HasKind tame kinds .position (.position loop)
  | macroOf {parameters : List String} {body : List Stmt} (home : Nat) :
      (∀ parameter ∈ parameters, kinds.Binds parameter) →
      (Stmt.flowAll kinds .calm body).isSome →
      HasKind tame kinds (.macroOf parameters) (.macroIn home ⟨parameters, [], body⟩)

variable {tame : Prop} {kinds : Kinds} {library : Library} {value : Value} {name : String}
  {kind : Kind}

/-- A tame text may be inserted. -/
theorem Insertable.of_tame {text : String} (h : tame → Tame text.toList) :
    Insertable tame text :=
  fun htame _ hbefore => hbefore.inserted (h htame)

/-- A text without a slash may be inserted. -/
theorem Insertable.of_notMem {text : String} (h : '/' ∉ text.toList) : Insertable tame text := by
  refine .of_tame fun _ htoken => h (htoken.subset ?_)
  decide

/-- A number may be inserted. -/
theorem HasKind.int (value : Int) : HasKind tame kinds .text (.int value) := by
  refine .text (.of_notMem ?_)
  have hdigits (count : Nat) : '/' ∉ Nat.toDigits 10 count := by
    intro hmem
    exact absurd (Nat.isDigit_of_mem_toDigits (by decide) (by decide) hmem) (by decide)
  show '/' ∉ (toString value).toList
  rw [Int.toString_eq_repr, Int.repr_eq_if]
  split
  · rw [Nat.toList_repr]
    exact hdigits _
  · rw [String.toList_append, Nat.toList_repr, List.mem_append, not_or]
    exact ⟨by decide, hdigits _⟩

/-- A truth value may be inserted. -/
theorem HasKind.bool (value : Bool) : HasKind tame kinds .text (.bool value) := by
  refine .text (.of_notMem ?_)
  cases value <;> decide

/-- An optional text may be inserted if the text may. -/
theorem HasKind.optional {text : Option String}
    (h : tame → ∀ content ∈ text, Tame content.toList) :
    HasKind tame kinds .text (Schema.optionalValue .text text) := by
  cases text with
  | none => exact .text (.of_notMem (by decide))
  | some content => exact .text (.of_tame fun htame => h htame content rfl)

/-- What templates insert of an attribute may be inserted. -/
theorem HasKind.property {attr : Attribute} (h : Known tame attr) {key : AttributeKey}
    (hkey : key ∈ insertedKeys) : HasKind tame kinds .text (attr.property key) := by
  have htext {text : String} (hmem : text ∈ attr.field.inserted) :
      HasKind tame kinds .text (.text text) := .text (.of_tame fun htame => h.2 htame text hmem)
  have hoptional {text : Option String} (hmem : ∀ content ∈ text, content ∈ attr.field.inserted) :
      HasKind tame kinds .text (Schema.optionalValue .text text) :=
    .optional fun htame content hcontent => h.2 htame content (hmem content hcontent)
  simp only [insertedKeys, List.mem_cons, List.not_mem_nil, or_false] at hkey
  rcases hkey with rfl | rfl | rfl | rfl | rfl | rfl | rfl
  · exact htext (by simp [Schema.Field.inserted])
  · exact htext (by simp [Schema.Field.inserted])
  · exact htext (by simp [Schema.Field.inserted])
  · exact hoptional (by simp +contextual [Schema.Field.inserted])
  · exact hoptional (by simp +contextual [Schema.Field.inserted])
  · exact hoptional (by simp +contextual [Schema.Field.inserted])
  · exact hoptional (by simp +contextual [Schema.Field.inserted])

/-- The properties of a loop may be inserted. -/
theorem HasKind.positionField (loop : LoopPosition) (name : String) :
    HasKind tame kinds .text ((Value.positionField? loop name).getD (.undefined false)) := by
  unfold Value.positionField?
  split <;> first
    | exact .int _
    | exact .bool _
    | exact .missing .text false

/-- A member of a value is of the kind that the check gives it. -/
theorem HasKind.member {base : Value} (h : HasKind tame kinds kind base)
    (hmember : base.member name = .ok value) : HasKind tame kinds (kind.member name) value := by
  cases h with
  | any | text _ | texts _ | attrs _ | macroOf _ _ _ => exact .any value
  | missing kind quiet => cases hmember
  | position loop =>
      obtain rfl := Except.ok.inj hmember
      exact .positionField loop name
  | @attr attr hattr =>
      obtain ⟨hknown, hchildren, -⟩ := Schema.everywhere_cons.1 hattr
      rw [Kind.member]
      split
      · next heq =>
          rw [heq, attr.member_toValue .attributes] at hmember
          obtain rfl := Except.ok.inj hmember
          exact .attrs hchildren
      · split
        · next hkey =>
            obtain ⟨key, hinserted, rfl⟩ := List.mem_map.1 hkey
            rw [attr.member_toValue key] at hmember
            obtain rfl := Except.ok.inj hmember
            exact .property hknown hinserted
        · exact .any value

/-- The items of a value are of the kind that the check gives them. -/
theorem HasKind.items {items : List Value} (h : HasKind tame kinds kind value)
    (hitems : value.items = .ok items) : ∀ item ∈ items, HasKind tame kinds kind.item item := by
  cases h with
  | any | text _ | attr _ | position _ | macroOf _ _ _ => exact fun item _ => .any item
  | missing kind quiet =>
      rw [Value.items] at hitems
      split at hitems
      · obtain rfl := Except.ok.inj hitems
        simp
      · cases hitems
  | texts htexts =>
      obtain rfl := Except.ok.inj hitems
      exact htexts
  | @attrs list hlist =>
      obtain rfl := Except.ok.inj hitems
      rw [Attribute.toValues_eq_map, List.forall_mem_map]
      intro attr hattr
      obtain ⟨hknown, hchildren⟩ := Schema.everywhere_iff.1 hlist attr hattr
      exact .attr (Schema.everywhere_cons.2 ⟨hknown, hchildren, by simp [Everywhere,
        Attribute.visitsAll]⟩)

/-- A function of one argument yields what it makes of the argument. -/
theorem unary_eq_ok {α : Type} {convert : Value → Outcome α} {apply : α → Outcome Value}
    {arguments : List Value} (h : Library.unary convert apply arguments = .ok value) :
    ∃ argument, apply argument = .ok value := by
  simp only [Library.unary, bind_ok_iff] at h
  obtain ⟨⟨first, rest⟩, -, argument, -, -, -, happly⟩ := h
  exact ⟨argument, happly⟩

/-- A difference is a number. -/
theorem subtract_eq_ok {arguments : List Value} (h : Library.subtract arguments = .ok value) :
    ∃ difference, value = .int difference := by
  simp only [Library.subtract, bind_ok_iff] at h
  obtain ⟨⟨_, _⟩, -, left, -, ⟨_, _⟩, -, right, -, -, -, h⟩ := h
  split at h
  · exact ⟨_, (Except.ok.inj h).symm⟩
  · cases h

/-- A failure has no value. -/
theorem fail_ne_ok {arguments : List Value} : Library.fail arguments ≠ .ok value := by
  simp only [Library.fail, ne_eq, bind_ok_iff]
  rintro ⟨⟨_, _⟩, -, h⟩
  cases h

/-- The nested types of attributes are attributes. -/
theorem HasKind.nestedTypes {list : Value} (h : HasKind tame kinds .attrs list)
    (hcall : library.call .nestedTypes [list] = .ok value) :
    HasKind tame kinds .attrs value := by
  cases h with
  | missing kind quiet => cases hcall
  | @attrs attributes hlist =>
      have hrange : Everywhere (·.field.InRange) attributes := fun visit hvisit =>
        (hlist visit hvisit).1
      rw [IsList.nestedTypes ⟨rfl, hrange⟩] at hcall
      split at hcall
      · next types htypes =>
          obtain rfl := Except.ok.inj hcall
          exact .attrs (Schema.everywhere_nestedTypes hlist htypes)
      · cases hcall

/-- A built-in function comes to a value of the kind that the check gives its call. -/
theorem HasKind.call {builtin : Builtin} {kindsOf : List Kind} {arguments : List Value}
    (hbuiltin : Builtin.ofName? name = some builtin) (hname : name ≠ "loop")
    (harguments : List.Forall₂ (HasKind tame kinds) kindsOf arguments)
    (h : library.call builtin arguments = .ok value) :
    HasKind tame kinds (kinds.call name kindsOf) value := by
  rw [Kinds.call, if_neg hname, hbuiltin]
  cases builtin with
  | fail => exact absurd h fail_ne_ok
  | subtract =>
      obtain ⟨difference, rfl⟩ := subtract_eq_ok h
      exact .int difference
  | importParts =>
      obtain ⟨attributes, hcount⟩ := unary_eq_ok h
      obtain rfl := Except.ok.inj hcount
      exact .int _
  | nestedTypes =>
      dsimp only
      split
      · next hkinds =>
          rw [hkinds] at harguments
          obtain ⟨list, _, hlist, hnil, rfl⟩ := List.forall₂_cons_left_iff.1 harguments
          obtain rfl := List.forall₂_nil_left_iff.1 hnil
          exact hlist.nestedTypes h
      · exact .any value
  | _ => exact .any value

/-- What is printed of a value of the kind of texts may be inserted. -/
theorem HasKind.insertable (h : HasKind tame kinds .text value) : Insertable tame value.print := by
  cases h with
  | text h => exact h
  | missing kind quiet => exact .of_notMem (by simp [Value.print])

end Stencil.Template
