import Mathlib.Algebra.Group.Nat.Defs
import Stencil.Proofs.Schema.Bounds
import Stencil.Proofs.Schema.Nested
import Stencil.Proofs.Template.Rule

/-!
# Questions asked by templates

A template asks about the attributes of its schema by calling built-in functions on values. What a
value stands for is said by walking through the values and the schema in step (`ListOf`,
`AttributeOf`). `answers_of_schema` says that every attribute is read back from its value, and that
on any value that a template of a loaded schema can reach the functions give the answer that the
attributes themselves have.
-/

namespace Stencil.Template

open Schema (Attribute Everywhere Field loadContent)

/-- The questions about a field, with the functions that ask them. -/
def fieldQuestions : List (Builtin × (Field → Bool)) :=
  [(.isListSet, Field.isListSet), (.isStringListSet, Field.isStringListSet),
    (.isInt64ListSet, Field.isInt64ListSet), (.isNested, Field.isNested),
    (.isNestedList, Field.isNestedList), (.isNestedSet, Field.isNestedSet),
    (.isNestedMap, Field.isNestedMap)]

/-- The questions about a list of attributes, with the functions that ask them. -/
def listQuestions : List (Builtin × (List Attribute → Bool)) :=
  [(.hasId, Schema.hasId), (.hasReference, Schema.hasReference),
    (.hasResourceId, Schema.hasResourceId)]

variable (library : Library) (schema : Schema)

mutual

/-- The value is that of a list of attributes: those of the schema, the children of an attribute, or
the nested types of a list. -/
inductive ListOf : Value → List Attribute → Prop where
  | top {value : Value} : schema.toFields.lookup "attributes" = some value →
      ListOf value schema.attributes
  | topOf {value : Value} : (Value.ofFields schema.toFields).member "attributes" = .ok value →
      ListOf value schema.attributes
  | children {value children : Value} {attr : Attribute} : AttributeOf value attr →
      value.member "attributes" = .ok children → ListOf children attr.children
  | nested {value result : Value} {attributes types : List Attribute} : ListOf value attributes →
      Schema.nestedTypes attributes library.maxDepth = .ok types →
      library.call .nestedTypes [value] = .ok result → ListOf result types

/-- The value is that of an attribute in a list: a loop has come to it, or it is the item at an
index. -/
inductive AttributeOf : Value → Attribute → Prop where
  | looped {value item : Value} {items : List Value} {attributes : List Attribute}
      {attr : Attribute} {index : Nat} : ListOf value attributes → value.items = .ok items →
      items[index]? = some item → attributes[index]? = some attr → AttributeOf item attr
  | indexed {value item : Value} {attributes : List Attribute} {attr : Attribute} {index : Nat} :
      ListOf value attributes → value.item (.int index) = .ok item →
      attributes[index]? = some attr → AttributeOf item attr

end

/-- What templates see of attributes that are read back. -/
def IsList (value : Value) (attributes : List Attribute) : Prop :=
  value = .list (Attribute.toValues attributes) ∧ Everywhere (·.field.InRange) attributes

/-- What templates see of an attribute that is read back. -/
def IsAttribute (value : Value) (attr : Attribute) : Prop :=
  value = attr.toValue ∧ attr.field.InRange ∧ Everywhere (·.field.InRange) attr.children

variable {library : Library} {schema : Schema}

/-- A function of one argument is applied to what its argument converts to. -/
theorem unary_ok {α : Type} {convert : Value → Outcome α} {apply : α → Outcome Value}
    {value : Value} {argument : α} (hdefined : value.isUndefined = false)
    (h : convert value = .ok argument) :
    Library.unary convert apply [value] = apply argument := by
  simp [Library.unary, Library.takeArgument, hdefined, h, Library.noMore, pure, Except.pure, bind,
    Except.bind]

/-- The argument of a question about an attribute is the attribute. -/
theorem IsAttribute.argument {value : Value} {attr : Attribute} (h : IsAttribute value attr) :
    value.isUndefined = false ∧ Library.attributeArgument value = .ok attr := by
  obtain ⟨rfl, hfield, hchildren⟩ := h
  refine ⟨by rw [Schema.Attribute.toValue_eq]; rfl, ?_⟩
  rw [Library.attributeArgument, Schema.Attribute.ofValue_toValue hfield hchildren]
  rfl

/-- The argument of a question about a list is the list. -/
theorem IsList.argument {value : Value} {attributes : List Attribute}
    (h : IsList value attributes) :
    value.isUndefined = false ∧ Library.attributesArgument value = .ok attributes := by
  obtain ⟨rfl, hattributes⟩ := h
  refine ⟨rfl, ?_⟩
  rw [Library.attributesArgument, Schema.Attribute.listOfValue_toValues hattributes]
  rfl

/-- A question about a field is answered by the field. -/
theorem IsAttribute.question {value : Value} {attr : Attribute} (h : IsAttribute value attr)
    {builtin : Builtin} {question : Field → Bool} (hmem : (builtin, question) ∈ fieldQuestions) :
    library.call builtin [value] = .ok (.bool (question attr.field)) := by
  have hasked : library.call builtin = Library.ofField question := by
    simp only [fieldQuestions, List.mem_cons, Prod.mk.injEq, List.not_mem_nil, or_false] at hmem
    rcases hmem with ⟨rfl, rfl⟩ | ⟨rfl, rfl⟩ | ⟨rfl, rfl⟩ | ⟨rfl, rfl⟩ | ⟨rfl, rfl⟩ | ⟨rfl, rfl⟩ |
      ⟨rfl, rfl⟩ <;> rfl
  rw [hasked, Library.ofField, unary_ok h.argument.1 h.argument.2]
  rfl

/-- A question about a list is answered by the list. -/
theorem IsList.question {value : Value} {attributes : List Attribute} (h : IsList value attributes)
    {builtin : Builtin} {question : List Attribute → Bool}
    (hmem : (builtin, question) ∈ listQuestions) :
    library.call builtin [value] = .ok (.bool (question attributes)) := by
  have hasked : library.call builtin = Library.ofAttributes question := by
    simp only [listQuestions, List.mem_cons, Prod.mk.injEq, List.not_mem_nil, or_false] at hmem
    rcases hmem with ⟨rfl, rfl⟩ | ⟨rfl, rfl⟩ | ⟨rfl, rfl⟩ <;> rfl
  rw [hasked, Library.ofAttributes, unary_ok h.argument.1 h.argument.2]
  rfl

/-- The parts of an import identifier are counted in the list. -/
theorem IsList.importParts {value : Value} {attributes : List Attribute}
    (h : IsList value attributes) : library.call .importParts [value] =
      .ok (.int (clampInt64 (Schema.importParts attributes))) := by
  rw [Library.call, unary_ok h.argument.1 h.argument.2]
  rfl

/-- The nested types of a list are those of the attributes, and fail as those do. -/
theorem IsList.nestedTypes {value : Value} {attributes : List Attribute}
    (h : IsList value attributes) : library.call .nestedTypes [value] =
      match Schema.nestedTypes attributes library.maxDepth with
      | .ok types => .ok (.list (Attribute.toValues types))
      | .error fault => .error (.tooDeep fault) := by
  rw [Library.call, Library.nestedTypes, unary_ok h.argument.1 h.argument.2]
  cases Schema.nestedTypes attributes library.maxDepth <;> rfl

/-- The attributes of a list stand in it as their values. -/
theorem IsList.item {attributes : List Attribute} {attr : Attribute} {index : Nat}
    (h : Everywhere (·.field.InRange) attributes) (hattr : attributes[index]? = some attr) :
    (Attribute.toValues attributes)[index]? = some attr.toValue ∧
      attr.field.InRange ∧ Everywhere (·.field.InRange) attr.children := by
  refine ⟨?_, Schema.everywhere_iff.1 h attr (List.mem_of_getElem? hattr)⟩
  rw [Schema.Attribute.toValues_eq_map, List.getElem?_map, hattr]
  rfl

/-- The types of a list that is read back are read back. -/
theorem nestedTypes_inRange {maxDepth : Nat} {attributes types : List Attribute}
    (h : Everywhere (·.field.InRange) attributes)
    (htypes : Schema.nestedTypes attributes maxDepth = .ok types) :
    Everywhere (·.field.InRange) types :=
  Schema.everywhere_nestedTypes h htypes

/-- An index from the start of a list is the place that it says. -/
theorem place_index (length index : Nat) : Value.place? length (.int index) = some index := by
  have hindex : ¬ (index : Int) < 0 := by omega
  simp [Value.place?, Value.asWhole?, hindex]

mutual

/-- A value that a template reaches as that of a list is what templates see of the list. -/
theorem ListOf.isList (hschema : Everywhere (·.field.InRange) schema.attributes) {value : Value}
    {attributes : List Attribute} : ListOf library schema value attributes →
      IsList value attributes
  | .top h => ⟨(Option.some.inj h).symm, hschema⟩
  | .topOf h => ⟨(Except.ok.inj h).symm, hschema⟩
  | .children h hmember => by
    obtain ⟨rfl, -, hchildren⟩ := h.isAttribute hschema
    exact ⟨Except.ok.inj (hmember.symm.trans (Attribute.member_toValue _ .attributes)), hchildren⟩
  | .nested h htypes hcall => by
    have hlist := h.isList hschema
    rw [hlist.nestedTypes, htypes] at hcall
    exact ⟨(Except.ok.inj hcall).symm, nestedTypes_inRange hlist.2 htypes⟩

/-- A value that a template reaches as that of an attribute is what templates see of it. -/
theorem AttributeOf.isAttribute (hschema : Everywhere (·.field.InRange) schema.attributes)
    {value : Value} {attr : Attribute} : AttributeOf library schema value attr →
      IsAttribute value attr
  | .looped h hitems hitem hattr => by
    obtain ⟨rfl, hrange⟩ := h.isList hschema
    obtain ⟨hvalue, hbelow⟩ := IsList.item hrange hattr
    obtain rfl := Except.ok.inj hitems
    exact ⟨Option.some.inj (hitem.symm.trans hvalue), hbelow⟩
  | .indexed h hitem hattr => by
    obtain ⟨rfl, hrange⟩ := h.isList hschema
    obtain ⟨hvalue, hbelow⟩ := IsList.item hrange hattr
    rw [Value.item, place_index, Option.bind_some, hvalue] at hitem
    exact ⟨(Except.ok.inj hitem).symm, hbelow⟩

end

/-- A template that calls a function on an expression of the value gets the answer, wherever the
name of the function stands for it. -/
def Answers (library : Library) (builtin : Builtin) (value : Value) (answer : Outcome Value) :
    Prop :=
  ∀ (invoke : Invoke) (scope : Scope) (expr : Expr), expr.eval library invoke scope = .ok value →
    scope.find? library builtin.name = some (.function builtin) →
    (Expr.call builtin.name [expr] []).eval library invoke scope = answer

/-- A call of a name that stands for a function comes to what the function yields. -/
theorem eval_builtin {invoke : Invoke} {scope : Scope} {builtin : Builtin} {arguments : List Expr}
    {values : List Value} (hname : scope.find? library builtin.name = some (.function builtin))
    (harguments : Expr.evalAll library invoke scope arguments = .ok values) :
    (Expr.call builtin.name arguments []).eval library invoke scope =
      library.call builtin values := by
  have hloop : builtin.name ≠ "loop" := by cases builtin <;> decide
  rw [eval_call harguments]
  simp [callName, hloop, hname, callValue, positional]

/-- A call in a template comes to what the function yields. -/
theorem answers_of_call {builtin : Builtin} {value : Value} {answer : Outcome Value}
    (h : library.call builtin [value] = answer) : Answers library builtin value answer := by
  intro invoke scope expr hvalue hname
  exact (eval_builtin hname (evalAll_cons hvalue rfl)).trans h

/-- Every attribute is read back from its value. On the values that a template of a loaded schema
reaches, at any depth and among the nested types of any list, the functions that ask about
attributes answer what the attributes themselves do, and nested types fail exactly if those of the
attributes do. -/
theorem answers_of_schema :
    (∀ attr : Attribute, Everywhere (·.field.InRange) [attr] →
      Attribute.ofValue? attr.toValue = .ok attr) ∧
    ∀ (content : Content) (schema : Schema) (library : Library),
      loadContent content = .ok schema →
      (∀ value attr, AttributeOf library schema value attr →
        ∀ builtin question, (builtin, question) ∈ fieldQuestions →
          Answers library builtin value (.ok (.bool (question attr.field)))) ∧
      ∀ value attributes, ListOf library schema value attributes →
        (∀ builtin question, (builtin, question) ∈ listQuestions →
          Answers library builtin value (.ok (.bool (question attributes)))) ∧
        (Schema.importParts attributes < 2 ^ 63 →
          Answers library .importParts value (.ok (.int (Schema.importParts attributes)))) ∧
        Answers library .nestedTypes value
          (match Schema.nestedTypes attributes library.maxDepth with
          | .ok types => .ok (.list (Attribute.toValues types))
          | .error fault => .error (.tooDeep fault)) := by
  refine ⟨fun attr h => ?_, fun content schema library hload => ?_⟩
  · obtain ⟨hfield, hchildren, -⟩ := Schema.everywhere_cons.1 h
    exact Schema.Attribute.ofValue_toValue hfield hchildren
  have hschema : Everywhere (·.field.InRange) schema.attributes :=
    fun visit hvisit => (Schema.loaded_bounded hload visit hvisit).1
  refine ⟨fun value attr hattr _ _ hasked => ?_, fun value attributes hlist =>
    ⟨fun _ _ hasked => ?_, fun hfits => ?_, ?_⟩⟩
  · exact answers_of_call ((hattr.isAttribute hschema).question hasked)
  · exact answers_of_call ((hlist.isList hschema).question hasked)
  · have hcount : clampInt64 (Schema.importParts attributes) = Schema.importParts attributes := by
      have hlargest : (Number.wordCount 63 : Int) = 2 ^ 63 := rfl
      rw [clampInt64, hlargest]
      omega
    rw [← hcount]
    exact answers_of_call (hlist.isList hschema).importParts
  · exact answers_of_call (hlist.isList hschema).nestedTypes

/-- A document with a set in a list. Two attributes of the set are parts of an import identifier. -/
def setInList : Content :=
  .text ("name: X\nrest_endpoint: x\nattributes:\n- model_name: rules\n  type: List\n" ++
    "  attributes:\n  - model_name: ports\n    type: Set\n    min_list: 1\n    attributes:\n" ++
    "    - {model_name: from, type: Int64, reference: true}\n" ++
    "    - {model_name: to, type: Int64, id: true, min_int: -1}\n")

/-- The set is the second of the nested types, where a loop comes to it: it is read back, known as a
set of objects, and its attributes make three parts with the id of the object. -/
theorem answers_of_schema_set_in_list :
    ∃ schema value attr children, loadContent setInList = .ok schema ∧
      AttributeOf ⟨4⟩ schema value attr ∧ ListOf ⟨4⟩ schema children attr.children ∧
      Everywhere (·.field.InRange) [attr] ∧ Attribute.ofValue? attr.toValue = .ok attr ∧
      Answers ⟨4⟩ .isNestedSet value (.ok (.bool true)) ∧
      Answers ⟨4⟩ .hasId children (.ok (.bool true)) ∧
      Answers ⟨4⟩ .importParts children (.ok (.int 3)) ∧
      Answers ⟨4⟩ .nestedTypes children (.ok (.list [])) := by
  have hset : ((loadContent setInList).toOption.bind fun schema =>
      (Schema.nestedTypes schema.attributes 4).toOption.bind fun types =>
        types[1]?.map fun attr =>
          (attr.field.isNestedSet, Schema.hasId attr.children, Schema.importParts attr.children,
            (Schema.nestedTypes attr.children 4).toOption.map (·.length))) =
      some (true, true, 3, some 0) := by
    unfold setInList
    rw [Schema.loadContent_eq, Schema.written_text, String.toList_append, String.toList_append, String.toList_append]
    repeat rw [String.toList_ofList]
    decide +kernel
  obtain ⟨schema, hschema, hset⟩ := Option.bind_eq_some_iff.1 hset
  obtain ⟨types, htypes, hset⟩ := Option.bind_eq_some_iff.1 hset
  obtain ⟨attr, hattr, hset⟩ := Option.map_eq_some_iff.1 hset
  obtain ⟨hnested, hid, hparts, hinner⟩ : attr.field.isNestedSet = true ∧
      Schema.hasId attr.children = true ∧ Schema.importParts attr.children = 3 ∧
      (Schema.nestedTypes attr.children 4).toOption.map (·.length) = some 0 := by
    simpa using hset
  obtain ⟨inner, hinner, hlength⟩ := Option.map_eq_some_iff.1 hinner
  obtain rfl := List.length_eq_zero_iff.1 hlength
  rw [toOption_eq_some_iff] at hschema htypes hinner
  obtain ⟨hread, hanswers⟩ := answers_of_schema
  obtain ⟨hfields, hlists⟩ := hanswers setInList schema ⟨4⟩ hschema
  have hrange : Everywhere (·.field.InRange) schema.attributes :=
    fun visit hvisit => (Schema.loaded_bounded hschema visit hvisit).1
  -- The way of a template to the set: the nested types of the schema, and a loop over them.
  have htop : ListOf ⟨4⟩ schema _ schema.attributes := .top rfl
  have hcall : Library.call ⟨4⟩ .nestedTypes [.list (Attribute.toValues schema.attributes)] =
      .ok (.list (Attribute.toValues types)) := by
    rw [(htop.isList hrange).nestedTypes, htypes]
  have hall : ListOf ⟨4⟩ schema _ types := .nested htop htypes hcall
  obtain ⟨hitem, hfield, hchildren⟩ := IsList.item (nestedTypes_inRange hrange htypes) hattr
  have hvalue : AttributeOf ⟨4⟩ schema attr.toValue attr := .looped hall rfl hitem hattr
  have hbelow : ListOf ⟨4⟩ schema _ attr.children :=
    .children hvalue (attr.member_toValue .attributes)
  have hself : Everywhere (·.field.InRange) [attr] :=
    Schema.everywhere_cons.2 ⟨hfield, hchildren, by simp [Everywhere, Attribute.visitsAll]⟩
  obtain ⟨hquestions, hcount, htypes⟩ := hlists _ _ hbelow
  have hasked := hfields _ _ hvalue .isNestedSet Field.isNestedSet (by simp [fieldQuestions])
  have hasId := hquestions .hasId Schema.hasId (by simp [listQuestions])
  simp only [hparts] at hcount
  rw [hnested] at hasked
  rw [hid] at hasId
  refine ⟨schema, _, attr, _, hschema, hvalue, hbelow, hself, hread attr hself, hasked, hasId,
    hcount (by decide), ?_⟩
  rw [hinner] at htypes
  exact htypes

end Stencil.Template
