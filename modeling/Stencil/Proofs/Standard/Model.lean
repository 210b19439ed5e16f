import Stencil.Proofs.Standard.Source

/-!
# The data model of a schema

What the standard template of the data model writes for a schema: a structure for the schema and one
for each of its nested types, with a field for every attribute that has no fixed value
(`render_source`). It fails at a map without children, and if the nested types lie too deep.
-/

namespace Stencil.Standard.Model

open Schema (Attribute AttributeType Everywhere Field nestedTypes)
open Template

/-- The body of the macro for the type of a field. -/
def typeBody : List Stmt :=
  [.branch (asks .isListSet)
    [.branch (isTyped (its "a" .elementType) .int64) [.text "Vec<i64>"]
      [.branch (isTyped (its "a" .elementType) .float64) [.text "Vec<f64>"]
        [.branch (isTyped (its "a" .elementType) .bool) [.text "Vec<bool>"]
          [.text "Vec<String>"]]]]
    [.branch (asks .isNestedMap)
      [.text "BTreeMap<String, ", .print (its "a" .typeName), .text ">"]
      [.branch (asks .isNested) [.text "Vec<", .print (its "a" .typeName), .text ">"]
        [.branch (isTyped itsType .int64) [.text "i64"]
          [.branch (isTyped itsType .float64) [.text "f64"]
            [.branch (isTyped itsType .bool) [.text "bool"]
              [.branch (isTyped itsType .versions) [.text "Vec<String>"] [.text "String"]]]]]]]]

/-- The type of a field. -/
def rustType (field : Field) : String :=
  if field.isListSet then
    if field.elementType == some .int64 then "Vec<i64>"
    else if field.elementType == some .float64 then "Vec<f64>"
    else if field.elementType == some .bool then "Vec<bool>"
    else "Vec<String>"
  else if field.isNestedMap then "BTreeMap<String, " ++ field.typeName ++ ">"
  else if field.isNested then "Vec<" ++ field.typeName ++ ">"
  else if field.type == .int64 then "i64"
  else if field.type == .float64 then "f64"
  else if field.type == .bool then "bool"
  else if field.type == .versions then "Vec<String>"
  else "String"

/-- The call that fails at a map without children. -/
def childlessCall : Expr :=
  .call Builtin.fail.name
    [.literal (.text "map attribute '\x7b\x7d' of '\x7b\x7d' needs child attributes"),
      its "a" .tfName, .var "owner"] []

/-- The failure at a map without children. -/
def childlessMessage (tfName owner : String) : String :=
  "map attribute '" ++ (tfName ++ ("' of '" ++ (owner ++ "' needs child attributes")))

/-- The statements that write a field. -/
def fieldBody : List Stmt :=
  [.branch (.both (asks .isNestedMap) (.unary .not (its "a" .attributes)))
      [.print childlessCall, .text "\n"] [],
    .branch (isGiven (its "a" .description))
      [.text "    /// ", .print (its "a" .description), .text "\n"] [],
    .text "    #[serde(rename = \"", .print (its "a" .modelName),
    .text "\", default, skip_serializing_if = \"Option::is_none\")]\n    pub ",
    .print (its "a" .tfName), .text ": Option<", .print (.call "rust_type" [.var "a"] []),
    .text ">,\n"]

/-- The text of a field. -/
def fieldText (field : Field) : String :=
  (if field.description.isSome then "    /// " ++ field.description.getD "none" ++ "\n" else "") ++
    "    #[serde(rename = \"" ++ field.modelName ++
    "\", default, skip_serializing_if = \"Option::is_none\")]\n    pub " ++ field.tfName ++
    ": Option<" ++ rustType field ++ ">,\n"

/-- What is written for an attribute of an owner. -/
def writeField (owner : String) (attr : Attribute) : Outcome String :=
  if attr.field.isNestedMap && !attr.isComposite then
    .error (.failed (childlessMessage attr.field.tfName owner))
  else .ok (fieldText attr.field)

/-- What is written for the attributes of an owner: those that have no fixed value. -/
def writeFields (owner : String) (attributes : List Attribute) : Outcome String :=
  textsOf (writeField owner) (attributes.filter (·.field.value.isNone))

/-- The body of the macro for fields. -/
def fieldsBody : List Stmt :=
  [.loopIf (.name "a") (.var "attrs") (isMissing (its "a" .value)) false fieldBody []]

/-- The statements that write the structure of a nested type. -/
def structBody : List Stmt :=
  [.text "\n#[derive(Debug, Clone, Default, PartialEq, Serialize, Deserialize)]\npub struct ",
    .print (its "t" .typeName), .text " \x7b\n",
    .print (.call "fields" [its "t" .typeName, its "t" .attributes] []), .text "\x7d\n"]

/-- The declaration of a structure, up to its fields. -/
def declaration (typeName : String) : String :=
  "\n#[derive(Debug, Clone, Default, PartialEq, Serialize, Deserialize)]\npub struct " ++
    (typeName ++ " \x7b\n")

/-- What is written for a nested type. -/
def writeStruct (attr : Attribute) : Outcome String :=
  andThen (.ok (declaration attr.field.typeName))
    (andThen (writeFields attr.field.typeName attr.children) (.ok "\x7d\n"))

/-- The text before the structure of the schema. -/
def preamble : String :=
  "//template:begin header\n// Code generated by provider-gen. Edit only outside template sections.\n//template:end header\n\n//template:begin imports\nuse std::collections::BTreeMap;\n\nuse serde::\x7bDeserialize, Serialize\x7d;\nuse serde_json::\x7bjson, Value\x7d;\n//template:end imports\n\n//template:begin model\n/// State of "

/-- The text up to the fields of the schema. -/
def heading (name typeName : String) : String :=
  preamble ++ (name ++ (" as tracked by the provider.\n#[derive(Debug, Clone, Default, PartialEq, Serialize, Deserialize)]\npub struct " ++
    (typeName ++ " \x7b\n    #[serde(skip)]\n    pub id: Option<String>,\n")))

/-- What is written for the nested types of attributes. -/
def writeTypes (limit : Nat) (attributes : List Attribute) : Outcome String :=
  match nestedTypes attributes limit with
  | .ok types => textsOf writeStruct types
  | .error fault => .error (.tooDeep fault)

/-- What is written for a schema: its own structure, and those of its nested types. -/
def writeStructs (limit : Nat) (schema : Schema) : Outcome String :=
  andThen (.ok (heading schema.header.name schema.header.typeName))
    (andThen (writeFields schema.header.name schema.attributes)
      (andThen (.ok "\x7d\n") (writeTypes limit schema.attributes)))

/-- The statements that write the structures. -/
def structs : List Stmt :=
  [.text preamble, .print (.var "name"),
    .text " as tracked by the provider.\n#[derive(Debug, Clone, Default, PartialEq, Serialize, Deserialize)]\npub struct ",
    .print (.var "type_name"), .text " \x7b\n    #[serde(skip)]\n    pub id: Option<String>,\n",
    .print (.call "fields" [.var "name", .var "attributes"] []), .text "\x7d\n",
    .loop (.name "t") (.call Builtin.nestedTypes.name [.var "attributes"] []) false structBody []]

/-- The statements for the body of requests. -/
def toBody : List Stmt :=
  [.text "//template:end model\n\n//template:begin toBody\nimpl ", .print (.var "type_name"),
    .text " \x7b\n    /// Request body for create and update.\n    pub fn to_body(&self) -> Value \x7b\n        let mut body = serde_json::to_value(self).unwrap_or(Value::Null);\n",
    .loopIf (.name "a") (.var "attributes") (isGiven (its "a" .value)) false
      [.text "        body[\"", .print (its "a" .modelName), .text "\"] = json!(",
        .print (its "a" .value), .text ");\n"] [],
    .loopIf (.name "a") (.var "attributes") (its "a" .writeOnly) false
      [.text "        // ", .print (its "a" .tfName), .text " is write-only and never read back\n"]
      [],
    .text "        body\n    \x7d\n\x7d\n//template:end toBody\n\n//template:begin fromBody\nimpl "]

/-- The statements for the body of responses. -/
def fromBody : List Stmt :=
  [.print (.var "type_name"),
    .text " \x7b\n    /// Refresh state from a read response, keeping the id and write-only values.\n    pub fn from_body(&mut self, res: &Value) \x7b\n        let Ok(mut fresh) = serde_json::from_value::<", .print (.var "type_name"),
    .text ">(res.clone()) else \x7b\n            return;\n        \x7d;\n        fresh.id = self.id.take();\n",
    .loopIf (.name "a") (.var "attributes")
      (.both (its "a" .writeOnly) (isMissing (its "a" .value))) false
      [.text "        fresh.", .print (its "a" .tfName), .text " = self.", .print (its "a" .tfName),
        .text ".take();\n"] [],
    .text "        *self = fresh;\n    \x7d\n\x7d\n//template:end fromBody\n"]

/-- The template. -/
def tree : List Stmt :=
  [.define "rust_type" ["a"] [] typeBody, .define "fields" ["owner", "attrs"] [] fieldsBody] ++
    structs ++ (toBody ++ fromBody)

/-- The source of the template. -/
def source : Source := ⟨"model.rs", .code, text model⟩

set_option maxRecDepth 100000 in
/-- The template is written down as the source says. -/
theorem parse_source : parse? source.letters = some tree := by
  unfold source model
  rw [letters_code]
  repeat rw [text_cons]
  rw [text_nil]
  rfl

/-- The macros of the template. -/
def macros : List (String × Value) :=
  [("fields", .macroIn 1 ⟨["owner", "attrs"], [], fieldsBody⟩),
    ("rust_type", .macroIn 1 ⟨["a"], [], typeBody⟩)]

/-- No macro hides anything. -/
theorem macros_distinct : Distinct macros := by decide

variable {library : Library} {invoke : Invoke} {config : Config} {schema : Schema}
  {scope template : Scope} {attr : Attribute} {fuel : Nat}

/-- The macro for types writes the type of a field. -/
theorem writes_type (h : About library template "a" attr scope) :
    Writes library invoke scope typeBody (.ok (rustType attr.field)) := by
  have hasks {builtin : Builtin} {question : Field → Bool}
      (hmem : (builtin, question) ∈ fieldQuestions) :
      Decides library invoke scope (asks builtin) (question attr.field) := h.asks hmem
  have helement (type : AttributeType) : Decides library invoke scope
      (isTyped (its "a" .elementType) type) (attr.field.elementType == some type) :=
    .typed_option (h.eval_its .elementType) type
  have htype (type : AttributeType) : Decides library invoke scope (isTyped itsType type)
      (attr.field.type == type) := .typed h.eval_itsType type
  have hline (text : String) : Writes library invoke scope [.text text] (.ok text) :=
    .as (.text .nil) (by simp)
  have hname (opening closing : String) : Writes library invoke scope
      [.text opening, .print (its "a" .typeName), .text closing]
      (.ok (opening ++ attr.field.typeName ++ closing)) :=
    .as (.text (.print (h.prints rfl) (.text .nil))) (by simp [String.append_assoc])
  exact .ifElse (hasks (by simp [fieldQuestions]))
    (.ifElse (helement .int64) (hline _) (.ifElse (helement .float64) (hline _)
      (.ifElse (helement .bool) (hline _) (hline _))))
    (.ifElse (hasks (by simp [fieldQuestions])) (hname _ _)
      (.ifElse (hasks (by simp [fieldQuestions])) (hname _ _)
        (.ifElse (htype .int64) (hline _) (.ifElse (htype .float64) (hline _)
          (.ifElse (htype .bool) (hline _) (.ifElse (htype .versions) (hline _) (hline _)))))))

/-- The message with its places filled. -/
theorem childless_filled (tfName owner : String) :
    String.ofList (Text.fillPlaces
      "map attribute '\x7b\x7d' of '\x7b\x7d' needs child attributes".toList
      [(Value.text tfName).print.toList, (Value.text owner).print.toList]) =
      childlessMessage tfName owner := by
  have hfilled (first second : List Char) : Text.fillPlaces
      "map attribute '\x7b\x7d' of '\x7b\x7d' needs child attributes".toList [first, second] =
      "map attribute '".toList ++ (first ++ ("' of '".toList ++ (second ++
        "' needs child attributes".toList))) := rfl
  rw [hfilled]
  simp only [String.ofList_append, String.ofList_toList]
  rfl

/-- The failure names the attribute and its owner. -/
theorem eval_childless {owner : String} (h : About library template "a" attr scope)
    (howner : (Expr.var "owner").eval library invoke scope = .ok (.text owner)) :
    childlessCall.eval library invoke scope =
      .error (.failed (childlessMessage attr.field.tfName owner)) := by
  have hname : (its "a" .tfName).eval library invoke scope = .ok (.text attr.field.tfName) :=
    h.eval_its .tfName
  have harguments : Expr.evalAll library invoke scope
      [.literal (.text "map attribute '\x7b\x7d' of '\x7b\x7d' needs child attributes"),
        its "a" .tfName, .var "owner"] =
      .ok [.text "map attribute '\x7b\x7d' of '\x7b\x7d' needs child attributes",
        .text attr.field.tfName, .text owner] :=
    evalAll_cons rfl (evalAll_cons hname (evalAll_cons howner rfl))
  rw [childlessCall, eval_builtin (h.within.find_builtin h.knows .fail) harguments]
  exact congrArg (Except.error ∘ Fault.failed) (childless_filled _ _)

/-- The children of an attribute count as true if there are any. -/
theorem decides_children (h : About library template "a" attr scope) :
    Decides library invoke scope (its "a" .attributes) attr.isComposite := by
  refine ⟨_, h.eval_its .attributes, ?_⟩
  obtain ⟨field, children⟩ := attr
  cases children <;> rfl

/-- A field is written for an attribute, unless it is a map without children. -/
theorem writes_field {owner : String}
    (h : About library (ofSchema macros config schema) "a" attr scope)
    (howner : (Expr.var "owner").eval library (Template.invoke library (fuel + 1)) scope =
      .ok (.text owner)) (hheight : scope.depth + macroCost ≤ maxNesting) :
    Writes library (Template.invoke library (fuel + 1)) scope fieldBody
      (writeField owner attr) := by
  have hmap : Decides library (Template.invoke library (fuel + 1)) scope (asks .isNestedMap)
      attr.field.isNestedMap := h.asks (by simp [fieldQuestions])
  have hchildless := hmap.both fun _ => (decides_children h).not
  rw [writeField]
  split
  · next hfails =>
      refine .cons_error (.choice hchildless ?_)
      rw [if_pos hfails]
      exact .print (.ofError (eval_childless h howner)) (.text .nil)
  · next hpasses =>
      have hinner : About library (ofSchema macros config schema) "a" attr
          (scope.inMacro [("a", attr.toValue)]) := h.inMacro (by simp [localNames]) rfl
      have htype : (Expr.call "rust_type" [.var "a"] []).eval library
          (Template.invoke library (fuel + 1)) scope = .ok (.text (rustType attr.field)) :=
        eval_aMacro h (by decide) (find_declared rfl) hheight (writes_type hinner).leaves
      have hdescription : Decides library (Template.invoke library (fuel + 1)) scope
          (isGiven (its "a" .description)) attr.field.description.isSome := h.isGiven rfl
      refine .as (.branch hchildless (by rw [if_neg hpasses]; exact .nil)
        (.when hdescription (.text (.print (h.prints_option rfl) (.text .nil)))
          (.text (.print (h.prints rfl) (.text (.print (h.prints rfl)
            (.text (.print (.ofText htype) (.text .nil))))))))) ?_
      simp [fieldText, String.append_assoc]

/-- The macro for fields writes those of the attributes that it is given. -/
theorem prints_fields {owner : String} {attributes : List Attribute} {ownerExpr listExpr : Expr}
    (hwithin : Within library (ofSchema macros config schema) scope)
    (hrange : Everywhere (·.field.InRange) attributes)
    (howner : ownerExpr.eval library (Template.invoke library (fuel + 2)) scope = .ok (.text owner))
    (hlist : listExpr.eval library (Template.invoke library (fuel + 2)) scope =
      .ok (.list (Attribute.toValues attributes)))
    (hheight : scope.depth + macroCost + 1 + macroCost ≤ maxNesting) :
    Prints library (Template.invoke library (fuel + 2)) scope
      (.call "fields" [ownerExpr, listExpr] []) (writeFields owner attributes) := by
  have hfind : scope.find? library "fields" =
      some (.macroIn 1 ⟨["owner", "attrs"], [], fieldsBody⟩) := by
    rw [hwithin.find_eq "fields" (by decide), find_declared rfl]
  have harguments : Expr.evalAll library (Template.invoke library (fuel + 2)) scope
      [ownerExpr, listExpr] = .ok [.text owner, .list (Attribute.toValues attributes)] :=
    evalAll_cons howner (evalAll_cons hlist rfl)
  let bound : List (String × Value) :=
    [("owner", .text owner), ("attrs", .list (Attribute.toValues attributes))]
  have hinner : Within library (ofSchema macros config schema) (scope.inMacro bound) :=
    hwithin.inMacro (by simp [bound, localNames])
  have hattributes : (Expr.var "attrs").eval library (Template.invoke library (fuel + 1))
      (scope.inMacro bound) = .ok (.list (Attribute.toValues attributes)) :=
    eval_var (find_inMacro scope bound "attrs")
  have hdepth : scope.depth + macroCost ≤ maxNesting := by omega
  refine .ofOutcome (eval_macroIn (by decide) hfind harguments rfl hdepth (Writes.leaves ?_))
  rw [← andThen_empty (writeFields owner attributes)]
  refine .eachAttributeIf hinner (ofSchema_knows macros_distinct) (by decide) hrange hdepth
    hattributes (fun attr _ _ _ habout => habout.isMissing rfl)
    (fun attr _ _ inner hitem habout => writes_field habout (eval_var ?_) ?_) .nil
  · exact (hitem.find_other (by decide) (by decide)).trans (find_inMacro scope bound "owner")
  · rw [hitem.depth]
    exact hheight

/-- The structure of a nested type is written. -/
theorem writes_struct (h : About library (ofSchema macros config schema) "t" attr scope)
    (hheight : scope.depth + macroCost + 1 + macroCost ≤ maxNesting) :
    Writes library (Template.invoke library (fuel + 2)) scope structBody (writeStruct attr) := by
  have hfields : Prints library (Template.invoke library (fuel + 2)) scope
      (.call "fields" [its "t" .typeName, its "t" .attributes] [])
      (writeFields attr.field.typeName attr.children) :=
    prints_fields h.within h.below (h.eval_its .typeName) (h.eval_its .attributes) hheight
  refine .as (.text (.print (h.prints rfl) (.text (.print hfields (.text .nil))))) ?_
  simp only [ok_andThen_andThen, ok_andThen, String.append_empty]
  rfl

section Attributes

variable (hrange : Everywhere (·.field.InRange) schema.attributes)

include hrange

/-- The structures of the nested types are written, if none lies too deep. -/
theorem writes_types : Writes library (Template.invoke library (fuel + 2))
    (ofSchema macros config schema)
    [.loop (.name "t") (.call Builtin.nestedTypes.name [.var "attributes"] []) false structBody []]
    (writeTypes library.maxDepth schema.attributes) := by
  have htypes : (Expr.call Builtin.nestedTypes.name [.var "attributes"] []).eval library
      (Template.invoke library (fuel + 2)) (ofSchema macros config schema) = _ :=
    eval_ofAttributes macros_distinct (IsList.nestedTypes ⟨rfl, hrange⟩)
  rw [writeTypes]
  cases hnested : nestedTypes schema.attributes library.maxDepth with
  | error fault =>
      rw [hnested] at htypes
      exact .loop_error htypes
  | ok types =>
      rw [hnested] at htypes
      refine .as (.eachAttribute ofSchema_within (ofSchema_knows macros_distinct) (by decide)
        (nestedTypes_inRange hrange hnested) ofSchema_depth htypes
        (fun _ _ _ _ hitem habout => writes_struct habout ?_) .nil) (andThen_empty _)
      rw [hitem.depth]
      change 15 ≤ 500
      decide

/-- The structures are written, if no map is without children and no nested type lies too deep. -/
theorem writes_structs : Writes library (Template.invoke library (fuel + 2))
    (ofSchema macros config schema) structs (writeStructs library.maxDepth schema) := by
  have hfields : Prints library (Template.invoke library (fuel + 2))
      (ofSchema macros config schema) (.call "fields" [.var "name", .var "attributes"] [])
      (writeFields schema.header.name schema.attributes) :=
    prints_fields ofSchema_within hrange (eval_property macros_distinct ofSchema_within rfl)
      (eval_attributes macros_distinct) (by change 14 ≤ 500; decide)
  refine .as (.text (.print (prints_property "name" macros_distinct ofSchema_within rfl)
    (.text (.print (prints_property "type_name" macros_distinct ofSchema_within rfl)
      (.text (.print hfields (.text (writes_types hrange)))))))) ?_
  simp only [ok_andThen_andThen]
  rfl

/-- The statements for the body of requests write a text. -/
theorem writes_toBody : ∃ text,
    Writes library invoke (ofSchema macros config schema) toBody (.ok text) := by
  have htype : Prints library invoke (ofSchema macros config schema) (.var "type_name")
      (.ok schema.header.typeName) := prints_property _ macros_distinct ofSchema_within rfl
  refine Writes.exists_text (.text (.print htype (.text (writes_each macros_distinct hrange
    (fun _ habout => habout.isGiven rfl) (fun _ habout => .text (.print (habout.prints rfl)
      (.text (.print (habout.prints_option rfl) (.text .nil)))))
    (writes_each macros_distinct hrange (fun _ habout => habout.flag rfl)
      (fun _ habout => .text (.print (habout.prints rfl) (.text .nil))) (.text .nil)))))) ?_
  simp only [ok_andThen, textsOf_ok]
  exact ⟨_, rfl⟩

/-- The statements for the body of responses write a text. -/
theorem writes_fromBody : ∃ text,
    Writes library invoke (ofSchema macros config schema) fromBody (.ok text) := by
  have htype : Prints library invoke (ofSchema macros config schema) (.var "type_name")
      (.ok schema.header.typeName) := prints_property _ macros_distinct ofSchema_within rfl
  refine Writes.exists_text (.print htype (.text (.print htype (.text
    (writes_each macros_distinct hrange
      (fun _ habout => (habout.flag rfl).both fun _ => habout.isMissing rfl)
      (fun _ habout => .text (.print (habout.prints rfl) (.text
        (.print (habout.prints rfl) (.text .nil))))) (.text .nil)))))) ?_
  simp only [ok_andThen, textsOf_ok]
  exact ⟨_, rfl⟩

/-- The template renders as the structures and a text after them, or fails as the structures do. -/
theorem render_source (library : Library) (config : Config) : ∃ after : String,
    source.render library (Project.schemaContext config schema) =
      (andThen (writeStructs library.maxDepth schema) (.ok after)).mapError .failed := by
  obtain ⟨request, hrequest⟩ : ∃ text, Writes library (invoke library (maxNesting + 1))
      (ofSchema macros config schema) toBody (.ok text) := writes_toBody hrange
  obtain ⟨response, hresponse⟩ : ∃ text, Writes library (invoke library (maxNesting + 1))
      (ofSchema macros config schema) fromBody (.ok text) := writes_fromBody hrange
  refine ⟨request ++ response, render_of_parse parse_source (.define (.define (Writes.leaves ?_)))⟩
  change Writes library _ (ofSchema macros config schema) _ _
  exact .append (writes_structs hrange) (.append hrequest hresponse)

end Attributes

end Stencil.Standard.Model
