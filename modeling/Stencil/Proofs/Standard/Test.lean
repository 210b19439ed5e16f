import Stencil.Proofs.Standard.Source

/-!
# The test of a resource

What the standard template of a resource's test writes for a schema: text before the configuration
with all attributes, which is there for every schema, and that configuration, which fails if an
attribute stands too deep (`render_source`).
-/

namespace Stencil.Standard.Test

open Schema (Attribute Everywhere Field Levels)
open Template

/-- The value that a test gives to an attribute. -/
def chosen : Expr :=
  .choose (isGiven (its "a" .testValue)) (its "a" .testValue) (its "a" .exampleValue)

/-- The value that a test gives to a field. -/
def chosenText (field : Field) : String :=
  (field.testValue.or field.exampleValue).getD "none"

/-- The attribute has a value in tests. -/
def isTestable : Expr :=
  .both (.both (.unary .not (its "a" .excludeTest)) (isMissing (its "a" .value)))
    (.either (.either (asks .isNested) (isGiven (its "a" .testValue)))
      (isGiven (its "a" .exampleValue)))

/-- The field has a value in tests. -/
def visible (field : Field) : Bool :=
  (!field.excludeTest && field.value.isNone) &&
    ((field.isNested || field.testValue.isSome) || field.exampleValue.isSome)

/-- What the template writes for an attribute. -/
def loop : NestedLoop where
  visible := "testable"
  opening := [.text "    config.push_str(\"", .print (its "a" .tfName), .text " = [\x7b\\n\");\n"]
  line := [.text "    config.push_str(r#\"", .print (its "a" .tfName), .text " = ",
    .print (.call "hcl" [.var "a"] []), .text "\n\"#);\n"]
  closing := [.text "config.push_str(\"\x7d]\\n\");\n"]

/-- What stands in a test for an attribute. -/
def block : NestedText where
  visible := visible
  opening _ field := "    config.push_str(\"" ++ field.tfName ++ " = [\x7b\\n\");\n"
  line _ field := "    config.push_str(r#\"" ++ field.tfName ++ " = " ++
    literalText field (chosenText field) ++ "\n\"#);\n"
  closing _ _ := "config.push_str(\"\x7d]\\n\");\n"

/-- The body of the macro for literals. -/
def hclBody : List Stmt := [.assign (.name "v") chosen, literal (.var "v")]

/-- The statements that name the resource. -/
def resourceName : List Stmt := [.print (.var "provider"), .text "_", .print (.var "tf_name")]

/-- The attribute is checked in tests. -/
def isChecked : Expr :=
  .both (.both (.both (.both (.unary .not (its "a" .excludeTest))
    (.unary .not (its "a" .writeOnly))) (isMissing (its "a" .value))) (.unary .not (asks .isNested)))
    (.either (isGiven (its "a" .testValue)) (isGiven (its "a" .exampleValue)))

/-- The attribute has a value in the least test. -/
def isMinimal : Expr :=
  .both (.both (its "a" .mandatory) (.call "testable" [.var "a"] [])) (.unary .not (asks .isNested))

/-- The statements that write a tag, and a comma if it is not the last. -/
def tagBody : List Stmt :=
  [.text "\"", .print (.var "t"), .text "\"",
    .branch (.unary .not (.member (.var "loop") "last")) [.text ", "] []]

/-- The statements that enable the test by its tags. -/
def tagList : List Stmt :=
  [.text "    if !acc::tags_enabled(&[", .loop (.name "t") (.var "test_tags") false tagBody [],
    .text "]) \x7b\n        return;\n    \x7d\n"]

/-- The statements up to the test of the least configuration. -/
def title : List Stmt :=
  [.text "//template:begin header\n// Code generated by provider-gen. Edit only outside template sections.\n//template:end header\n\n//template:begin imports\nmod acc;\n//template:end imports\n\n//template:begin testAcc\n#[test]\nfn test_acc_",
    .print (.var "tf_name"), .text "_resource() \x7b\n", .branch (.var "test_tags") tagList [],
    .text "    let minimum = format!(\"\x7b\x7d\x7b\x7d\", PREREQUISITES, config_minimum());\n    acc::apply(&minimum).check(\""]

/-- The statements for the test of the configuration with all attributes, and what comes before the
configurations. -/
def checks : List Stmt :=
  [.text ".test\", &[\n",
    .loopIf (.name "a") (.var "attributes") isChecked false
      [.text "        (\"", .print (its "a" .tfName), .text "\", r#\"", .print chosen,
        .text "\"#),\n"] [],
    .text "    ]);\n",
    .branch (.unary .not (.var "no_resource"))
      (.text "    acc::import_state(\"" :: (resourceName ++
        [.text ".test\", ", .print (.call Builtin.importParts.name [.var "attributes"] []),
          .text ");\n"])) [],
    .text "\x7d\n//template:end testAcc\n\n//template:begin testPrerequisites\nconst PREREQUISITES: &str = r#\"\n",
    .branch (isGiven (.var "test_prerequisites"))
      [.print (.var "test_prerequisites"), .text "\n"] [],
    .text "\"#;\n//template:end testPrerequisites\n\n//template:begin testAccConfigMinimal\nfn config_minimum() -> String \x7b\n    let mut config = String::from(\"resource \\\""]

/-- The statements for the least configuration. -/
def least : List Stmt :=
  [.text "\\\" \\\"test\\\" \x7b\\n\");\n",
    .loopIf (.name "a") (.var "attributes") isMinimal false
      [.text "    config.push_str(r#\"  ", .print (its "a" .tfName), .text " = ",
        .print (.call "hcl" [.var "a"] []), .text "\n\"#);\n"] [],
    .text "    config.push_str(\"\x7d\\n\");\n    config\n\x7d\n//template:end testAccConfigMinimal\n\n//template:begin testAccConfigAll\nfn config_all() -> String \x7b\n    let mut config = String::from(\"resource \\\""]

/-- The statements before the configuration with all attributes. -/
def head : List Stmt :=
  title ++ resourceName ++
    [.text ".test\", &[]);\n\n    let all = format!(\"\x7b\x7d\x7b\x7d\", PREREQUISITES, config_all());\n    acc::apply(&all).check(\""] ++
    resourceName ++ checks ++ resourceName ++ least ++ resourceName ++
    [.text "\\\" \\\"test\\\" \x7b\\n\");\n"]

/-- What stands after the configuration with all attributes. -/
def foot : String :=
  "    config.push_str(\"\x7d\\n\");\n    config\n\x7d\n//template:end testAccConfigAll\n"

/-- The template. -/
def tree : List Stmt :=
  [.define "hcl" ["a"] [] hclBody, .define "testable" ["a"] [] (saysYes isTestable)] ++ head ++
    [.loop (.name "a") (.var "attributes") true loop.body [], .text foot]

/-- The source of the template. -/
def source : Source := ⟨"resource_test.rs", .code, text resourceTest⟩

set_option maxRecDepth 100000 in
/-- The template is written down as the source says. -/
theorem parse_source : parse? source.letters = some tree := by
  unfold source resourceTest
  rw [letters_code]
  repeat rw [text_cons]
  rw [text_nil]
  rfl

/-- The macros of the template. -/
def macros : List (String × Value) :=
  [("testable", .macroIn 1 ⟨["a"], [], saysYes isTestable⟩),
    ("hcl", .macroIn 1 ⟨["a"], [], hclBody⟩)]

variable {library : Library} {invoke : Invoke} {config : Config} {schema : Schema} {scope : Scope}
  {template : Scope} {attr : Attribute} {fuel depth : Nat}

/-- No macro hides anything. -/
theorem macros_distinct : Distinct macros := by decide

/-- The value for tests is the one that is meant for them, or else the example. -/
theorem eval_chosen (h : About library template "a" attr scope) :
    chosen.eval library invoke scope =
      .ok (Schema.optionalValue .text (attr.field.testValue.or attr.field.exampleValue)) := by
  have hgiven : Decides library invoke scope (isGiven (its "a" .testValue))
      attr.field.testValue.isSome := h.isGiven rfl
  rw [chosen, eval_choose hgiven, h.eval_its .testValue, h.eval_its .exampleValue]
  simp only [Attribute.property]
  cases attr.field.testValue <;> rfl

/-- An attribute has a value in tests if its field does. -/
theorem decides_isTestable (h : About library template "a" attr scope) :
    Decides library invoke scope isTestable (visible attr.field) :=
  .both ((h.flag rfl).not.both fun _ => h.isMissing rfl)
    fun _ => ((h.asks (by simp [fieldQuestions])).either fun _ => h.isGiven rfl).either
      fun _ => h.isGiven rfl

/-- The macro for literals writes the value for tests. -/
theorem prints_hcl (h : About library (ofSchema macros config schema) "a" attr scope)
    (hheight : scope.depth + macroCost ≤ maxNesting) :
    Prints library (Template.invoke library (fuel + 1)) scope (.call "hcl" [.var "a"] [])
      (.ok (literalText attr.field (chosenText attr.field))) := by
  -- The value for tests is bound to `v` before the literal is written.
  let value := Schema.optionalValue .text (attr.field.testValue.or attr.field.exampleValue)
  have hinner : About library (ofSchema macros config schema) "a" attr
      (scope.inMacro [("a", attr.toValue)]) := h.inMacro (by simp [localNames]) rfl
  have hvalue : chosen.eval library (Template.invoke library fuel)
      (scope.inMacro [("a", attr.toValue)]) = .ok value := eval_chosen hinner
  have hset : About library (ofSchema macros config schema) "a" attr
      (scope.inMacro [("v", value), ("a", attr.toValue)]) :=
    h.inMacro (by simp [localNames]) rfl
  have hshown : Prints library (Template.invoke library fuel)
      (scope.inMacro [("v", value), ("a", attr.toValue)]) (.var "v")
      (.ok (chosenText attr.field)) :=
    .option (eval_var (find_inMacro scope [("v", value), ("a", attr.toValue)] "v"))
  exact .ofText (eval_aMacro h (by decide) (find_declared rfl) hheight
    (.assign hvalue (writes_literal hset hshown).leaves))

/-- The parts of the loop write what stands in a test. -/
theorem means : loop.Means library (ofSchema macros config schema) block where
  visible hat := decides_aMacro hat.about (by decide) (find_declared rfl) hat.canCall
    decides_isTestable
  opening hat := .as (.text (.print (hat.about.prints rfl) (.text .nil))) (by
    simp [block, String.append_assoc])
  line hat := .as (.text (.print (hat.about.prints rfl)
    (.text (.print (prints_hcl hat.about hat.canCall) (.text .nil))))) (by
      simp [block, String.append_assoc])
  closing _ := .as (.text .nil) (by simp [block])

/-- The name of the resource is written. -/
theorem writes_resourceName : Writes library invoke (ofSchema macros config schema) resourceName
    (.ok (config.provider ++ "_" ++ schema.header.tfName)) :=
  .as (.print (prints_property "provider" macros_distinct ofSchema_within rfl)
    (.text (.print (prints_property "tf_name" macros_distinct ofSchema_within rfl) .nil)))
    (by simp [String.append_assoc])

/-- A tag is written, and a comma if it is not the last. -/
theorem writes_tag {outer inner : Scope} {tag : String} {length depth index : Nat}
    (h : AtItem outer "t" (loopAt "t" tagBody false true length depth index) (.text tag) inner) :
    Writes library invoke inner tagBody
      (.ok ("\"" ++ tag ++ "\"" ++ if index + 1 == length then "" else ", ")) := by
  have htag : (Expr.var "t").eval library invoke inner = .ok (.text tag) := eval_var h.find_item
  have hlast : Decides library invoke inner (.member (.var "loop") "last")
      (index + 1 == length) := by
    exact .ofBool (eval_member (eval_var (h.find_loop rfl (by decide))) "last")
  refine .as (.text (.print (.ofText htag) (.text (.when hlast.not (.text .nil) .nil)))) ?_
  cases index + 1 == length <;> simp [String.append_assoc]

/-- The text for tags. -/
def tagText (tags : List String) : String :=
  "    if !acc::tags_enabled(&[" ++ (String.join (tags.zipIdx.map fun pair =>
    "\"" ++ pair.1 ++ "\"" ++ if pair.2 + 1 == tags.length then "" else ", ") ++
      "]) \x7b\n        return;\n    \x7d\n")

/-- The tags are written one after the other. -/
theorem writes_tagList : Writes library invoke (ofSchema macros config schema) tagList
    (.ok (tagText schema.header.testTags)) := by
  have htags : (Expr.var "test_tags").eval library invoke (ofSchema macros config schema) =
      .ok (.list (schema.header.testTags.map .text)) :=
    eval_property macros_distinct ofSchema_within rfl
  have hdepth : (ofSchema macros config schema).depth ≤ maxNesting := ofSchema_depth
  refine .as (.text (.loop ⟨_, htags, rfl⟩ hdepth (fun _ _ _ hinner => writes_tag hinner)
    (.text .nil))) ?_
  simp only [textsOf_ok, ok_andThen, String.append_empty]
  rfl

/-- A field is checked by its flags and its value. -/
def checked (field : Field) : Bool :=
  (((!field.excludeTest && !field.writeOnly) && field.value.isNone) && !field.isNested) &&
    (field.testValue.isSome || field.exampleValue.isSome)

/-- An attribute is checked if its field is. -/
theorem decides_isChecked (h : About library template "a" attr scope) :
    Decides library invoke scope isChecked (checked attr.field) :=
  .both (.both (.both ((h.flag rfl).not.both fun _ => (h.flag rfl).not) fun _ => h.isMissing rfl)
    fun _ => (h.asks (by simp [fieldQuestions])).not)
      fun _ => (h.isGiven rfl).either fun _ => h.isGiven rfl

/-- A field has a value in the least test if it must have one. -/
def minimal (field : Field) : Bool :=
  (field.mandatory && visible field) && !field.isNested

/-- An attribute has a value in the least test if its field has. -/
theorem decides_isMinimal (h : About library (ofSchema macros config schema) "a" attr scope)
    (hheight : scope.depth + macroCost ≤ maxNesting) :
    Decides library (Template.invoke library (fuel + 1)) scope isMinimal (minimal attr.field) :=
  .both ((h.flag rfl).both fun _ =>
      decides_aMacro h (by decide) (find_declared rfl) hheight decides_isTestable)
    fun _ => (h.asks (by simp [fieldQuestions])).not

/-- The statements up to the test of the least configuration write a text. -/
theorem writes_title : ∃ text,
    Writes library invoke (ofSchema macros config schema) title (.ok text) := by
  have hany : Decides library invoke (ofSchema macros config schema) (.var "test_tags")
      !(schema.header.testTags.map Value.text).isEmpty :=
    ⟨_, eval_property macros_distinct ofSchema_within rfl, rfl⟩
  exact ⟨_, .text (.print (prints_property "tf_name" macros_distinct ofSchema_within rfl)
    (.text (.when hany writes_tagList (.text .nil))))⟩

section Attributes

variable (hrange : Everywhere (·.field.InRange) schema.attributes)

include hrange

/-- The statements for the test of the configuration with all attributes write a text. -/
theorem writes_checks : ∃ text,
    Writes library invoke (ofSchema macros config schema) checks (.ok text) := by
  have hresource : Decides library invoke (ofSchema macros config schema) (.var "no_resource")
      schema.header.noResource := .ofBool (eval_property macros_distinct ofSchema_within rfl)
  have hprerequisites : (Expr.var "test_prerequisites").eval library invoke
      (ofSchema macros config schema) =
        .ok (Schema.optionalValue .text schema.header.testPrerequisites) :=
    eval_property macros_distinct ofSchema_within rfl
  have hparts : (Expr.call Builtin.importParts.name [.var "attributes"] []).eval library invoke
      (ofSchema macros config schema) =
        .ok (.int (clampInt64 (Schema.importParts schema.attributes))) :=
    eval_ofAttributes macros_distinct (IsList.importParts ⟨rfl, hrange⟩)
  have himport : Writes library invoke (ofSchema macros config schema)
      [.text ".test\", ", .print (.call Builtin.importParts.name [.var "attributes"] []),
        .text ");\n"] (.ok _) :=
    .text (.print (.ofValue hparts rfl) (.text .nil))
  refine Writes.exists_text (.text (writes_each macros_distinct hrange
    (fun _ => decides_isChecked) (fun _ habout => .text (.print (habout.prints rfl)
      (.text (.print (.option (eval_chosen habout)) (.text .nil)))))
    (.text (.when hresource.not (.text (.append writes_resourceName himport))
      (.text (.when (.given hprerequisites) (.print (.option hprerequisites) (.text .nil))
        (.text .nil))))))) ?_
  simp only [ok_andThen, textsOf_ok]
  exact ⟨_, rfl⟩

/-- The statements for the least configuration write a text. -/
theorem writes_least : ∃ text, Writes library (Template.invoke library (fuel + 1))
    (ofSchema macros config schema) least (.ok text) := by
  refine Writes.exists_text (.text (writes_each macros_distinct hrange
    (fun hheight habout => decides_isMinimal habout hheight)
    (fun hheight habout => .text (.print (habout.prints rfl)
      (.text (.print (prints_hcl habout hheight) (.text .nil)))))
    (.text .nil))) ?_
  simp only [ok_andThen, textsOf_ok]
  exact ⟨_, rfl⟩

/-- The statements before the configuration with all attributes write a text. -/
theorem writes_head : ∃ text, Writes library (Template.invoke library (fuel + 1))
    (ofSchema macros config schema) head (.ok text) := by
  obtain ⟨_, htitle⟩ : ∃ text, Writes library (Template.invoke library (fuel + 1))
      (ofSchema macros config schema) title (.ok text) := writes_title
  obtain ⟨_, hchecks⟩ : ∃ text, Writes library (Template.invoke library (fuel + 1))
      (ofSchema macros config schema) checks (.ok text) := writes_checks hrange
  obtain ⟨_, hleast⟩ : ∃ text, Writes library (Template.invoke library (fuel + 1))
      (ofSchema macros config schema) least (.ok text) := writes_least hrange
  have hname : Writes library (Template.invoke library (fuel + 1))
      (ofSchema macros config schema) resourceName _ := writes_resourceName
  exact ⟨_, .append (.append (.append (.append (.append (.append (.append (.append htitle hname)
    (.text .nil)) hname) hchecks) hname) hleast) hname) (.text .nil)⟩

/-- The template renders as a text with the configuration, or fails as the attributes do. -/
theorem render_source (hlevels : Levels 64 schema.attributes) (library : Library)
    (config : Config) : ∃ before : String,
    source.render library (Project.schemaContext config schema) =
      (andThen (.ok before)
        (andThen (block.writeAll library.maxDepth 1 schema.attributes) (.ok foot))).mapError
          .failed := by
  obtain ⟨before, hbefore⟩ : ∃ text, Writes library (Template.invoke library (maxNesting + 1))
      (ofSchema macros config schema) head (.ok text) := writes_head hrange
  refine ⟨before, render_of_parse parse_source (.define (.define (Writes.leaves ?_)))⟩
  change Writes library _ (ofSchema macros config schema) _ _
  exact .append hbefore (.append (writes_attributes macros_distinct means hrange hlevels)
    (.as (.text .nil) (by simp)))

end Attributes

end Stencil.Standard.Test
