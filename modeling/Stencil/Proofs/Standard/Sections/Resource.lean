import Stencil.Proofs.Standard.Sectioned
import Stencil.Proofs.Standard.Test

/-!
# Resources

The standard templates of a resource and of its test, section by section. Both are read from their
sources (`isReadFrom_source`) and pass the check of what they insert (`checked_sectioned`).
-/

namespace Stencil.Standard

open Template

namespace Resource

/-- The statement that fails if an attribute is only written when it changes, and nothing is. -/
def updateCheck : Stmt :=
  .branch (.var "no_update")
    [.loopIf (.name "a") (.var "attributes") (its "a" .writeChangesOnly) false
      [.print (.call Builtin.fail.name
          [.literal (.text "write_changes_only on '\x7b\x7d' has no effect: '\x7b\x7d' has no update"),
            its "a" .tfName, .var "name"] []),
        .text "\n"] []] []

/-- The statement that chooses the call which creates an object. -/
def callChoice : Stmt :=
  .assign (.name "create_call") (.choose (.var "put_create") (.literal (.text "client.put"))
    (.literal (.text "client.post")))

/-- The statements that write a name, and a comma if it is not the last. -/
def nameBody : List Stmt :=
  [.text "\"", .print (its "a" .tfName), .text "\"",
    .branch (.unary .not (.member (.var "loop") "last")) [.text ", "] []]

/-- The section of the resource itself. -/
def typeSection : SectionTemplate :=
  ⟨"resource",
    [.text "/// ", .print (.var "res_description"), .text "\npub struct ",
      .print (.var "type_name"), .text "Resource;\n\nimpl ", .print (.var "type_name"),
      .text "Resource \x7b\n    pub const TYPE_NAME: &'static str = \""] ++ Test.resourceName ++
    [.text "\";\n    pub const PATH: &'static str = \"", .print (.var "rest_endpoint"),
      .text "\";\n",
      .branch (isGiven (.var "minimum_version"))
        [.text "    pub const MINIMUM_VERSION: &'static str = \"",
          .print (.var "minimum_version"), .text "\";\n"] [],
      .text "    /// Attributes whose change forces the object to be replaced.\n    pub const REQUIRES_REPLACE: &'static [&'static str] = &[",
      .loopIf (.name "a") (.var "attributes") (its "a" .requiresReplace) false nameBody [],
      .text "];\n\x7d\n"]⟩

/-- The section that creates an object. -/
def createSection : SectionTemplate :=
  ⟨"create",
    [.text "impl ", .print (.var "type_name"),
      .text "Resource \x7b\n    pub fn create(client: &Client, plan: &",
      .print (.var "type_name"), .text ") -> Result<", .print (.var "type_name"),
      .text ", ClientError> \x7b\n",
      .branch (isGiven (.var "id_from_query_path"))
        [.text "        ", .print (.var "create_call"),
          .text "(Self::PATH, &plan.to_body())?;\n        let res = client.get(Self::PATH, &[])?;\n        let id = res\n            .pointer(\"/",
          .print (.var "id_from_query_path"), .text "\")\n"]
        [.text "        let res = ", .print (.var "create_call"),
          .text "(Self::PATH, &plan.to_body())?;\n        let id = res\n            .pointer(\"/response/id\")\n"],
      .text "            .and_then(|v| v.as_str())\n            .ok_or_else(|| ClientError::NotFound(Self::TYPE_NAME.to_string()))?;\n        let mut state = plan.clone();\n        state.id = Some(id.to_string());\n        Ok(state)\n    \x7d\n\x7d\n"]⟩

/-- The statements that update an object of which nothing can be updated. -/
def noUpdate : List Stmt :=
  [.text "    /// Every attribute requires replacement; update only carries state over.\n    pub fn update(_client: &Client, _state: &",
    .print (.var "type_name"), .text ", plan: &", .print (.var "type_name"), .text ") -> Result<",
    .print (.var "type_name"),
    .text ", ClientError> \x7b\n        Ok(plan.clone())\n    \x7d\n"]

/-- The statements that update an object. -/
def someUpdate : List Stmt :=
  [.text "    pub fn update(client: &Client, state: &", .print (.var "type_name"),
    .text ", plan: &", .print (.var "type_name"), .text ") -> Result<", .print (.var "type_name"),
    .text ", ClientError> \x7b\n        let id = state.id.clone().unwrap_or_default();\n        let mut body = plan.to_body();\n",
    .loopIf (.name "a") (.var "attributes") (its "a" .writeChangesOnly) false
      [.text "        if plan.", .print (its "a" .tfName), .text " == state.",
        .print (its "a" .tfName),
        .text " \x7b\n            body.as_object_mut().map(|o| o.remove(\"",
        .print (its "a" .modelName), .text "\"));\n        \x7d\n"] [],
    .text "        client.put(&format!(\"\x7b\x7d/\x7b\x7d\", Self::PATH, id), &body)?;\n        let mut next = plan.clone();\n        next.id = Some(id);\n        Ok(next)\n    \x7d\n"]

/-- The section that updates an object. -/
def updateSection : SectionTemplate :=
  ⟨"update",
    [.text "impl ", .print (.var "type_name"), .text "Resource \x7b\n",
      .branch (.var "no_update") noUpdate someUpdate, .text "\x7d\n"]⟩

/-- The statements that delete an object which cannot be deleted. -/
def noDelete : List Stmt :=
  [.text "    /// The API cannot delete this object; removal only drops it from state.\n    pub fn delete(_client: &Client, _state: &",
    .print (.var "type_name"),
    .text ") -> Result<(), ClientError> \x7b\n        Ok(())\n    \x7d\n"]

/-- The statements that delete an object. -/
def someDelete : List Stmt :=
  [.text "    pub fn delete(client: &Client, state: &", .print (.var "type_name"),
    .text ") -> Result<(), ClientError> \x7b\n        let id = state.id.clone().unwrap_or_default();\n",
    .branch (.call Builtin.hasResourceId.name [.var "attributes"] [])
      [.text "        // Identity of nested objects is part of the parent path.\n"] [],
    .text "        client.delete(&format!(\"\x7b\x7d/\x7b\x7d\", Self::PATH, id))\n    \x7d\n"]

/-- The section that deletes an object. -/
def deleteSection : SectionTemplate :=
  ⟨"delete",
    [.text "impl ", .print (.var "type_name"), .text "Resource \x7b\n",
      .branch (.var "no_delete") noDelete someDelete, .text "\x7d\n"]⟩

/-- The number of parts of the identifier by which an object is imported. -/
def parts : Expr := .call Builtin.importParts.name [.var "attributes"] []

/-- The statements that take an attribute from its part of the identifier. -/
def partBody : List Stmt :=
  [.branch (isTyped itsType .string)
    [.text "        state.", .print (its "a" .tfName), .text " = Some(parts[",
      .print (.member (.var "loop") "index0"), .text "].to_string());\n"]
    [.text "        state.", .print (its "a" .tfName), .text " = parts[",
      .print (.member (.var "loop") "index0"), .text "].parse().ok();\n"]]

/-- The section that imports an object. -/
def importSection : SectionTemplate :=
  ⟨"import",
    [.text "impl ", .print (.var "type_name"),
      .text "Resource \x7b\n    /// Import identifier with ", .print parts,
      .text " comma-separated part(s).\n    pub fn import(id: &str) -> Result<",
      .print (.var "type_name"),
      .text ", ClientError> \x7b\n        let parts: Vec<&str> = id.split(',').collect();\n        if parts.len() != ",
      .print parts,
      .text " \x7b\n            return Err(ClientError::InvalidImportId(id.to_string()));\n        \x7d\n        let mut state = ",
      .print (.var "type_name"), .text "::default();\n",
      .loopIf (.name "a") (.var "attributes") (.either (its "a" .isReference) (its "a" .isId)) false
        partBody [],
      .text "        state.id = Some(parts[",
      .print (.call Builtin.subtract.name [parts, .literal (.int 1)] []),
      .text "].to_string());\n        Ok(state)\n    \x7d\n\x7d\n"]⟩

/-- The template, section by section. -/
def sectioned : Sectioned :=
  ⟨[updateCheck, callChoice],
    [headerSection, clientSection, typeSection, createSection, updateSection, deleteSection,
      importSection]⟩

/-- The source of the template. -/
def source : Source := ⟨"resource.rs", .code, text resource⟩

set_option maxRecDepth 100000 in
/-- The template is written down as the source says. -/
theorem isReadFrom_source : sectioned.IsReadFrom source := by
  constructor
  all_goals
    unfold source resource
    rw [letters_code]
    repeat rw [text_cons]
    rw [text_nil]
  · conv_rhs =>
      simp only [Sectioned.stmts, sectioned, sectionsStmts_cons, sectionsStmts_singleton,
        SectionTemplate.stmts, headerSection, clientSection, typeSection, createSection,
        updateSection, deleteSection, importSection, Test.resourceName, List.cons_append,
        List.nil_append, joinTexts_cons, joinTexts_nil, joinText]
      unfold openingText closingText
      repeat rw [← String.ofList_append]
    rfl
  · decide +kernel

end Resource

namespace Test

/-- The section of the test. -/
def testSection : SectionTemplate :=
  ⟨"testAcc",
    [.text "#[test]\nfn test_acc_", .print (.var "tf_name"), .text "_resource() \x7b\n",
      .branch (.var "test_tags") tagList [],
      .text "    let minimum = format!(\"\x7b\x7d\x7b\x7d\", PREREQUISITES, config_minimum());\n    acc::apply(&minimum).check(\""] ++
    resourceName ++
    [.text ".test\", &[]);\n\n    let all = format!(\"\x7b\x7d\x7b\x7d\", PREREQUISITES, config_all());\n    acc::apply(&all).check(\""] ++
    resourceName ++
    [.text ".test\", &[\n",
      .loopIf (.name "a") (.var "attributes") isChecked false
        [.text "        (\"", .print (its "a" .tfName), .text "\", r#\"", .print chosen,
          .text "\"#),\n"] [],
      .text "    ]);\n",
      .branch (.unary .not (.var "no_resource"))
        (.text "    acc::import_state(\"" :: resourceName ++
          [.text ".test\", ", .print Resource.parts, .text ");\n"]) [],
      .text "\x7d\n"]⟩

/-- The section of the least configuration. -/
def leastSection : SectionTemplate :=
  ⟨"testAccConfigMinimal",
    .text "fn config_minimum() -> String \x7b\n    let mut config = String::from(\"resource \\\"" ::
    resourceName ++
    [.text "\\\" \\\"test\\\" \x7b\\n\");\n",
      .loopIf (.name "a") (.var "attributes") isMinimal false
        [.text "    config.push_str(r#\"  ", .print (its "a" .tfName), .text " = ",
          .print (.call "hcl" [.var "a"] []), .text "\n\"#);\n"] [],
      .text "    config.push_str(\"\x7d\\n\");\n    config\n\x7d\n"]⟩

/-- The section of the configuration with all attributes. -/
def allSection : SectionTemplate :=
  ⟨"testAccConfigAll",
    .text "fn config_all() -> String \x7b\n    let mut config = String::from(\"resource \\\"" ::
    resourceName ++
    [.text "\\\" \\\"test\\\" \x7b\\n\");\n",
      .loop (.name "a") (.var "attributes") true loop.body [],
      .text "    config.push_str(\"\x7d\\n\");\n    config\n\x7d\n"]⟩

/-- The template, section by section. -/
def sectioned : Sectioned :=
  ⟨[.define "hcl" ["a"] [] hclBody, .define "testable" ["a"] [] (saysYes isTestable)],
    [headerSection, acceptanceSection, testSection, prerequisitesSection, leastSection,
      allSection]⟩

set_option maxRecDepth 100000 in
/-- The template is written down as the source says. -/
theorem isReadFrom_source : sectioned.IsReadFrom source where
  parse := by
    rw [parse_source, Option.some.injEq]
    conv_rhs =>
      simp only [Sectioned.stmts, sectioned, sectionsStmts_cons, sectionsStmts_singleton,
        SectionTemplate.stmts, headerSection, acceptanceSection, testSection, prerequisitesSection,
        leastSection, allSection, resourceName, List.cons_append, List.nil_append, joinTexts_cons,
        joinTexts_nil, joinText]
      unfold openingText closingText
      repeat rw [← String.ofList_append]
    rfl
  names := by
    unfold source resourceTest
    rw [letters_code]
    repeat rw [text_cons]
    rw [text_nil]
    decide +kernel

end Test

end Stencil.Standard
