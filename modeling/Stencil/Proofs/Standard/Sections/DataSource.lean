import Stencil.Proofs.Standard.Sectioned
import Stencil.Proofs.Standard.Test

/-!
# Data sources

The standard templates of a data source and of its test, section by section. Both are read from
their sources (`isReadFrom_source`) and pass the check of what they insert (`checked_sectioned`).
-/

namespace Stencil.Standard

open Template

namespace DataSource

/-- The section of the data source itself. -/
def typeSection : SectionTemplate :=
  ⟨"dataSource",
    [.text "/// ", .print (.var "ds_description"), .text "\npub struct ",
      .print (.var "type_name"), .text "DataSource;\n\nimpl ", .print (.var "type_name"),
      .text "DataSource \x7b\n    pub const TYPE_NAME: &'static str = \""] ++ Test.resourceName ++
    [.text "\";\n    pub const PATH: &'static str = \"", .print (.var "rest_endpoint"),
      .text "\";\n",
      .branch (isGiven (.var "doc_category"))
        [.text "    pub const CATEGORY: &'static str = \"", .print (.var "doc_category"),
          .text "\";\n"] [],
      .text "\x7d\n"]⟩

/-- The section that reads an object by its name or its identifier. -/
def readSection : SectionTemplate :=
  ⟨"read",
    [.text "impl ", .print (.var "type_name"), .text "DataSource \x7b\n",
      .branch (.var "data_source_name_query")
        [.text "    /// Look the object up by name, then read it by id.\n    pub fn read(client: &Client, name: &str) -> Result<",
          .print (.var "type_name"),
          .text ", ClientError> \x7b\n        let found = client.get(Self::PATH, &[(\"name\", name)])?;\n        let id = found\n            .pointer(\"/response/0/id\")\n            .and_then(|v| v.as_str())\n            .ok_or_else(|| ClientError::NotFound(name.to_string()))?\n            .to_string();\n        Self::read_by_id(client, &id)\n    \x7d\n\n"]
        [],
      .text "    pub fn read_by_id(client: &Client, id: &str) -> Result<",
      .print (.var "type_name"),
      .text ", ClientError> \x7b\n        let res = client.get(&format!(\"\x7b\x7d/\x7b\x7d\", Self::PATH, id), &[])?;\n        let mut state = ",
      .print (.var "type_name"),
      .text " \x7b\n            id: Some(id.to_string()),\n            ..Default::default()\n        \x7d;\n        state.from_body(&res[\"response\"]);\n        Ok(state)\n    \x7d\n\x7d\n"]⟩

/-- The template, section by section. -/
def sectioned : Sectioned :=
  ⟨[], [headerSection, clientSection, typeSection, readSection]⟩

/-- The source of the template. -/
def source : Source := ⟨"data_source.rs", .code, text dataSource⟩

set_option maxRecDepth 100000 in
/-- The template is written down as the source says. -/
theorem isReadFrom_source : sectioned.IsReadFrom source := by
  constructor
  all_goals
    unfold source dataSource
    rw [letters_code]
    repeat rw [text_cons]
    rw [text_nil]
  · conv_rhs =>
      simp only [Sectioned.stmts, sectioned, sectionsStmts_cons, sectionsStmts_singleton,
        SectionTemplate.stmts, headerSection, clientSection, typeSection, readSection,
        Test.resourceName, List.cons_append, List.nil_append, joinTexts_cons, joinTexts_nil,
        joinText]
      unfold openingText closingText
      repeat rw [← String.ofList_append]
    rfl
  · decide +kernel

end DataSource

namespace DataSourceTest

/-- The attribute can be shown by a test. -/
def hasSample : Expr :=
  .either (isGiven (its "a" .testValue)) (isGiven (its "a" .exampleValue))

/-- The attribute stands in the configuration of the object that is read. -/
def isConfigured : Expr :=
  .both (.both (.both (.unary .not (its "a" .excludeTest)) (isMissing (its "a" .value)))
    (.unary .not (asks .isNested))) hasSample

/-- The statements that write a line with an attribute and its literal. -/
def lineBody : List Stmt :=
  [.text "  ", .print (its "a" .tfName), .text " = ", .print (.call "hcl" [.var "a"] []),
    .text "\n"]

/-- The section of the test. -/
def testSection : SectionTemplate :=
  ⟨"testAccDataSource",
    [.text "#[test]\nfn test_acc_", .print (.var "tf_name"), .text "_data_source() \x7b\n",
      .branch (.var "test_tags") Test.tagList [],
      .branch (isGiven (.var "minimum_version"))
        [.text "    if !acc::version_at_least(\"", .print (.var "minimum_version"),
          .text "\") \x7b\n        return;\n    \x7d\n"] [],
      .text "    let config = format!(\"\x7b\x7d\x7b\x7d\", PREREQUISITES, CONFIG);\n    acc::apply(&config).check(\"data."] ++
    Test.resourceName ++
    [.text ".test\", &[\n",
      .loopIf (.name "a") (.var "attributes") Test.isChecked false
        [.text "        (\"", .print (its "a" .tfName), .text "\", r#\"", .print Test.chosen,
          .text "\"#),\n"] [],
      .text "    ]);\n\x7d\n"]⟩

/-- The section of the configuration that is tested. -/
def configSection : SectionTemplate :=
  ⟨"testAccDataSourceConfig",
    .text "const CONFIG: &str = r#\"\nresource \"" :: Test.resourceName ++
    [.text "\" \"test\" \x7b\n",
      .loopIf (.name "a") (.var "attributes") isConfigured false lineBody [],
      .text "\x7d\n\ndata \""] ++ Test.resourceName ++
    [.text "\" \"test\" \x7b\n",
      .branch (.var "data_source_name_query")
        (.text "  name = " :: Test.resourceName ++ [.text ".test.name\n"])
        (.text "  id = " :: Test.resourceName ++ [.text ".test.id\n"]),
      .loopIf (.name "a") (.var "attributes") (.both (its "a" .isReference) hasSample) false lineBody
        [],
      .text "\x7d\n\"#;\n"]⟩

/-- The template, section by section. -/
def sectioned : Sectioned :=
  ⟨[.define "hcl" ["a"] [] Test.hclBody],
    [headerSection, acceptanceSection, testSection, prerequisitesSection, configSection]⟩

/-- The source of the template. -/
def source : Source := ⟨"data_source_test.rs", .code, text dataSourceTest⟩

set_option maxRecDepth 100000 in
/-- The template is written down as the source says. -/
theorem isReadFrom_source : sectioned.IsReadFrom source := by
  constructor
  all_goals
    unfold source dataSourceTest
    rw [letters_code]
    repeat rw [text_cons]
    rw [text_nil]
  · conv_rhs =>
      simp only [Sectioned.stmts, sectioned, sectionsStmts_cons, sectionsStmts_singleton,
        SectionTemplate.stmts, headerSection, acceptanceSection, testSection, prerequisitesSection,
        configSection, Test.resourceName, List.cons_append, List.nil_append, joinTexts_cons,
        joinTexts_nil, joinText]
      unfold openingText closingText
      repeat rw [← String.ofList_append]
    rfl
  · decide +kernel

end DataSourceTest

end Stencil.Standard
