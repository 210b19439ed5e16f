import Stencil.Proofs.Standard.Model
import Stencil.Proofs.Standard.Sectioned

/-!
# Sections of the data model

The standard template of the data model, section by section. It is read from its source
(`isReadFrom_source`) and passes the check of what it inserts (`checked_sectioned`).
-/

namespace Stencil.Standard

open Template

namespace Model

/-- The section that imports what the structures need. -/
def importsSection : SectionTemplate :=
  ⟨"imports",
    [.text "use std::collections::BTreeMap;\n\nuse serde::\x7bDeserialize, Serialize\x7d;\nuse serde_json::\x7bjson, Value\x7d;\n"]⟩

/-- The section with the structures. -/
def structsSection : SectionTemplate :=
  ⟨"model",
    [.text "/// State of ", .print (.var "name"),
      .text " as tracked by the provider.\n#[derive(Debug, Clone, Default, PartialEq, Serialize, Deserialize)]\npub struct ",
      .print (.var "type_name"), .text " \x7b\n    #[serde(skip)]\n    pub id: Option<String>,\n",
      .print (.call "fields" [.var "name", .var "attributes"] []), .text "\x7d\n",
      .loop (.name "t") (.call Builtin.nestedTypes.name [.var "attributes"] []) false structBody
        []]⟩

/-- The section for the body of requests. -/
def toBodySection : SectionTemplate :=
  ⟨"toBody",
    [.text "impl ", .print (.var "type_name"),
      .text " \x7b\n    /// Request body for create and update.\n    pub fn to_body(&self) -> Value \x7b\n        let mut body = serde_json::to_value(self).unwrap_or(Value::Null);\n",
      .loopIf (.name "a") (.var "attributes") (isGiven (its "a" .value)) false
        [.text "        body[\"", .print (its "a" .modelName), .text "\"] = json!(",
          .print (its "a" .value), .text ");\n"] [],
      .loopIf (.name "a") (.var "attributes") (its "a" .writeOnly) false
        [.text "        // ", .print (its "a" .tfName),
          .text " is write-only and never read back\n"] [],
      .text "        body\n    \x7d\n\x7d\n"]⟩

/-- The section for the body of responses. -/
def fromBodySection : SectionTemplate :=
  ⟨"fromBody",
    [.text "impl ", .print (.var "type_name"),
      .text " \x7b\n    /// Refresh state from a read response, keeping the id and write-only values.\n    pub fn from_body(&mut self, res: &Value) \x7b\n        let Ok(mut fresh) = serde_json::from_value::<",
      .print (.var "type_name"),
      .text ">(res.clone()) else \x7b\n            return;\n        \x7d;\n        fresh.id = self.id.take();\n",
      .loopIf (.name "a") (.var "attributes")
        (.both (its "a" .writeOnly) (isMissing (its "a" .value))) false
        [.text "        fresh.", .print (its "a" .tfName), .text " = self.",
          .print (its "a" .tfName), .text ".take();\n"] [],
      .text "        *self = fresh;\n    \x7d\n\x7d\n"]⟩

/-- The template, section by section. -/
def sectioned : Sectioned :=
  ⟨[.define "rust_type" ["a"] [] typeBody, .define "fields" ["owner", "attrs"] [] fieldsBody],
    [headerSection, importsSection, structsSection, toBodySection, fromBodySection]⟩

set_option maxRecDepth 100000 in
/-- The template is written down as the source says. -/
theorem isReadFrom_source : sectioned.IsReadFrom source where
  parse := by
    rw [parse_source, Option.some.injEq]
    conv_rhs =>
      simp only [Sectioned.stmts, sectioned, sectionsStmts_cons, sectionsStmts_singleton,
        SectionTemplate.stmts, headerSection, importsSection, structsSection, toBodySection,
        fromBodySection, List.cons_append, List.nil_append, joinTexts_cons, joinTexts_nil, joinText]
      unfold openingText closingText
      repeat rw [← String.ofList_append]
    rfl
  names := by
    unfold source model
    rw [letters_code]
    repeat rw [text_cons]
    rw [text_nil]
    decide +kernel

end Model

end Stencil.Standard
