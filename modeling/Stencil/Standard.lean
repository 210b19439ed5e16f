import Stencil.Artifact

/-!
# Standard templates

The templates that come with the program, one for each artifact, and two for the outputs that are
made once. A template is given by its lines; in the text each line has its end.
-/

namespace Stencil.Standard

/-- Lines as one text, each with its end. -/
def text (lines : List String) : String :=
  String.join (lines.map (· ++ "\n"))

/-- The data model of a schema. -/
def model : List String :=
  ["#![cfg(any())]",
    "\x7b% macro rust_type(a) %\x7d\x7b% if is_list_set(a) %\x7d\x7b% if a.element_type == \"Int64\" %\x7dVec<i64>\x7b% elif a.element_type == \"Float64\" %\x7dVec<f64>\x7b% elif a.element_type == \"Bool\" %\x7dVec<bool>\x7b% else %\x7dVec<String>\x7b% endif %\x7d\x7b% elif is_nested_map(a) %\x7dBTreeMap<String, \x7b\x7b a.type_name \x7d\x7d>\x7b% elif is_nested(a) %\x7dVec<\x7b\x7b a.type_name \x7d\x7d>\x7b% elif a[\"type\"] == \"Int64\" %\x7di64\x7b% elif a[\"type\"] == \"Float64\" %\x7df64\x7b% elif a[\"type\"] == \"Bool\" %\x7dbool\x7b% elif a[\"type\"] == \"Versions\" %\x7dVec<String>\x7b% else %\x7dString\x7b% endif %\x7d\x7b% endmacro %\x7d",
    "\x7b% macro fields(owner, attrs) %\x7d",
    "\x7b% for a in attrs if a.value is none %\x7d",
    "\x7b% if is_nested_map(a) and not a.attributes %\x7d",
    "\x7b\x7b fail(\"map attribute '\x7b\x7d' of '\x7b\x7d' needs child attributes\", a.tf_name, owner) \x7d\x7d",
    "\x7b% endif %\x7d",
    "\x7b% if a.description is not none %\x7d",
    "    /// \x7b\x7b a.description \x7d\x7d",
    "\x7b% endif %\x7d",
    "    #[serde(rename = \"\x7b\x7b a.model_name \x7d\x7d\", default, skip_serializing_if = \"Option::is_none\")]",
    "    pub \x7b\x7b a.tf_name \x7d\x7d: Option<\x7b\x7b rust_type(a) \x7d\x7d>,",
    "\x7b% endfor %\x7d",
    "\x7b% endmacro %\x7d",
    "//template:begin header",
    "// Code generated by provider-gen. Edit only outside template sections.",
    "//template:end header",
    "",
    "//template:begin imports",
    "use std::collections::BTreeMap;",
    "",
    "use serde::\x7bDeserialize, Serialize\x7d;",
    "use serde_json::\x7bjson, Value\x7d;",
    "//template:end imports",
    "",
    "//template:begin model",
    "/// State of \x7b\x7b name \x7d\x7d as tracked by the provider.",
    "#[derive(Debug, Clone, Default, PartialEq, Serialize, Deserialize)]",
    "pub struct \x7b\x7b type_name \x7d\x7d \x7b",
    "    #[serde(skip)]",
    "    pub id: Option<String>,",
    "\x7b\x7b fields(name, attributes) -\x7d\x7d",
    "\x7d",
    "\x7b% for t in nested_types(attributes) %\x7d",
    "",
    "#[derive(Debug, Clone, Default, PartialEq, Serialize, Deserialize)]",
    "pub struct \x7b\x7b t.type_name \x7d\x7d \x7b",
    "\x7b\x7b fields(t.type_name, t.attributes) -\x7d\x7d",
    "\x7d",
    "\x7b% endfor %\x7d",
    "//template:end model",
    "",
    "//template:begin toBody",
    "impl \x7b\x7b type_name \x7d\x7d \x7b",
    "    /// Request body for create and update.",
    "    pub fn to_body(&self) -> Value \x7b",
    "        let mut body = serde_json::to_value(self).unwrap_or(Value::Null);",
    "\x7b% for a in attributes if a.value is not none %\x7d",
    "        body[\"\x7b\x7b a.model_name \x7d\x7d\"] = json!(\x7b\x7b a.value \x7d\x7d);",
    "\x7b% endfor %\x7d",
    "\x7b% for a in attributes if a.write_only %\x7d",
    "        // \x7b\x7b a.tf_name \x7d\x7d is write-only and never read back",
    "\x7b% endfor %\x7d",
    "        body",
    "    \x7d",
    "\x7d",
    "//template:end toBody",
    "",
    "//template:begin fromBody",
    "impl \x7b\x7b type_name \x7d\x7d \x7b",
    "    /// Refresh state from a read response, keeping the id and write-only values.",
    "    pub fn from_body(&mut self, res: &Value) \x7b",
    "        let Ok(mut fresh) = serde_json::from_value::<\x7b\x7b type_name \x7d\x7d>(res.clone()) else \x7b",
    "            return;",
    "        \x7d;",
    "        fresh.id = self.id.take();",
    "\x7b% for a in attributes if a.write_only and a.value is none %\x7d",
    "        fresh.\x7b\x7b a.tf_name \x7d\x7d = self.\x7b\x7b a.tf_name \x7d\x7d.take();",
    "\x7b% endfor %\x7d",
    "        *self = fresh;",
    "    \x7d",
    "\x7d",
    "//template:end fromBody"]

/-- The data source of a schema. -/
def dataSource : List String :=
  ["#![cfg(any())]",
    "//template:begin header",
    "// Code generated by provider-gen. Edit only outside template sections.",
    "//template:end header",
    "",
    "//template:begin imports",
    "use crate::client::\x7bClient, ClientError\x7d;",
    "use crate::provider::model_\x7b\x7b tf_name \x7d\x7d::\x7b\x7b type_name \x7d\x7d;",
    "//template:end imports",
    "",
    "//template:begin dataSource",
    "/// \x7b\x7b ds_description \x7d\x7d",
    "pub struct \x7b\x7b type_name \x7d\x7dDataSource;",
    "",
    "impl \x7b\x7b type_name \x7d\x7dDataSource \x7b",
    "    pub const TYPE_NAME: &'static str = \"\x7b\x7b provider \x7d\x7d_\x7b\x7b tf_name \x7d\x7d\";",
    "    pub const PATH: &'static str = \"\x7b\x7b rest_endpoint \x7d\x7d\";",
    "\x7b% if doc_category is not none %\x7d",
    "    pub const CATEGORY: &'static str = \"\x7b\x7b doc_category \x7d\x7d\";",
    "\x7b% endif %\x7d",
    "\x7d",
    "//template:end dataSource",
    "",
    "//template:begin read",
    "impl \x7b\x7b type_name \x7d\x7dDataSource \x7b",
    "\x7b% if data_source_name_query %\x7d",
    "    /// Look the object up by name, then read it by id.",
    "    pub fn read(client: &Client, name: &str) -> Result<\x7b\x7b type_name \x7d\x7d, ClientError> \x7b",
    "        let found = client.get(Self::PATH, &[(\"name\", name)])?;",
    "        let id = found",
    "            .pointer(\"/response/0/id\")",
    "            .and_then(|v| v.as_str())",
    "            .ok_or_else(|| ClientError::NotFound(name.to_string()))?",
    "            .to_string();",
    "        Self::read_by_id(client, &id)",
    "    \x7d",
    "",
    "\x7b% endif %\x7d",
    "    pub fn read_by_id(client: &Client, id: &str) -> Result<\x7b\x7b type_name \x7d\x7d, ClientError> \x7b",
    "        let res = client.get(&format!(\"\x7b\x7d/\x7b\x7d\", Self::PATH, id), &[])?;",
    "        let mut state = \x7b\x7b type_name \x7d\x7d \x7b",
    "            id: Some(id.to_string()),",
    "            ..Default::default()",
    "        \x7d;",
    "        state.from_body(&res[\"response\"]);",
    "        Ok(state)",
    "    \x7d",
    "\x7d",
    "//template:end read"]

/-- The test of the data source of a schema. -/
def dataSourceTest : List String :=
  ["#![cfg(any())]",
    "\x7b% macro hcl(a) %\x7d\x7b% set v = a.test_value if a.test_value is not none else a.example %\x7d\x7b% if is_string_list_set(a) %\x7d[\"\x7b\x7b v \x7d\x7d\"]\x7b% elif is_list_set(a) %\x7d[\x7b\x7b v \x7d\x7d]\x7b% elif a[\"type\"] in [\"String\", \"Version\", \"Versions\"] %\x7d\"\x7b\x7b v \x7d\x7d\"\x7b% else %\x7d\x7b\x7b v \x7d\x7d\x7b% endif %\x7d\x7b% endmacro %\x7d",
    "//template:begin header",
    "// Code generated by provider-gen. Edit only outside template sections.",
    "//template:end header",
    "",
    "//template:begin imports",
    "mod acc;",
    "//template:end imports",
    "",
    "//template:begin testAccDataSource",
    "#[test]",
    "fn test_acc_\x7b\x7b tf_name \x7d\x7d_data_source() \x7b",
    "\x7b% if test_tags %\x7d",
    "    if !acc::tags_enabled(&[\x7b% for t in test_tags %\x7d\"\x7b\x7b t \x7d\x7d\"\x7b% if not loop.last %\x7d, \x7b% endif %\x7d\x7b% endfor %\x7d]) \x7b",
    "        return;",
    "    \x7d",
    "\x7b% endif %\x7d",
    "\x7b% if minimum_version is not none %\x7d",
    "    if !acc::version_at_least(\"\x7b\x7b minimum_version \x7d\x7d\") \x7b",
    "        return;",
    "    \x7d",
    "\x7b% endif %\x7d",
    "    let config = format!(\"\x7b\x7d\x7b\x7d\", PREREQUISITES, CONFIG);",
    "    acc::apply(&config).check(\"data.\x7b\x7b provider \x7d\x7d_\x7b\x7b tf_name \x7d\x7d.test\", &[",
    "\x7b% for a in attributes if not a.exclude_test and not a.write_only and a.value is none and not is_nested(a) and (a.test_value is not none or a.example is not none) %\x7d",
    "        (\"\x7b\x7b a.tf_name \x7d\x7d\", r#\"\x7b\x7b a.test_value if a.test_value is not none else a.example \x7d\x7d\"#),",
    "\x7b% endfor %\x7d",
    "    ]);",
    "\x7d",
    "//template:end testAccDataSource",
    "",
    "//template:begin testPrerequisites",
    "const PREREQUISITES: &str = r#\"",
    "\x7b% if test_prerequisites is not none %\x7d",
    "\x7b\x7b test_prerequisites \x7d\x7d",
    "\x7b% endif %\x7d",
    "\"#;",
    "//template:end testPrerequisites",
    "",
    "//template:begin testAccDataSourceConfig",
    "const CONFIG: &str = r#\"",
    "resource \"\x7b\x7b provider \x7d\x7d_\x7b\x7b tf_name \x7d\x7d\" \"test\" \x7b",
    "\x7b% for a in attributes if not a.exclude_test and a.value is none and not is_nested(a) and (a.test_value is not none or a.example is not none) %\x7d",
    "  \x7b\x7b a.tf_name \x7d\x7d = \x7b\x7b hcl(a) \x7d\x7d",
    "\x7b% endfor %\x7d",
    "\x7d",
    "",
    "data \"\x7b\x7b provider \x7d\x7d_\x7b\x7b tf_name \x7d\x7d\" \"test\" \x7b",
    "\x7b% if data_source_name_query %\x7d",
    "  name = \x7b\x7b provider \x7d\x7d_\x7b\x7b tf_name \x7d\x7d.test.name",
    "\x7b% else %\x7d",
    "  id = \x7b\x7b provider \x7d\x7d_\x7b\x7b tf_name \x7d\x7d.test.id",
    "\x7b% endif %\x7d",
    "\x7b% for a in attributes if a.reference and (a.test_value is not none or a.example is not none) %\x7d",
    "  \x7b\x7b a.tf_name \x7d\x7d = \x7b\x7b hcl(a) \x7d\x7d",
    "\x7b% endfor %\x7d",
    "\x7d",
    "\"#;",
    "//template:end testAccDataSourceConfig"]

/-- The resource of a schema. -/
def resource : List String :=
  ["#![cfg(any())]",
    "\x7b% if no_update %\x7d",
    "\x7b% for a in attributes if a.write_changes_only %\x7d",
    "\x7b\x7b fail(\"write_changes_only on '\x7b\x7d' has no effect: '\x7b\x7d' has no update\", a.tf_name, name) \x7d\x7d",
    "\x7b% endfor %\x7d",
    "\x7b% endif %\x7d",
    "\x7b% set create_call = \"client.put\" if put_create else \"client.post\" %\x7d",
    "//template:begin header",
    "// Code generated by provider-gen. Edit only outside template sections.",
    "//template:end header",
    "",
    "//template:begin imports",
    "use crate::client::\x7bClient, ClientError\x7d;",
    "use crate::provider::model_\x7b\x7b tf_name \x7d\x7d::\x7b\x7b type_name \x7d\x7d;",
    "//template:end imports",
    "",
    "//template:begin resource",
    "/// \x7b\x7b res_description \x7d\x7d",
    "pub struct \x7b\x7b type_name \x7d\x7dResource;",
    "",
    "impl \x7b\x7b type_name \x7d\x7dResource \x7b",
    "    pub const TYPE_NAME: &'static str = \"\x7b\x7b provider \x7d\x7d_\x7b\x7b tf_name \x7d\x7d\";",
    "    pub const PATH: &'static str = \"\x7b\x7b rest_endpoint \x7d\x7d\";",
    "\x7b% if minimum_version is not none %\x7d",
    "    pub const MINIMUM_VERSION: &'static str = \"\x7b\x7b minimum_version \x7d\x7d\";",
    "\x7b% endif %\x7d",
    "    /// Attributes whose change forces the object to be replaced.",
    "    pub const REQUIRES_REPLACE: &'static [&'static str] = &[\x7b% for a in attributes if a.requires_replace %\x7d\"\x7b\x7b a.tf_name \x7d\x7d\"\x7b% if not loop.last %\x7d, \x7b% endif %\x7d\x7b% endfor %\x7d];",
    "\x7d",
    "//template:end resource",
    "",
    "//template:begin create",
    "impl \x7b\x7b type_name \x7d\x7dResource \x7b",
    "    pub fn create(client: &Client, plan: &\x7b\x7b type_name \x7d\x7d) -> Result<\x7b\x7b type_name \x7d\x7d, ClientError> \x7b",
    "\x7b% if id_from_query_path is not none %\x7d",
    "        \x7b\x7b create_call \x7d\x7d(Self::PATH, &plan.to_body())?;",
    "        let res = client.get(Self::PATH, &[])?;",
    "        let id = res",
    "            .pointer(\"/\x7b\x7b id_from_query_path \x7d\x7d\")",
    "\x7b% else %\x7d",
    "        let res = \x7b\x7b create_call \x7d\x7d(Self::PATH, &plan.to_body())?;",
    "        let id = res",
    "            .pointer(\"/response/id\")",
    "\x7b% endif %\x7d",
    "            .and_then(|v| v.as_str())",
    "            .ok_or_else(|| ClientError::NotFound(Self::TYPE_NAME.to_string()))?;",
    "        let mut state = plan.clone();",
    "        state.id = Some(id.to_string());",
    "        Ok(state)",
    "    \x7d",
    "\x7d",
    "//template:end create",
    "",
    "//template:begin update",
    "impl \x7b\x7b type_name \x7d\x7dResource \x7b",
    "\x7b% if no_update %\x7d",
    "    /// Every attribute requires replacement; update only carries state over.",
    "    pub fn update(_client: &Client, _state: &\x7b\x7b type_name \x7d\x7d, plan: &\x7b\x7b type_name \x7d\x7d) -> Result<\x7b\x7b type_name \x7d\x7d, ClientError> \x7b",
    "        Ok(plan.clone())",
    "    \x7d",
    "\x7b% else %\x7d",
    "    pub fn update(client: &Client, state: &\x7b\x7b type_name \x7d\x7d, plan: &\x7b\x7b type_name \x7d\x7d) -> Result<\x7b\x7b type_name \x7d\x7d, ClientError> \x7b",
    "        let id = state.id.clone().unwrap_or_default();",
    "        let mut body = plan.to_body();",
    "\x7b% for a in attributes if a.write_changes_only %\x7d",
    "        if plan.\x7b\x7b a.tf_name \x7d\x7d == state.\x7b\x7b a.tf_name \x7d\x7d \x7b",
    "            body.as_object_mut().map(|o| o.remove(\"\x7b\x7b a.model_name \x7d\x7d\"));",
    "        \x7d",
    "\x7b% endfor %\x7d",
    "        client.put(&format!(\"\x7b\x7d/\x7b\x7d\", Self::PATH, id), &body)?;",
    "        let mut next = plan.clone();",
    "        next.id = Some(id);",
    "        Ok(next)",
    "    \x7d",
    "\x7b% endif %\x7d",
    "\x7d",
    "//template:end update",
    "",
    "//template:begin delete",
    "impl \x7b\x7b type_name \x7d\x7dResource \x7b",
    "\x7b% if no_delete %\x7d",
    "    /// The API cannot delete this object; removal only drops it from state.",
    "    pub fn delete(_client: &Client, _state: &\x7b\x7b type_name \x7d\x7d) -> Result<(), ClientError> \x7b",
    "        Ok(())",
    "    \x7d",
    "\x7b% else %\x7d",
    "    pub fn delete(client: &Client, state: &\x7b\x7b type_name \x7d\x7d) -> Result<(), ClientError> \x7b",
    "        let id = state.id.clone().unwrap_or_default();",
    "\x7b% if has_resource_id(attributes) %\x7d",
    "        // Identity of nested objects is part of the parent path.",
    "\x7b% endif %\x7d",
    "        client.delete(&format!(\"\x7b\x7d/\x7b\x7d\", Self::PATH, id))",
    "    \x7d",
    "\x7b% endif %\x7d",
    "\x7d",
    "//template:end delete",
    "",
    "//template:begin import",
    "impl \x7b\x7b type_name \x7d\x7dResource \x7b",
    "    /// Import identifier with \x7b\x7b import_parts(attributes) \x7d\x7d comma-separated part(s).",
    "    pub fn import(id: &str) -> Result<\x7b\x7b type_name \x7d\x7d, ClientError> \x7b",
    "        let parts: Vec<&str> = id.split(',').collect();",
    "        if parts.len() != \x7b\x7b import_parts(attributes) \x7d\x7d \x7b",
    "            return Err(ClientError::InvalidImportId(id.to_string()));",
    "        \x7d",
    "        let mut state = \x7b\x7b type_name \x7d\x7d::default();",
    "\x7b% for a in attributes if a.reference or a.id %\x7d",
    "\x7b% if a[\"type\"] == \"String\" %\x7d",
    "        state.\x7b\x7b a.tf_name \x7d\x7d = Some(parts[\x7b\x7b loop.index0 \x7d\x7d].to_string());",
    "\x7b% else %\x7d",
    "        state.\x7b\x7b a.tf_name \x7d\x7d = parts[\x7b\x7b loop.index0 \x7d\x7d].parse().ok();",
    "\x7b% endif %\x7d",
    "\x7b% endfor %\x7d",
    "        state.id = Some(parts[\x7b\x7b subtract(import_parts(attributes), 1) \x7d\x7d].to_string());",
    "        Ok(state)",
    "    \x7d",
    "\x7d",
    "//template:end import"]

/-- The test of the resource of a schema. -/
def resourceTest : List String :=
  ["#![cfg(any())]",
    "\x7b% macro hcl(a) %\x7d\x7b% set v = a.test_value if a.test_value is not none else a.example %\x7d\x7b% if is_string_list_set(a) %\x7d[\"\x7b\x7b v \x7d\x7d\"]\x7b% elif is_list_set(a) %\x7d[\x7b\x7b v \x7d\x7d]\x7b% elif a[\"type\"] in [\"String\", \"Version\", \"Versions\"] %\x7d\"\x7b\x7b v \x7d\x7d\"\x7b% else %\x7d\x7b\x7b v \x7d\x7d\x7b% endif %\x7d\x7b% endmacro %\x7d",
    "\x7b% macro testable(a) %\x7d\x7b% if not a.exclude_test and a.value is none and (is_nested(a) or a.test_value is not none or a.example is not none) %\x7dyes\x7b% endif %\x7d\x7b% endmacro %\x7d",
    "//template:begin header",
    "// Code generated by provider-gen. Edit only outside template sections.",
    "//template:end header",
    "",
    "//template:begin imports",
    "mod acc;",
    "//template:end imports",
    "",
    "//template:begin testAcc",
    "#[test]",
    "fn test_acc_\x7b\x7b tf_name \x7d\x7d_resource() \x7b",
    "\x7b% if test_tags %\x7d",
    "    if !acc::tags_enabled(&[\x7b% for t in test_tags %\x7d\"\x7b\x7b t \x7d\x7d\"\x7b% if not loop.last %\x7d, \x7b% endif %\x7d\x7b% endfor %\x7d]) \x7b",
    "        return;",
    "    \x7d",
    "\x7b% endif %\x7d",
    "    let minimum = format!(\"\x7b\x7d\x7b\x7d\", PREREQUISITES, config_minimum());",
    "    acc::apply(&minimum).check(\"\x7b\x7b provider \x7d\x7d_\x7b\x7b tf_name \x7d\x7d.test\", &[]);",
    "",
    "    let all = format!(\"\x7b\x7d\x7b\x7d\", PREREQUISITES, config_all());",
    "    acc::apply(&all).check(\"\x7b\x7b provider \x7d\x7d_\x7b\x7b tf_name \x7d\x7d.test\", &[",
    "\x7b% for a in attributes if not a.exclude_test and not a.write_only and a.value is none and not is_nested(a) and (a.test_value is not none or a.example is not none) %\x7d",
    "        (\"\x7b\x7b a.tf_name \x7d\x7d\", r#\"\x7b\x7b a.test_value if a.test_value is not none else a.example \x7d\x7d\"#),",
    "\x7b% endfor %\x7d",
    "    ]);",
    "\x7b% if not no_resource %\x7d",
    "    acc::import_state(\"\x7b\x7b provider \x7d\x7d_\x7b\x7b tf_name \x7d\x7d.test\", \x7b\x7b import_parts(attributes) \x7d\x7d);",
    "\x7b% endif %\x7d",
    "\x7d",
    "//template:end testAcc",
    "",
    "//template:begin testPrerequisites",
    "const PREREQUISITES: &str = r#\"",
    "\x7b% if test_prerequisites is not none %\x7d",
    "\x7b\x7b test_prerequisites \x7d\x7d",
    "\x7b% endif %\x7d",
    "\"#;",
    "//template:end testPrerequisites",
    "",
    "//template:begin testAccConfigMinimal",
    "fn config_minimum() -> String \x7b",
    "    let mut config = String::from(\"resource \\\"\x7b\x7b provider \x7d\x7d_\x7b\x7b tf_name \x7d\x7d\\\" \\\"test\\\" \x7b\\n\");",
    "\x7b% for a in attributes if a.mandatory and testable(a) and not is_nested(a) %\x7d",
    "    config.push_str(r#\"  \x7b\x7b a.tf_name \x7d\x7d = \x7b\x7b hcl(a) \x7d\x7d",
    "\"#);",
    "\x7b% endfor %\x7d",
    "    config.push_str(\"\x7d\\n\");",
    "    config",
    "\x7d",
    "//template:end testAccConfigMinimal",
    "",
    "//template:begin testAccConfigAll",
    "fn config_all() -> String \x7b",
    "    let mut config = String::from(\"resource \\\"\x7b\x7b provider \x7d\x7d_\x7b\x7b tf_name \x7d\x7d\\\" \\\"test\\\" \x7b\\n\");",
    "\x7b% for a in attributes recursive %\x7d",
    "\x7b% if loop.depth > MAX_NESTING_DEPTH %\x7d",
    "\x7b\x7b fail(\"attribute '\x7b\x7d' is nested deeper than \x7b\x7d levels\", a.tf_name, MAX_NESTING_DEPTH) \x7d\x7d",
    "\x7b% endif %\x7d",
    "\x7b% if not testable(a) %\x7d",
    "\x7b% elif is_nested(a) %\x7d",
    "    config.push_str(\"\x7b\x7b a.tf_name \x7d\x7d = [\x7b\\n\");",
    "\x7b\x7b loop(a.attributes) -\x7d\x7d",
    "    config.push_str(\"\x7d]\\n\");",
    "\x7b% else %\x7d",
    "    config.push_str(r#\"\x7b\x7b a.tf_name \x7d\x7d = \x7b\x7b hcl(a) \x7d\x7d",
    "\"#);",
    "\x7b% endif %\x7d",
    "\x7b% endfor %\x7d",
    "    config.push_str(\"\x7d\\n\");",
    "    config",
    "\x7d",
    "//template:end testAccConfigAll"]

/-- An example of the data source of a schema in use. -/
def dataSourceExample : List String :=
  ["\x7b% macro hcl(a) %\x7d\x7b% if is_string_list_set(a) %\x7d[\"\x7b\x7b a.example \x7d\x7d\"]\x7b% elif is_list_set(a) %\x7d[\x7b\x7b a.example \x7d\x7d]\x7b% elif a[\"type\"] in [\"String\", \"Version\", \"Versions\"] %\x7d\"\x7b\x7b a.example \x7d\x7d\"\x7b% else %\x7d\x7b\x7b a.example \x7d\x7d\x7b% endif %\x7d\x7b% endmacro %\x7d",
    "data \"\x7b\x7b provider \x7d\x7d_\x7b\x7b tf_name \x7d\x7d\" \"example\" \x7b",
    "\x7b% if data_source_name_query %\x7d",
    "\x7b% for a in attributes if a.tf_name == \"name\" and a.example is not none %\x7d",
    "  name = \x7b\x7b hcl(a) \x7d\x7d",
    "\x7b% else %\x7d",
    "  name = \"example\"",
    "\x7b% endfor %\x7d",
    "\x7b% else %\x7d",
    "  id = \"76d24097-41c4-4558-a4d0-a8c07ac08470\"",
    "\x7b% endif %\x7d",
    "\x7b% for a in attributes if a.reference and a.example is not none %\x7d",
    "  \x7b\x7b a.tf_name \x7d\x7d = \x7b\x7b hcl(a) \x7d\x7d",
    "\x7b% endfor %\x7d",
    "\x7d"]

/-- An example of the resource of a schema in use. -/
def resourceExample : List String :=
  ["\x7b% macro hcl(a) %\x7d\x7b% if is_string_list_set(a) %\x7d[\"\x7b\x7b a.example \x7d\x7d\"]\x7b% elif is_list_set(a) %\x7d[\x7b\x7b a.example \x7d\x7d]\x7b% elif a[\"type\"] in [\"String\", \"Version\", \"Versions\"] %\x7d\"\x7b\x7b a.example \x7d\x7d\"\x7b% else %\x7d\x7b\x7b a.example \x7d\x7d\x7b% endif %\x7d\x7b% endmacro %\x7d",
    "\x7b% macro shown(a) %\x7d\x7b% if not a.exclude_example and a.value is none and (is_nested(a) or a.example is not none) %\x7dyes\x7b% endif %\x7d\x7b% endmacro %\x7d",
    "\x7b% macro pad(n) %\x7d\x7b% for _ in range(n) %\x7d\x7b\x7b \"  \" \x7d\x7d\x7b% endfor %\x7d\x7b% endmacro %\x7d",
    "resource \"\x7b\x7b provider \x7d\x7d_\x7b\x7b tf_name \x7d\x7d\" \"example\" \x7b",
    "\x7b% for a in attributes recursive %\x7d",
    "\x7b% if loop.depth > MAX_NESTING_DEPTH %\x7d",
    "\x7b\x7b fail(\"attribute '\x7b\x7d' is nested deeper than \x7b\x7d levels\", a.tf_name, MAX_NESTING_DEPTH) \x7d\x7d",
    "\x7b% endif %\x7d",
    "\x7b% if not shown(a) %\x7d",
    "\x7b% elif is_nested(a) %\x7d",
    "\x7b\x7b pad(loop.depth) \x7d\x7d\x7b\x7b a.tf_name \x7d\x7d = [\x7b",
    "\x7b\x7b loop(a.attributes) -\x7d\x7d",
    "\x7b\x7b pad(loop.depth) \x7d\x7d\x7d]",
    "\x7b% else %\x7d",
    "\x7b\x7b pad(loop.depth) \x7d\x7d\x7b\x7b a.tf_name \x7d\x7d = \x7b\x7b hcl(a) \x7d\x7d",
    "\x7b% endif %\x7d",
    "\x7b% endfor %\x7d",
    "\x7d"]

/-- The command that imports a resource of a schema. -/
def importExample : List String :=
  ["terraform import \x7b\x7b provider \x7d\x7d_\x7b\x7b tf_name \x7d\x7d.example \"\x7b% for a in attributes if a.reference or a.id %\x7d<\x7b\x7b a.tf_name \x7d\x7d>,\x7b% endfor %\x7d<id>\""]

/-- The registration of all schemas. -/
def provider : List String :=
  ["#![cfg(any())]",
    "//template:begin header",
    "// Code generated by provider-gen. Edit only outside template sections.",
    "//template:end header",
    "",
    "//template:begin modules",
    "\x7b% for s in schemas %\x7d",
    "pub mod model_\x7b\x7b s.tf_name \x7d\x7d;",
    "\x7b% if not s.no_data_source %\x7d",
    "pub mod data_source_\x7b\x7b s.tf_name \x7d\x7d;",
    "\x7b% endif %\x7d",
    "\x7b% if not s.no_resource %\x7d",
    "pub mod resource_\x7b\x7b s.tf_name \x7d\x7d;",
    "\x7b% endif %\x7d",
    "\x7b% endfor %\x7d",
    "//template:end modules",
    "",
    "//template:begin registry",
    "pub const PROVIDER_NAME: &str = \"\x7b\x7b provider \x7d\x7d\";",
    "",
    "/// Data source type names served by this provider.",
    "pub const DATA_SOURCES: &[&str] = &[",
    "\x7b% for s in schemas if not s.no_data_source %\x7d",
    "    \"\x7b\x7b provider \x7d\x7d_\x7b\x7b s.tf_name \x7d\x7d\",",
    "\x7b% endfor %\x7d",
    "];",
    "",
    "/// Resource type names served by this provider.",
    "pub const RESOURCES: &[&str] = &[",
    "\x7b% for s in schemas if not s.no_resource %\x7d",
    "    \"\x7b\x7b provider \x7d\x7d_\x7b\x7b s.tf_name \x7d\x7d\",",
    "\x7b% endfor %\x7d",
    "];",
    "//template:end registry"]

/-- The guide that shows the changelog. -/
def changelog : List String :=
  ["---",
    "subcategory: \"Guides\"",
    "page_title: \"Changelog\"",
    "description: |-",
    "    Changelog",
    "---",
    "",
    "\x7b\x7b content -\x7d\x7d"]

/-- The text of the template with a name. -/
def text? (name : String) : Option String :=
  (match name with
  | "model.rs" => some model
  | "data_source.rs" => some dataSource
  | "data_source_test.rs" => some dataSourceTest
  | "resource.rs" => some resource
  | "resource_test.rs" => some resourceTest
  | "data-source.tf" => some dataSourceExample
  | "resource.tf" => some resourceExample
  | "import.sh" => some importExample
  | "provider.rs" => some provider
  | "changelog.md" => some changelog
  | _ => none).map text

/-- The template of an artifact. -/
def ofArtifact (artifact : Artifact) : Template.Source :=
  ⟨artifact.template, artifact.kind, (text? artifact.template).getD ""⟩

end Stencil.Standard
