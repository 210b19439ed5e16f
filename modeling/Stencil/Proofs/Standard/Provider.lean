import Stencil.Proofs.Standard.Source
import Stencil.Proofs.Text.Line
import Stencil.Proofs.Text.Piece

/-!
# The registration of schemas

What the standard template of the registration writes for schemas: the modules of each schema, line
by line, and the names of the types that the provider serves (`render_source`). The modules that its
lines declare are those of the schemas in order, unless a name breaks a line
(`declares_registration`).
-/

namespace Stencil.Standard.Provider

open Schema (Header)
open Template

/-- A property of the schema `s`. -/
def ofSchema (property : String) : Expr := .member (.var "s") property

/-- The schema `s` has a part in a family, unless it says that it has none. -/
def takesPart (property : String) : Expr := .unary .not (ofSchema property)

/-- The line that declares a module of the schema `s`. -/
def moduleLine (before : String) : List Stmt :=
  [.text before, .print (ofSchema "tf_name"), .text ";\n"]

/-- The lines that declare the modules of the schema `s`. -/
def modulesBody : List Stmt :=
  moduleLine "pub mod model_" ++
    [.branch (takesPart "no_data_source") (moduleLine "pub mod data_source_") [],
      .branch (takesPart "no_resource") (moduleLine "pub mod resource_") []]

/-- The line that lists a type of the schema `s`. -/
def typeBody : List Stmt :=
  [.text "    \"", .print (.var "provider"), .text "_", .print (ofSchema "tf_name"),
    .text "\",\n"]

/-- The text before the modules. -/
def preamble : String :=
  "//template:begin header\n// Code generated by provider-gen. Edit only outside template sections.\n//template:end header\n\n//template:begin modules\n"

/-- The text between the modules and the name of the provider. -/
def nameHeading : String :=
  "//template:end modules\n\n//template:begin registry\npub const PROVIDER_NAME: &str = \""

/-- The text between the name of the provider and its data sources. -/
def dataSourcesHeading : String :=
  "\";\n\n/// Data source type names served by this provider.\npub const DATA_SOURCES: &[&str] = &[\n"

/-- The text between the data sources and the resources. -/
def resourcesHeading : String :=
  "];\n\n/// Resource type names served by this provider.\npub const RESOURCES: &[&str] = &[\n"

/-- The text after the resources. -/
def ending : String := "];\n//template:end registry\n"

/-- The template. -/
def tree : List Stmt :=
  [.text preamble, .loop (.name "s") (.var "schemas") false modulesBody [],
    .text nameHeading, .print (.var "provider"), .text dataSourcesHeading,
    .loopIf (.name "s") (.var "schemas") (takesPart "no_data_source") false typeBody [],
    .text resourcesHeading,
    .loopIf (.name "s") (.var "schemas") (takesPart "no_resource") false typeBody [],
    .text ending]

/-- The source of the template. -/
def source : Source := ⟨"provider.rs", .code, text provider⟩

set_option maxRecDepth 100000 in
/-- The template is written down as the source says. -/
theorem parse_source : parse? source.letters = some tree := by
  unfold source provider
  rw [letters_code]
  repeat rw [text_cons]
  rw [text_nil]
  rfl

/-- How the names of modules begin, for each family. -/
def stems : List (String × Family) :=
  [("model_", .model), ("data_source_", .dataSource), ("resource_", .resource)]

/-- The modules of a schema: one for each family that it has a part in. -/
def modules (header : Header) : List String :=
  (stems.filter (·.2.appliesTo header)).map (·.1 ++ header.tfName)

/-- The line that declares a module. -/
def declaration (name : String) : String := "pub mod " ++ name ++ ";\n"

/-- The line that lists a type of a provider. -/
def listing (provider name : String) : String := "    \"" ++ provider ++ "_" ++ name ++ "\",\n"

/-- The lines that list the types of schemas. -/
def listings (provider : String) (schemas : List Schema) : String :=
  String.join (schemas.map (listing provider ·.header.tfName))

/-- The text of the registration. -/
def registration (provider : String) (schemas : List Schema) : String :=
  preamble ++ (String.join ((schemas.flatMap (modules ·.header)).map declaration) ++
    (nameHeading ++ (provider ++ (dataSourcesHeading ++
      (listings provider (schemas.filter (!·.header.noDataSource)) ++
        (resourcesHeading ++ (listings provider (schemas.filter (!·.header.noResource)) ++
          ending)))))))

variable {library : Library} {invoke : Invoke} {config : Config} {schemas : List Schema}
  {schema : Schema} {scope : Scope} {running : RunningLoop}

/-- A schema as the templates for all schemas see it. -/
def toValue (schema : Schema) : Value := .ofFields schema.toFields

/-- The scope of the template. -/
def top (config : Config) (schemas : List Schema) : Scope :=
  .ofContext (Project.providerContext config schemas)

/-- A property of the schema that a loop has come to is its own. -/
theorem eval_ofSchema (h : AtItem (top config schemas) "s" running (toValue schema) scope)
    {property : String} {value : Value}
    (hproperty : (toValue schema).member property = .ok value) :
    (ofSchema property).eval library invoke scope = .ok value := by
  rw [ofSchema, eval_member (eval_var h.find_item), hproperty]

/-- The schema takes part in a family unless it says otherwise. -/
theorem decides_takesPart (h : AtItem (top config schemas) "s" running (toValue schema) scope)
    {property : String} {without : Bool}
    (hproperty : (toValue schema).member property = .ok (.bool without)) :
    Decides library invoke scope (takesPart property) (!without) :=
  (Decides.ofBool (eval_ofSchema h hproperty)).not

/-- The name of the provider prints as itself, in the template and in its loops. -/
theorem prints_provider : Prints library invoke (top config schemas) (.var "provider")
    (.ok config.provider) :=
  .ofText (eval_var rfl)

/-- A line declares a module of the schema. -/
theorem writes_moduleLine (h : AtItem (top config schemas) "s" running (toValue schema) scope)
    (before : String) : Writes library invoke scope (moduleLine ("pub mod " ++ before))
      (.ok (declaration (before ++ schema.header.tfName))) := by
  have hname : Prints library invoke scope (ofSchema "tf_name") (.ok schema.header.tfName) :=
    .ofText (eval_ofSchema h rfl)
  refine .as (.text (.print hname (.text .nil))) ?_
  simp [declaration, String.append_assoc]

/-- The lines for a schema declare its modules. -/
theorem writes_modules (h : AtItem (top config schemas) "s" running (toValue schema) scope) :
    Writes library invoke scope modulesBody
      (.ok (String.join ((modules schema.header).map declaration))) := by
  have hsource : Decides library invoke scope (takesPart "no_data_source")
      (!schema.header.noDataSource) := decides_takesPart h rfl
  have hresource : Decides library invoke scope (takesPart "no_resource")
      (!schema.header.noResource) := decides_takesPart h rfl
  refine .as (.append (writes_moduleLine h "model_") (.when hsource
    (writes_moduleLine h "data_source_") (.when hresource (writes_moduleLine h "resource_")
      .nil))) ?_
  rw [modules]
  cases hsource : schema.header.noDataSource <;> cases hresource : schema.header.noResource <;>
    simp [stems, Family.appliesTo, hsource, hresource, String.join_cons]

/-- A line lists a type of the schema. -/
theorem writes_type (h : AtItem (top config schemas) "s" running (toValue schema) scope) :
    Writes library invoke scope typeBody
      (.ok (listing config.provider schema.header.tfName)) := by
  have hname : Prints library invoke scope (ofSchema "tf_name") (.ok schema.header.tfName) :=
    .ofText (eval_ofSchema h rfl)
  have hprovider : Prints library invoke scope (.var "provider") (.ok config.provider) := by
    refine .ofText (eval_var ?_)
    rw [h.find_other (by decide) (by decide)]
    rfl
  refine .as (.text (.print hprovider (.text (.print hname (.text .nil))))) ?_
  simp [listing, String.append_assoc]

/-- The schemas are there to loop over. -/
theorem eval_schemas : ∃ value, (Expr.var "schemas").eval library invoke (top config schemas) =
    .ok value ∧ value.items = .ok (schemas.map toValue) :=
  ⟨_, eval_var rfl, rfl⟩

/-- The declarations of all modules are those of each schema's modules. -/
theorem join_modules (schemas : List Schema) :
    String.join (schemas.map fun schema => String.join ((modules schema.header).map declaration)) =
      String.join ((schemas.flatMap (modules ·.header)).map declaration) := by
  induction schemas with
  | nil => rfl
  | cons first rest ih =>
      rw [List.map_cons, String.join_cons, ih, List.flatMap_cons, List.map_append,
        String.join_append]

/-- The loop over all schemas writes the declarations of their modules. -/
theorem writes_allModules {rest : List Stmt} {others : Outcome String}
    (hrest : Writes library invoke (top config schemas) rest others) :
    Writes library invoke (top config schemas)
      (.loop (.name "s") (.var "schemas") false modulesBody [] :: rest)
      (andThen (.ok (String.join ((schemas.flatMap (modules ·.header)).map declaration)))
        others) := by
  have hjoin : textsOf (fun pair : Schema × Nat =>
      .ok (String.join ((modules pair.1.header).map declaration))) schemas.zipIdx =
      .ok (String.join ((schemas.flatMap (modules ·.header)).map declaration)) := by
    rw [textsOf_zipIdx (fun schema : Schema =>
      .ok (String.join ((modules schema.header).map declaration))), textsOf_ok, join_modules]
  rw [← hjoin]
  exact .loop eval_schemas (by show 1 ≤ 500; omega) (fun _ _ _ h => writes_modules h) hrest

/-- A loop over the schemas that take part in a family lists their types. -/
theorem writes_types {property : String} {without : Schema → Bool} {rest : List Stmt}
    {others : Outcome String}
    (hwithout : ∀ schema, (toValue schema).member property = .ok (.bool (without schema)))
    (hrest : Writes library invoke (top config schemas) rest others) :
    Writes library invoke (top config schemas)
      (.loopIf (.name "s") (.var "schemas") (takesPart property) false typeBody [] :: rest)
      (andThen (.ok (listings config.provider (schemas.filter (!without ·)))) others) := by
  have hjoin : textsOf (fun pair : Schema × Nat =>
      .ok (listing config.provider pair.1.header.tfName)) (schemas.filter (!without ·)).zipIdx =
      .ok (listings config.provider (schemas.filter (!without ·))) := by
    rw [textsOf_zipIdx (fun schema : Schema =>
      .ok (listing config.provider schema.header.tfName)), textsOf_ok, listings]
  rw [← hjoin]
  exact .loopIf eval_schemas (by show 1 ≤ 500; omega)
    (fun schema _ _ _ h => decides_takesPart h (hwithout schema)) (fun _ _ _ h => writes_type h)
    hrest

/-- The template writes the registration of the schemas. -/
theorem render_source (library : Library) (config : Config) (schemas : List Schema) :
    source.render library (Project.providerContext config schemas) =
      .ok (registration config.provider schemas) := by
  have hwrites {invoke : Invoke} : Writes library invoke (top config schemas) tree
      (.ok (registration config.provider schemas)) := by
    refine .as (.text (writes_allModules (.text (.print prints_provider (.text
      (writes_types (fun _ => rfl) (.text (writes_types (fun _ => rfl) (.text .nil))))))))) ?_
    simp [registration]
  rw [render_of_parse parse_source hwrites.leaves]
  rfl

section Names

open Text (Line lines)

/-- The module that a line declares. -/
def moduleOf? (line : Line) : Option (List Char) :=
  (Text.dropStart? "pub mod ".toList line).bind fun rest =>
    Text.dropEnd? [';'] (Text.cutTerminator rest).1

/-- The modules that the lines of a text declare, in order. -/
def moduleNames (text : List Char) : List (List Char) :=
  (lines text).filterMap moduleOf?

/-- The text consists of whole lines, which declare these modules. -/
structure Declares (text : List Char) (names : List (List Char)) : Prop where
  whole : Text.Whole text
  names_eq : moduleNames text = names

namespace Declares

variable {first second content : List Char} {names others : List (List Char)}

/-- No lines declare nothing. -/
theorem nil : Declares [] [] := ⟨.nil, rfl⟩

/-- Lines after others declare what comes after. -/
theorem append (h : Declares first names) (hsecond : Declares second others) :
    Declares (first ++ second) (names ++ others) := by
  refine ⟨h.whole.append hsecond.whole, ?_⟩
  rw [moduleNames, h.whole.lines_append, List.filterMap_append, ← h.names_eq, ← hsecond.names_eq]
  rfl

/-- A line declares what is read from it. -/
theorem line (h : '\n' ∉ content) :
    Declares (content ++ ['\n']) (moduleOf? (content ++ ['\n'])).toList := by
  obtain ⟨hlines, hwhole⟩ := Text.lines_line h
  refine ⟨hwhole, ?_⟩
  rw [moduleNames, hlines, List.filterMap_cons]
  cases moduleOf? (content ++ ['\n']) <;> rfl

/-- A line of which nothing is read declares nothing. -/
theorem other (h : '\n' ∉ content) (hline : moduleOf? (content ++ ['\n']) = none) :
    Declares (content ++ ['\n']) [] := by
  have hdeclares := line h
  rwa [hline] at hdeclares

/-- The declaration of a module declares it. -/
theorem declaration {name : String} (h : '\n' ∉ name.toList) :
    Declares (Provider.declaration name).toList [name.toList] := by
  have hletters : (Provider.declaration name).toList =
      ("pub mod ".toList ++ name.toList ++ [';']) ++ ['\n'] := by
    simp [Provider.declaration]
  have hread : moduleOf? (("pub mod ".toList ++ name.toList ++ [';']) ++ ['\n']) =
      some name.toList := by
    rw [moduleOf?, List.append_assoc, List.append_assoc, Text.dropStart_append]
    have hcut : (Text.cutTerminator (name.toList ++ ([';'] ++ ['\n']))).1 = name.toList ++ [';'] := by
      simp [Text.cutTerminator]
    rw [Option.bind_some, hcut, Text.dropEnd_append]
  have hdeclares := line (show '\n' ∉ "pub mod ".toList ++ name.toList ++ [';'] by simp [h])
  rw [hread] at hdeclares
  rw [hletters]
  exact hdeclares

/-- Declarations one after the other. -/
theorem declarations {names : List String} (h : ∀ name ∈ names, '\n' ∉ name.toList) :
    Declares (String.join (names.map Provider.declaration)).toList (names.map String.toList) := by
  induction names with
  | nil => exact nil
  | cons first rest ih =>
      obtain ⟨hfirst, hrest⟩ := List.forall_mem_cons.1 h
      rw [List.map_cons, String.join_cons, String.toList_append]
      exact (declaration hfirst).append (ih hrest)

/-- The lines that list types declare nothing. -/
theorem listings {provider : String} {schemas : List Schema} (hprovider : '\n' ∉ provider.toList)
    (h : ∀ schema ∈ schemas, '\n' ∉ schema.header.tfName.toList) :
    Declares (Provider.listings provider schemas).toList [] := by
  induction schemas with
  | nil => exact nil
  | cons first rest ih =>
      obtain ⟨hfirst, hrest⟩ := List.forall_mem_cons.1 h
      have hline : (listing provider first.header.tfName).toList =
          ("    \"".toList ++ provider.toList ++ ['_'] ++ first.header.tfName.toList ++
            "\",".toList) ++ ['\n'] := by
        simp [listing]
      rw [Provider.listings, List.map_cons, String.join_cons, String.toList_append, hline]
      refine append (other ?_ rfl) (ih hrest)
      simp [hprovider, hfirst]

end Declares

/-- The lines around the name of the provider declare nothing. -/
theorem declares_name {provider : String} (h : '\n' ∉ provider.toList) :
    Declares (nameHeading.toList ++ (provider.toList ++ dataSourcesHeading.toList)) [] := by
  have hbefore : nameHeading.toList =
      "//template:end modules\n\n//template:begin registry\n".toList ++
        "pub const PROVIDER_NAME: &str = \"".toList := by
    unfold nameHeading
    rw [String.toList_ofList]
    rfl
  have hafter : dataSourcesHeading.toList = "\";".toList ++ (['\n'] ++
      "\n/// Data source type names served by this provider.\npub const DATA_SOURCES: &[&str] = &[\n".toList) := by
    unfold dataSourcesHeading
    rw [String.toList_ofList]
    rfl
  have hline : Declares ("pub const PROVIDER_NAME: &str = \"".toList ++ provider.toList ++
      "\";".toList ++ ['\n']) [] := .other (by simp [h]) rfl
  have hfirst : Declares "//template:end modules\n\n//template:begin registry\n".toList [] :=
    ⟨by decide, by decide⟩
  have hlast : Declares
      "\n/// Data source type names served by this provider.\npub const DATA_SOURCES: &[&str] = &[\n".toList [] := by
    rw [String.toList_ofList]
    exact ⟨by decide, by decide⟩
  rw [hbefore, hafter]
  simpa only [List.append_assoc, List.nil_append] using hfirst.append (hline.append hlast)

/-- The registration declares the modules of the schemas in order, if no name breaks a line. -/
theorem declares_registration {provider : String} {schemas : List Schema}
    (hprovider : '\n' ∉ provider.toList)
    (hnames : ∀ schema ∈ schemas, '\n' ∉ schema.header.tfName.toList) :
    Declares (registration provider schemas).toList
      ((schemas.flatMap (modules ·.header)).map String.toList) := by
  have hpreamble : Declares preamble.toList [] := by
    unfold preamble
    rw [String.toList_ofList]
    exact ⟨by decide, by decide⟩
  have hresources : Declares resourcesHeading.toList [] := by
    unfold resourcesHeading
    rw [String.toList_ofList]
    exact ⟨by decide, by decide⟩
  have hending : Declares ending.toList [] := ⟨by decide, by decide⟩
  have hmodules : ∀ name ∈ schemas.flatMap (modules ·.header), '\n' ∉ name.toList := by
    intro name hname
    obtain ⟨schema, hschema, hname⟩ := List.mem_flatMap.1 hname
    obtain ⟨stem, hstem, rfl⟩ := List.mem_map.1 hname
    have hclear : ∀ stem ∈ stems, '\n' ∉ stem.1.toList := by decide
    simp [hclear stem (List.mem_of_mem_filter hstem), hnames schema hschema]
  have hlists (kept : Schema → Bool) :
      Declares (listings provider (schemas.filter kept)).toList [] :=
    .listings hprovider fun schema hschema => hnames schema (List.mem_of_mem_filter hschema)
  have hdeclares := hpreamble.append ((Declares.declarations hmodules).append
    ((declares_name hprovider).append ((hlists (!·.header.noDataSource)).append
      (hresources.append ((hlists (!·.header.noResource)).append hending)))))
  simpa only [registration, String.toList_append, List.append_assoc, List.nil_append,
    List.append_nil] using hdeclares

end Names

end Stencil.Standard.Provider
