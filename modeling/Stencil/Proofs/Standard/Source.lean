import Stencil.Project.Plan
import Stencil.Proofs.Template.Nesting
import Stencil.Standard

/-!
# Sources of standard templates

How the text of a standard template is read, line by line, and what its names mean for a schema:
those of its macros, those of the schema's properties, and those of the built-in functions, which
neither of them hides (`ofSchema_knows`).
-/

namespace Stencil.Standard

open Schema (Attribute AttributeType Everywhere Field Levels)
open Template

/-- No lines have no letters. -/
theorem text_nil : (text []).toList = [] := rfl

/-- The letters of lines, one line after the other. -/
theorem text_cons (line : List Char) (rest : List String) :
    (text (String.ofList line :: rest)).toList = line ++ '\n' :: (text rest).toList := by
  simp [text, String.join_cons]

/-- Of a template for code, the letters after the first line are rendered. -/
theorem letters_code (name text : String) :
    Source.letters ⟨name, .code, text⟩ = afterFirstLine text.toList := rfl

/-- Of a template for a document, all letters are rendered. -/
theorem letters_document (name text : String) :
    Source.letters ⟨name, .document, text⟩ = text.toList := rfl

/-- A template that can be read renders as its tree does. -/
theorem render_of_parse {library : Library} {source : Source} {tree : List Stmt}
    {context : List (String × Value)} {outcome : Outcome String}
    (hparse : parse? source.letters = some tree)
    (h : Leaves library (invoke library (maxNesting + 1)) (.ofContext context) tree outcome) :
    source.render library context = outcome.mapError .failed := by
  simp only [Source.render, hparse, renderStmts_of_leaves h]

/-- The names of the properties of a schema, as templates see them. -/
def contextNames : List String :=
  ["provider", "attributes", "data_source_name_query", "doc_category", "ds_description",
    "id_from_query_path", "minimum_version", "name", "no_data_source", "no_delete", "no_resource",
    "no_update", "put_create", "res_description", "rest_endpoint", "test_prerequisites",
    "test_tags", "tf_name", "type_name"]

/-- The scope of a template for a schema, with macros that have been declared. -/
def ofSchema (macros : List (String × Value)) (config : Config) (schema : Schema) : Scope :=
  ⟨[⟨macros ++ Project.schemaContext config schema, none, none⟩], 1⟩

variable {library : Library} {macros : List (String × Value)} {config : Config} {schema : Schema}
  {name : String}

/-- The template for a schema starts without macros. -/
theorem ofContext_eq : Scope.ofContext (Project.schemaContext config schema) =
    ofSchema [] config schema := rfl

/-- A macro that is declared is one more. -/
theorem set_ofSchema (value : Value) :
    (ofSchema macros config schema).set name value =
      ofSchema ((name, value) :: macros) config schema := rfl

/-- The scope of a template is within the template. -/
theorem ofSchema_within : Within library (ofSchema macros config schema)
    (ofSchema macros config schema) :=
  .start rfl

/-- The scope of a template is not deep. -/
theorem ofSchema_depth : (ofSchema macros config schema).depth ≤ maxNesting := by
  change 1 ≤ 500
  decide

/-- What a name means in a template for a schema. -/
theorem findTop_ofSchema : (ofSchema macros config schema).findTop? library name =
    (((macros ++ Project.schemaContext config schema).lookup name).or (library.global? name)) := by
  have hframe : ((ofSchema macros config schema).template.bind (·.find? name)) =
      (macros ++ Project.schemaContext config schema).lookup name := by
    rw [ofSchema, Scope.template, List.getLast?_singleton, Option.bind_some, Frame.find?]
    cases (macros ++ Project.schemaContext config schema).lookup name <;> simp
  rw [Scope.findTop?, hframe]

/-- The names that mean the same in every template. -/
def globalNames : List String :=
  depthLimitName :: (Builtin.range :: Builtin.registered).map (·.name)

/-- No macro has the name of a property of the schema, or one that means the same everywhere. -/
def Distinct (macros : List (String × Value)) : Prop :=
  ∀ name ∈ macros.map (·.1), name ∉ contextNames ∧ name ∉ globalNames

instance (macros : List (String × Value)) : Decidable (Distinct macros) :=
  inferInstanceAs
    (Decidable (∀ name ∈ macros.map (·.1), name ∉ contextNames ∧ name ∉ globalNames))

/-- What is not among the names is not bound. -/
theorem lookup_of_notMem {bound : List (String × Value)} (h : name ∉ bound.map (·.1)) :
    bound.lookup name = none := by
  rw [List.lookup_eq_none_iff]
  intro entry hentry
  simpa using fun heq : name = entry.1 => h (heq ▸ List.mem_map_of_mem hentry)

/-- What is bound is among the names. -/
theorem mem_of_lookup {bound : List (String × Value)} {value : Value}
    (h : bound.lookup name = some value) : name ∈ bound.map (·.1) := by
  by_contra hname
  rw [lookup_of_notMem hname] at h
  cases h

/-- Neither macros nor properties of the schema hide what means the same in every template. -/
theorem lookup_global (hmacros : Distinct macros) (hname : name ∈ globalNames) :
    (macros ++ Project.schemaContext config schema).lookup name = none := by
  have hdisjoint : ∀ name ∈ globalNames, name ∉ contextNames := by decide
  have hdeclared : name ∉ macros.map (·.1) := fun hmem => (hmacros name hmem).2 hname
  have hproperty : name ∉ (Project.schemaContext config schema).map (·.1) := hdisjoint name hname
  rw [List.lookup_append, lookup_of_notMem hdeclared, lookup_of_notMem hproperty]
  rfl

/-- The built-in functions are known. -/
theorem ofSchema_knows (hmacros : Distinct macros) :
    Knows library (ofSchema macros config schema) := by
  intro builtin
  rw [findTop_ofSchema, lookup_global hmacros (by cases builtin <;> decide)]
  cases builtin <;> rfl

/-- The limit on nesting is not hidden. -/
theorem ofSchema_limit (hmacros : Distinct macros) :
    (ofSchema macros config schema).template.bind (·.find? depthLimitName) = none := by
  have hlookup : (macros ++ Project.schemaContext config schema).lookup depthLimitName = none :=
    lookup_global hmacros List.mem_cons_self
  simp [ofSchema, Scope.template, Frame.find?, hlookup]

/-- A macro is found in its template. -/
theorem find_declared {value : Value} (h : macros.lookup name = some value) :
    (ofSchema macros config schema).findTop? library name = some value := by
  rw [findTop_ofSchema, List.lookup_append, h]
  rfl

/-- A property of the schema is found in the template. -/
theorem find_property {value : Value} (hmacros : Distinct macros)
    (hvalue : (Project.schemaContext config schema).lookup name = some value) :
    (ofSchema macros config schema).findTop? library name = some value := by
  have hname : name ∉ macros.map (·.1) := fun hmem => (hmacros name hmem).1 (mem_of_lookup hvalue)
  rw [findTop_ofSchema, List.lookup_append, lookup_of_notMem hname, Option.none_or, hvalue]
  rfl

/-- A property of the schema has its value. -/
theorem eval_property {invoke : Invoke} {scope : Scope} {value : Value}
    (hmacros : Distinct macros) (hwithin : Within library (ofSchema macros config schema) scope)
    (hvalue : (Project.schemaContext config schema).lookup name = some value) :
    (Expr.var name).eval library invoke scope = .ok value := by
  have hdisjoint : ∀ name ∈ contextNames, name ∉ localNames := by decide
  have hname : name ∈ contextNames := mem_of_lookup hvalue
  exact eval_var ((hwithin.find_eq name (hdisjoint name hname)).trans
    (find_property hmacros hvalue))

/-- A text among the properties of the schema prints as itself. -/
theorem prints_property {invoke : Invoke} {scope : Scope} (name : String) {text : String}
    (hmacros : Distinct macros) (hwithin : Within library (ofSchema macros config schema) scope)
    (hvalue : (Project.schemaContext config schema).lookup name = some (.text text)) :
    Prints library invoke scope (.var name) (.ok text) :=
  .ofText (eval_property hmacros hwithin hvalue)

/-- The attributes of the schema are their values. -/
theorem eval_attributes {invoke : Invoke} (hmacros : Distinct macros) :
    (Expr.var "attributes").eval library invoke (ofSchema macros config schema) =
      .ok (.list (Attribute.toValues schema.attributes)) :=
  eval_property hmacros ofSchema_within rfl

/-- A call of a built-in function on the attributes of the schema comes to what it yields. -/
theorem eval_ofAttributes {invoke : Invoke} {builtin : Builtin} {answer : Outcome Value}
    (hmacros : Distinct macros)
    (h : library.call builtin [.list (Attribute.toValues schema.attributes)] = answer) :
    (Expr.call builtin.name [.var "attributes"] []).eval library invoke
      (ofSchema macros config schema) = answer :=
  answers_of_call h invoke _ _ (eval_attributes hmacros)
    (ofSchema_within.find_builtin (ofSchema_knows hmacros) builtin)

/-- In a loop of the template a macro may be called. -/
theorem canCall {inner : Scope} (h : inner.depth = (ofSchema macros config schema).depth + 1) :
    inner.depth + macroCost ≤ maxNesting := by
  rw [h]
  change 8 ≤ 500
  decide

/-- A loop over the attributes of the schema for which a test holds writes the texts of those. -/
theorem writes_each {invoke : Invoke} {keep : Expr} {kept : Attribute → Bool}
    {body rest : List Stmt} {written : Attribute → Outcome String} {others : Outcome String}
    (hmacros : Distinct macros) (hrange : Everywhere (·.field.InRange) schema.attributes)
    (hkeep : ∀ {attr inner}, inner.depth + macroCost ≤ maxNesting →
      About library (ofSchema macros config schema) "a" attr inner →
        Decides library invoke inner keep (kept attr))
    (hbody : ∀ {attr inner}, inner.depth + macroCost ≤ maxNesting →
      About library (ofSchema macros config schema) "a" attr inner →
        Writes library invoke inner body (written attr))
    (hrest : Writes library invoke (ofSchema macros config schema) rest others) :
    Writes library invoke (ofSchema macros config schema)
      (.loopIf (.name "a") (.var "attributes") keep false body [] :: rest)
      (andThen (textsOf written (schema.attributes.filter kept)) others) :=
  .eachAttributeIf ofSchema_within (ofSchema_knows hmacros) (by decide) hrange ofSchema_depth
    (eval_attributes hmacros) (fun _ _ _ hitem => hkeep (canCall hitem.depth))
    (fun _ _ _ _ hitem => hbody (canCall hitem.depth)) hrest

/-- A recursive loop over the attributes of the schema writes their text. -/
theorem writes_attributes {loop : NestedLoop} {text : NestedText} (hmacros : Distinct macros)
    (hmeans : loop.Means library (ofSchema macros config schema) text)
    (hrange : Everywhere (·.field.InRange) schema.attributes)
    (hlevels : Levels 64 schema.attributes) :
    Writes library (invoke library (maxNesting + 1)) (ofSchema macros config schema)
      [.loop (.name "a") (.var "attributes") true loop.body []]
      (text.writeAll library.maxDepth 1 schema.attributes) :=
  loop.writes hmeans (ofSchema_limit hmacros) ofSchema_within (ofSchema_knows hmacros) rfl rfl
    (find_property hmacros rfl) hrange hlevels (by decide)

/-- A call of a macro of the template on an attribute comes to the text that its body leaves. -/
theorem eval_aMacro {fuel : Nat} {template scope : Scope} {attr : Attribute} {name : String}
    {body : List Stmt} {outcome : Outcome String}
    (habout : About library template "a" attr scope) (hname : name ∉ localNames)
    (hdeclared : template.findTop? library name = some (.macroIn 1 ⟨["a"], [], body⟩))
    (hheight : scope.depth + macroCost ≤ maxNesting)
    (hbody : Leaves library (invoke library fuel) (scope.inMacro [("a", attr.toValue)]) body
      outcome) :
    (Expr.call name [.var "a"] []).eval library (invoke library (fuel + 1)) scope =
      .text <$> outcome := by
  have hloop : name ≠ "loop" := fun heq => hname (heq ▸ by decide)
  have hfind := (habout.within.find_eq name hname).trans hdeclared
  have harguments : Expr.evalAll library (invoke library (fuel + 1)) scope [.var "a"] =
      .ok [attr.toValue] := evalAll_cons (eval_var habout.item) rfl
  exact eval_macroIn hloop hfind harguments rfl hheight hbody

/-- The body of a macro that says whether a test holds. -/
def saysYes (test : Expr) : List Stmt := [.branch test [.text "yes"] []]

/-- A call of a macro of the template that says whether a test holds of an attribute decides as the
test does. -/
theorem decides_aMacro {fuel : Nat} {template scope : Scope} {attr : Attribute}
    {name : String} {test : Expr} {answer : Bool}
    (habout : About library template "a" attr scope) (hname : name ∉ localNames)
    (hdeclared : template.findTop? library name = some (.macroIn 1 ⟨["a"], [], saysYes test⟩))
    (hheight : scope.depth + macroCost ≤ maxNesting)
    (htest : ∀ {inner}, About library template "a" attr inner →
      Decides library (invoke library fuel) inner test answer) :
    Decides library (invoke library (fuel + 1)) scope (.call name [.var "a"] []) answer := by
  have hinner : About library template "a" attr (scope.inMacro [("a", attr.toValue)]) :=
    habout.inMacro (by simp [localNames]) rfl
  have hbody : Writes library (invoke library fuel) (scope.inMacro [("a", attr.toValue)])
      (saysYes test) (.ok (if answer then "yes" else "")) :=
    .as (.when (htest hinner) (.text .nil) .nil) (by simp)
  have hdecides := Decides.ofText (eval_aMacro habout hname hdeclared hheight hbody.leaves)
  cases answer <;> exact hdecides

/-- The types whose literals stand in quotes. -/
def quoted : List AttributeType := [.string, .version, .versions]

/-- The statement that writes an expression as a literal of the attribute `a`. -/
def literal (shown : Expr) : Stmt :=
  .branch (asks .isStringListSet) [.text "[\"", .print shown, .text "\"]"]
    [.branch (asks .isListSet) [.text "[", .print shown, .text "]"]
      [.branch (isOneOf itsType quoted) [.text "\"", .print shown, .text "\""] [.print shown]]]

/-- The literal of a field that is written for a text. -/
def literalText (field : Field) (shown : String) : String :=
  if field.isStringListSet then "[\"" ++ shown ++ "\"]"
  else if field.isListSet then "[" ++ shown ++ "]"
  else if quoted.any (· == field.type) then "\"" ++ shown ++ "\""
  else shown

/-- A literal is written according to the type of the attribute. -/
theorem writes_literal {invoke : Invoke} {template scope : Scope} {attr : Attribute}
    {shown : Expr} {text : String} (habout : About library template "a" attr scope)
    (hshown : Prints library invoke scope shown (.ok text)) :
    Writes library invoke scope [literal shown] (.ok (literalText attr.field text)) := by
  have hstrings : Decides library invoke scope (asks .isStringListSet) attr.field.isStringListSet :=
    habout.asks (by simp [fieldQuestions])
  have hlist : Decides library invoke scope (asks .isListSet) attr.field.isListSet :=
    habout.asks (by simp [fieldQuestions])
  have hquoted : Decides library invoke scope (isOneOf itsType quoted)
      (quoted.any (· == attr.field.type)) := .oneOf habout.eval_itsType quoted
  have hbetween (opening closing : String) : Writes library invoke scope
      [.text opening, .print shown, .text closing] (.ok (opening ++ text ++ closing)) := by
    simpa [String.append_assoc] using Writes.text (.print hshown (.text .nil))
  exact .ifElse hstrings (hbetween _ _) (.ifElse hlist (hbetween _ _)
    (.ifElse hquoted (hbetween _ _) (.as (.print hshown .nil) (by simp))))

end Stencil.Standard
