import Stencil.Proofs.Standard.Sections.Resource
import Stencil.Proofs.Text.Piece

/-!
# Import identifiers

The example command that imports an object quotes an identifier, and the generated resource takes
such an identifier apart. Both come from the same attributes: the identifier has one part for each
of them, in their order, and one for the object's own id, which is the number of parts that the
resource asks for (`import_exact`).
-/

namespace Stencil.Standard

open Schema (Attribute Everywhere)
open Template

/-- The attributes that contribute a part to the import identifier of a schema. -/
def partAttributes (schema : Schema) : List Attribute :=
  schema.attributes.filter (·.isImportPart)

/-- The part of an attribute as the example shows it. -/
def partText (attr : Attribute) : String := "<" ++ attr.field.tfName ++ ">"

/-- The identifier as the example shows it. -/
def identifier (schema : Schema) : String :=
  String.join ((partAttributes schema).map fun attr => partText attr ++ ",") ++ "<id>"

variable {library : Library} {config : Config} {schema : Schema}

/-- An identifier has as many parts as are counted. -/
theorem importParts_eq (schema : Schema) :
    Schema.importParts schema.attributes = (partAttributes schema).length + 1 := by
  rw [Schema.importParts, partAttributes, List.countP_eq_length_filter, Nat.add_comm]

/-- The attribute contributes a part if it is a reference or an id. -/
theorem decides_isImportPart {invoke : Invoke} {template scope : Scope} {attr : Attribute}
    (h : About library template "a" attr scope) :
    Decides library invoke scope (.either (its "a" .isReference) (its "a" .isId))
      attr.isImportPart :=
  (h.flag rfl).either fun _ => h.flag rfl

namespace Import

/-- The template. -/
def tree : List Stmt :=
  [.text "terraform import ", .print (.var "provider"), .text "_", .print (.var "tf_name"),
    .text ".example \"",
    .loopIf (.name "a") (.var "attributes") (.either (its "a" .isReference) (its "a" .isId)) false
      [.text "<", .print (its "a" .tfName), .text ">,"] [],
    .text "<id>\"\n"]

/-- The source of the template. -/
def source : Source := ⟨"import.sh", .document, text importExample⟩

set_option maxRecDepth 100000 in
/-- The template is written down as the source says. -/
theorem parse_source : parse? source.letters = some tree := by
  unfold source importExample
  rw [letters_document]
  repeat rw [text_cons]
  rw [text_nil]
  rfl

/-- The command that imports an object. -/
def command (config : Config) (schema : Schema) : String :=
  "terraform import " ++ config.provider ++ "_" ++ schema.header.tfName ++ ".example \"" ++
    identifier schema ++ "\"\n"

/-- The template writes the command. -/
theorem writes_tree {invoke : Invoke} (hrange : Everywhere (·.field.InRange) schema.attributes) :
    Writes library invoke (ofSchema [] config schema) tree (.ok (command config schema)) := by
  have hnone : Distinct [] := by decide
  have hpart : ∀ attr : Attribute, "<" ++ (attr.field.tfName ++ ">,") = partText attr ++ "," := by
    intro attr
    simp [partText, String.append_assoc]
  refine .as (.text (.print (prints_property "provider" hnone ofSchema_within rfl)
    (.text (.print (prints_property "tf_name" hnone ofSchema_within rfl)
      (.text (writes_each hnone hrange (fun _ => decides_isImportPart)
        (fun _ habout => .text (.print (habout.prints rfl) (.text .nil))) (.text .nil))))))) ?_
  simp only [ok_andThen, andThen_empty, hpart, textsOf_ok]
  unfold command
  simp [identifier, partAttributes, String.append_assoc]

/-- The template renders as the command. -/
theorem render_source (hrange : Everywhere (·.field.InRange) schema.attributes) :
    source.render library (Project.schemaContext config schema) = .ok (command config schema) := by
  have hleaves : Leaves library (invoke library (maxNesting + 1))
      (.ofContext (Project.schemaContext config schema)) tree (.ok (command config schema)) :=
    (writes_tree hrange).leaves
  rw [render_of_parse parse_source hleaves]
  rfl

end Import

namespace Resource

/-- What the resource writes to take an attribute from the part at an index. -/
def partLine (part : Attribute × Nat) : String :=
  if part.1.field.type == .string then
    "        state." ++ part.1.field.tfName ++ " = Some(parts[" ++ toString part.2 ++
      "].to_string());\n"
  else
    "        state." ++ part.1.field.tfName ++ " = parts[" ++ toString part.2 ++ "].parse().ok();\n"

/-- What the resource writes to import an object whose identifier has so many parts. -/
def importText (schema : Schema) (count : Int) : String :=
  openingText "import" ++ "impl " ++ schema.header.typeName ++
    "Resource \x7b\n    /// Import identifier with " ++ toString count ++
    " comma-separated part(s).\n    pub fn import(id: &str) -> Result<" ++ schema.header.typeName ++
    (", ClientError> \x7b\n        let parts: Vec<&str> = id.split(',').collect();\n" ++
      "        if parts.len() != ") ++ toString count ++
    (" \x7b\n            return Err(ClientError::InvalidImportId(id.to_string()));\n" ++
      "        \x7d\n        let mut state = ") ++ schema.header.typeName ++ "::default();\n" ++
    String.join ((partAttributes schema).zipIdx.map partLine) ++
    "        state.id = Some(parts[" ++ toString (count - 1) ++
    "].to_string());\n        Ok(state)\n    \x7d\n\x7d\n" ++ closingText "import"

/-- The index of a part is where the loop has come to. -/
theorem eval_index {invoke : Invoke} {outer scope : Scope} {body : List Stmt}
    {length depth index : Nat} {item : Value}
    (h : AtItem outer "a" (loopAt "a" body false true length depth index) item scope) :
    (Expr.member (.var "loop") "index0").eval library invoke scope = .ok (.int index) := by
  rw [eval_member (eval_var (h.find_loop rfl (by decide)))]
  rfl

/-- The statements that take an attribute from its part write a line for it. -/
theorem writes_partBody {invoke : Invoke} {outer template scope : Scope} {attr : Attribute}
    {body : List Stmt} {length depth index : Nat}
    (habout : About library template "a" attr scope)
    (h : AtItem outer "a" (loopAt "a" body false true length depth index) attr.toValue scope) :
    Writes library invoke scope partBody (.ok (partLine (attr, index))) := by
  have hindex : Prints library invoke scope (.member (.var "loop") "index0")
      (.ok (toString index)) := .ofValue (eval_index h) rfl
  refine .ifElse (.typed habout.eval_itsType .string) ?_ ?_
  all_goals
    refine .as (.text (.print (habout.prints rfl) (.text (.print hindex (.text .nil))))) ?_
    simp [String.append_assoc]

/-- The parts of the identifier are counted as 64-bit numbers. -/
theorem eval_parts {macros : List (String × Value)} {invoke : Invoke} (hmacros : Distinct macros)
    (hrange : Everywhere (·.field.InRange) schema.attributes) :
    parts.eval library invoke (ofSchema macros config schema) =
      .ok (.int (clampInt64 (Schema.importParts schema.attributes))) :=
  eval_ofAttributes hmacros (IsList.importParts ⟨rfl, hrange⟩)

/-- One less than a number of parts. -/
theorem subtract_one (count : Nat) : Library.subtract [.int (clampInt64 count), .int 1] =
    .ok (.int (clampInt64 count - 1)) := by
  have hbound : 0 ≤ clampInt64 count ∧ clampInt64 count < 2 ^ 63 := by
    have hlargest : (Number.wordCount 63 : Int) = 2 ^ 63 := rfl
    rw [clampInt64, hlargest]
    omega
  have hfits : ∀ value : Int, -1 ≤ value → value < 2 ^ 63 →
      Number.fitsSigned 64 value = true := by
    intro value hleast hmost
    have hcount : Int.ofNat (Number.wordCount (64 - 1)) = 2 ^ 63 := rfl
    rw [Number.fitsSigned, hcount, Bool.and_eq_true, decide_eq_true_eq, decide_eq_true_eq]
    omega
  have hleft : Library.int64Argument (.int (clampInt64 count)) = .ok (clampInt64 count) := by
    simp [Library.int64Argument, Library.wholeArgument, Value.asWhole?,
      hfits _ (by omega) hbound.2, pure, Except.pure]
  have hright : Library.int64Argument (.int 1) = .ok 1 := rfl
  have hdifference : Schema.inIntRange (clampInt64 count - 1) = true :=
    hfits _ (by omega) (by omega)
  simp [Library.subtract, Library.takeArgument, Library.noMore, Value.isUndefined, hleft, hright,
    hdifference, bind, Except.bind, pure, Except.pure]

/-- The index of the id is one less than the number of parts. -/
theorem eval_last {macros : List (String × Value)} {invoke : Invoke} (hmacros : Distinct macros)
    (hrange : Everywhere (·.field.InRange) schema.attributes) :
    (Expr.call Builtin.subtract.name [parts, .literal (.int 1)] []).eval library invoke
        (ofSchema macros config schema) =
      .ok (.int (clampInt64 (Schema.importParts schema.attributes) - 1)) := by
  have harguments : Expr.evalAll library invoke (ofSchema macros config schema)
      [parts, .literal (.int 1)] =
        .ok [.int (clampInt64 (Schema.importParts schema.attributes)), .int 1] :=
    evalAll_cons (eval_parts hmacros hrange) rfl
  rw [eval_builtin (ofSchema_within.find_builtin (ofSchema_knows hmacros) .subtract) harguments]
  exact subtract_one _

/-- The section that imports an object is written for all schemas. -/
theorem writes_import {macros : List (String × Value)} {invoke : Invoke} (hmacros : Distinct macros)
    (hrange : Everywhere (·.field.InRange) schema.attributes) :
    Writes library invoke (ofSchema macros config schema) importSection.stmts
      (.ok (importText schema (clampInt64 (Schema.importParts schema.attributes)))) := by
  have htype : Prints library invoke (ofSchema macros config schema) (.var "type_name")
      (.ok schema.header.typeName) := prints_property "type_name" hmacros ofSchema_within rfl
  have hcount : Prints library invoke (ofSchema macros config schema) parts
      (.ok (toString (clampInt64 (Schema.importParts schema.attributes)))) :=
    .ofValue (eval_parts hmacros hrange) rfl
  have hlast : Prints library invoke (ofSchema macros config schema)
      (.call Builtin.subtract.name [parts, .literal (.int 1)] [])
      (.ok (toString (clampInt64 (Schema.importParts schema.attributes) - 1))) :=
    .ofValue (eval_last hmacros hrange) rfl
  have hlines : ∀ {rest : List Stmt} {others : Outcome String},
      Writes library invoke (ofSchema macros config schema) rest others →
      Writes library invoke (ofSchema macros config schema)
        (.loopIf (.name "a") (.var "attributes") (.either (its "a" .isReference) (its "a" .isId))
          false partBody [] :: rest)
        (andThen (.ok (String.join ((partAttributes schema).zipIdx.map partLine))) others) := by
    intro rest others hrest
    have habout {attr : Attribute} {running : RunningLoop} {inner : Scope}
        (hmem : attr ∈ schema.attributes)
        (hinner : AtItem (ofSchema macros config schema) "a" running attr.toValue inner) :
        About library (ofSchema macros config schema) "a" attr inner :=
      have hattr := Schema.everywhere_iff.1 hrange attr hmem
      .ofItem ofSchema_within (ofSchema_knows hmacros) (by decide) hattr.1 hattr.2 hinner
    rw [← textsOf_ok]
    refine .loopIf ⟨_, eval_attributes hmacros, congrArg Except.ok
      (Attribute.toValues_eq_map schema.attributes)⟩ ofSchema_depth
      (fun attr hmem _ _ hinner => decides_isImportPart (habout hmem hinner))
      (fun pair hpair inner hinner => ?_) hrest
    have hmem := (List.mem_filter.1 (List.fst_mem_of_mem_zipIdx hpair)).1
    exact writes_partBody (habout hmem hinner) hinner
  refine .as (.text (.text (.print htype (.text (.print hcount (.text (.print htype (.text
    (.print hcount (.text (.print htype (.text (hlines (.text (.print hlast (.text (.text
      .nil))))))))))))))))) ?_
  unfold importText importSection
  simp only [ok_andThen, String.reduceAppend, String.append_assoc, String.append_empty]

/-- The statements before the section that imports an object. -/
def earlier : List Stmt :=
  sectionsStmts [headerSection, clientSection, typeSection, createSection, updateSection,
    deleteSection] ++ [.text "\n"]

/-- The section that imports an object is the last one. -/
theorem stmts_eq : sectioned.silent ++ sectionsStmts sectioned.sections =
    updateCheck :: callChoice :: (earlier ++ importSection.stmts) := by
  simp [sectioned, sectionsStmts_cons, sectionsStmts_singleton, earlier]

/-- Only the choice of the call sets a variable. -/
theorem steady_updateCheck : updateCheck.steady = true := by rfl

/-- Sections set no variables. -/
theorem steady_earlier : Stmt.steadyAll earlier = true := by rfl

/-- The choice of the call that creates an object makes it known under a name. -/
theorem run_callChoice {invoke : Invoke} {scope after : Scope} {printed : String}
    (h : callChoice.run library invoke scope = .ok (after, printed)) :
    ∃ call, after = scope.set "create_call" call := by
  simp only [callChoice, Stmt.run, bind_ok_iff] at h
  obtain ⟨call, -, chosen, hchosen, h⟩ := h
  obtain ⟨rfl, -⟩ := Prod.mk.inj (Except.ok.inj h)
  exact ⟨call, (Except.ok.inj hchosen).symm⟩

/-- What the resource of a schema ends with, if it is rendered. -/
theorem import_of_render (hrange : Everywhere (·.field.InRange) schema.attributes) {code : String}
    (h : source.render library (Project.schemaContext config schema) = .ok code) :
    ∃ before, code =
      before ++ importText schema (clampInt64 (Schema.importParts schema.attributes)) := by
  obtain ⟨_, hrun⟩ := (render_ok_iff isReadFrom_source).1 h
  rw [stmts_eq, ofContext_eq] at hrun
  obtain ⟨start, checked, _, hcheck, hothers, rfl⟩ := runAll_cons_ok_iff.1 hrun
  obtain ⟨known, chosen, _, hchoice, hsections, rfl⟩ := runAll_cons_ok_iff.1 hothers
  obtain ⟨last, sections, text, hearlier, himport, rfl⟩ := runAll_append_ok_iff.1 hsections
  have hstart := updateCheck.run_steady steady_updateCheck hcheck
  obtain ⟨call, hknown⟩ := run_callChoice hchoice
  have hlast := Stmt.runAll_steady earlier steady_earlier hearlier
  subst hstart hlast
  rw [set_ofSchema] at hknown
  subst hknown
  have hmacros : Distinct [("create_call", call)] := by
    simp [Distinct]
    decide
  rw [writes_import hmacros hrange] at himport
  obtain ⟨-, rfl⟩ := Prod.mk.inj (Except.ok.inj himport)
  exact ⟨checked ++ (chosen ++ sections), by simp [String.append_assoc]⟩

end Resource

/-- A part holds a mark only if the name in it does. -/
theorem notMem_partText {attr : Attribute} {mark : Char} (hmark : mark ≠ '<' ∧ mark ≠ '>')
    (h : mark ∉ attr.field.tfName.toList) : mark ∉ (partText attr).toList := by
  simp [partText, hmark, h]

/-- Texts that are each followed by a comma are the pieces before what follows the last comma. -/
theorem pieces_parts {attributes : List Attribute} {last : List Char} (hlast : ',' ∉ last)
    (h : ∀ attr ∈ attributes, ',' ∉ attr.field.tfName.toList) :
    Text.pieces (· == ',')
        ((String.join (attributes.map fun attr => partText attr ++ ",")).toList ++ last) =
      attributes.map (fun attr => (partText attr).toList) ++ [last] := by
  induction attributes with
  | nil => simpa using Text.pieces_of_notMem hlast
  | cons attr rest ih =>
      obtain ⟨hattr, hrest⟩ := List.forall_mem_cons.1 h
      have htext :
          (String.join ((attr :: rest).map fun attr => partText attr ++ ",")).toList ++ last =
            (partText attr).toList ++ ',' ::
              ((String.join (rest.map fun attr => partText attr ++ ",")).toList ++ last) := by
        simp [String.join_cons]
      rw [htext, Text.pieces_separator rfl,
        Text.pieces_of_notMem (notMem_partText (by decide) hattr), ih hrest]
      rfl

/-- The identifier has the parts of the attributes and that of the object's own id. -/
theorem pieces_identifier (h : ∀ attr ∈ schema.attributes, ',' ∉ attr.field.tfName.toList) :
    Text.pieces (· == ',') (identifier schema).toList =
      (partAttributes schema).map (fun attr => (partText attr).toList) ++ ["<id>".toList] := by
  rw [identifier, String.toList_append]
  exact pieces_parts (by decide) fun attr hattr => h attr (List.mem_of_mem_filter hattr)

/-- The identifier has no quotes if no name in it has any. -/
theorem notMem_identifier (h : ∀ attr ∈ schema.attributes, '"' ∉ attr.field.tfName.toList) :
    '"' ∉ (identifier schema).toList := by
  rw [identifier, String.toList_append, String.toList_join, List.mem_append, not_or,
    List.mem_flatMap]
  refine ⟨?_, by decide⟩
  rintro ⟨text, htext, hquote⟩
  obtain ⟨attr, hattr, rfl⟩ := List.mem_map.1 htext
  rw [String.toList_append, List.mem_append] at hquote
  exact hquote.elim (notMem_partText (by decide) (h attr (List.mem_of_mem_filter hattr)))
    (by decide)

/-- The command is cut at its quotes into what is before the identifier, the identifier and the end
of the line. -/
theorem pieces_command (hprovider : '"' ∉ config.provider.toList)
    (hname : '"' ∉ schema.header.tfName.toList)
    (h : ∀ attr ∈ schema.attributes, '"' ∉ attr.field.tfName.toList) :
    ∃ before, Text.pieces (· == '"') (Import.command config schema).toList =
      [before, (identifier schema).toList, ['\n']] := by
  have htext : (Import.command config schema).toList =
      ("terraform import " ++ config.provider ++ "_" ++ schema.header.tfName ++
        ".example ").toList ++ '"' :: ((identifier schema).toList ++ '"' :: ['\n']) := by
    unfold Import.command
    simp
  have hbefore : '"' ∉ ("terraform import " ++ config.provider ++ "_" ++ schema.header.tfName ++
      ".example ").toList := by
    simp [hprovider, hname]
  rw [htext, Text.pieces_separator rfl, Text.pieces_separator rfl,
    Text.pieces_of_notMem hbefore, Text.pieces_of_notMem (notMem_identifier h),
    Text.pieces_of_notMem (by decide)]
  exact ⟨_, rfl⟩

/-- The command that imports an object and the resource that is imported agree. The command quotes
one identifier. Cut at commas, it has as many parts as are counted: one for each attribute at the
top that is a reference or an id, in order, and a last one for the object's own id. So the index at
which the resource reads an attribute is below the one at which it reads the id, and these are the
indices of their parts. -/
theorem import_exact (library : Library) (config : Config) {content : Content} {schema : Schema}
    (hload : Schema.loadContent content = .ok schema)
    (hprovider : '"' ∉ config.provider.toList) (hname : '"' ∉ schema.header.tfName.toList)
    (hattributes : ∀ attr ∈ schema.attributes,
      ',' ∉ attr.field.tfName.toList ∧ '"' ∉ attr.field.tfName.toList) :
    (∃ command before quoted after,
      Import.source.render library (Project.schemaContext config schema) = .ok command ∧
      Text.pieces (· == '"') command.toList = [before, quoted, after] ∧
      let parts := Text.pieces (· == ',') quoted
      parts = (partAttributes schema).map (fun attr => (partText attr).toList) ++
          ["<id>".toList] ∧
        parts.length = Schema.importParts schema.attributes ∧
        (∀ index attr, (partAttributes schema)[index]? = some attr →
          parts[index]? = some (partText attr).toList ∧
            index < Schema.importParts schema.attributes - 1) ∧
        parts[Schema.importParts schema.attributes - 1]? = some "<id>".toList) ∧
    ∀ code, Resource.source.render library (Project.schemaContext config schema) = .ok code →
      ∃ before count, code = before ++ Resource.importText schema count ∧
        (Schema.importParts schema.attributes < 2 ^ 63 →
          count = Schema.importParts schema.attributes) := by
  have hrange : Everywhere (·.field.InRange) schema.attributes :=
    fun visit hvisit => (Schema.loaded_bounded hload visit hvisit).1
  refine ⟨?_, fun code hcode => ?_⟩
  · have hparts := pieces_identifier fun attr hattr => (hattributes attr hattr).1
    obtain ⟨before, hquoted⟩ :=
      pieces_command hprovider hname fun attr hattr => (hattributes attr hattr).2
    refine ⟨_, before, _, _, Import.render_source hrange, hquoted, ?_⟩
    rw [hparts, importParts_eq, Nat.add_sub_cancel]
    refine ⟨rfl, by simp, fun index attr hattr => ?_, by simp⟩
    obtain ⟨hindex, hattr⟩ := List.getElem?_eq_some_iff.1 hattr
    refine ⟨?_, hindex⟩
    rw [List.getElem?_append_left (by simpa using hindex)]
    simp [hindex, hattr]
  · obtain ⟨before, hbefore⟩ := Resource.import_of_render hrange hcode
    refine ⟨before, _, hbefore, fun hcount => ?_⟩
    have hlargest : (Number.wordCount 63 : Int) = 2 ^ 63 := rfl
    rw [clampInt64, hlargest]
    omega

/-- A document with an attribute that is both a reference and an id, and a set of references. -/
def nestedReference : Content :=
  .text ("name: Site\nrest_endpoint: x\nattributes:\n" ++
    "- {model_name: org, type: String, reference: true}\n" ++
    "- {model_name: key, type: Int64, reference: true, id: true}\n- model_name: rules\n" ++
    "  type: Set\n  attributes:\n  - {model_name: port, type: Int64, reference: true}\n")

/-- The attribute that is both has one part in the identifier, and the references in the set have
none. The resource asks for three parts. -/
theorem import_exact_nested_reference :
    ∃ schema, Schema.loadContent nestedReference = .ok schema ∧
      (∃ command before quoted after,
        Import.source.render ⟨4⟩ (Project.schemaContext Config.default schema) = .ok command ∧
        Text.pieces (· == '"') command.toList = [before, quoted, after] ∧
        Text.pieces (· == ',') quoted = ["<org>".toList, "<key>".toList, "<id>".toList]) ∧
      ∃ code before,
        Resource.source.render ⟨4⟩ (Project.schemaContext Config.default schema) = .ok code ∧
        code = before ++ Resource.importText schema 3 := by
  have hfound : (Schema.loadContent nestedReference).toOption.map (fun schema =>
      (((partAttributes schema).map (fun attr => (partText attr).toList),
          Schema.importParts schema.attributes),
        schema.header.tfName,
        decide (∀ attr ∈ schema.attributes,
          ',' ∉ attr.field.tfName.toList ∧ '"' ∉ attr.field.tfName.toList),
        (Stmt.runAll ⟨4⟩ (invoke ⟨4⟩ (maxNesting + 1))
          (.ofContext (Project.schemaContext Config.default schema))
          (Resource.sectioned.silent ++
            sectionsStmts Resource.sectioned.sections)).toOption.isSome)) =
      some ((["<org>".toList, "<key>".toList], 3), "site", true, true) := by
    unfold nestedReference
    rw [Schema.loadContent_eq, Schema.written_text, String.toList_append, String.toList_append, String.toList_append]
    repeat rw [String.toList_ofList]
    decide +kernel
  obtain ⟨schema, hschema, hfound⟩ := Option.map_eq_some_iff.1 hfound
  simp only [Prod.mk.injEq, decide_eq_true_eq] at hfound
  obtain ⟨⟨hparts, hcount⟩, hname, hattributes, hrun⟩ := hfound
  rw [toOption_eq_some_iff] at hschema
  obtain ⟨⟨command, before, quoted, after, hcommand, hquoted, hpieces, -⟩, hresource⟩ :=
    import_exact ⟨4⟩ Config.default hschema (by decide) (by rw [hname]; decide) hattributes
  obtain ⟨⟨last, code⟩, hcode⟩ := Option.isSome_iff_exists.1 hrun
  have hrender := (render_ok_iff Resource.isReadFrom_source).2
    ⟨last, toOption_eq_some_iff.1 hcode⟩
  obtain ⟨start, count, hend, hsmall⟩ := hresource code hrender
  rw [hcount] at hsmall
  obtain rfl : count = 3 := hsmall (by decide)
  rw [hparts] at hpieces
  exact ⟨schema, hschema, ⟨command, before, quoted, after, hcommand, hquoted, hpieces⟩, code,
    start, hrender, hend⟩

end Stencil.Standard
