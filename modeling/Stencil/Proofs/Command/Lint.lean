import Stencil.Command.Program
import Stencil.Proofs.Project.Outputs
import Stencil.Proofs.Schema.Lint
import Stencil.Proofs.Schema.Validation

/-!
# The lint command

What becomes of the issues of schemas: those of a directory are the issues of the schemas that are
loaded from it, one schema after another (`lint_eq_loadSchemas`), and the command fails exactly if
it was asked to and some issue is an error (`lint_exact`).
-/

namespace Stencil

namespace Project

/-- Schemas are loaded with their paths as they are loaded. -/
theorem result_loadReported (files : FileSystem) (path : String) :
    (loadReported files path).result =
      (loadSchema files path).map fun schema => (path, schema) := by
  rw [loadReported, Traced.result_bind, Traced.result_of]
  cases loadSchema files path <;> rfl

/-- The issues of a directory are those of the schemas that are loaded from it, and there are none
for the same reason that there are no schemas. -/
theorem lint_eq_loadSchemas (files : FileSystem) (directory : String) :
    lint files directory =
      (loadSchemas files directory).result.map fun schemas =>
        schemas.flatMap fun loaded => loaded.2.lint := by
  rw [lint, loadSchemas, Traced.result_bind, Traced.result_of]
  cases listDefinitions files directory with
  | error fault => rfl
  | ok paths =>
      simp only [bind, Except.bind, Traced.result_mapM, result_loadReported,
        ← mapM_paired (loadSchema files)]
      cases paths.mapM fun path => (loadSchema files path).map fun schema => (path, schema) with
      | error fault => rfl
      | ok schemas =>
          exact congrArg Except.ok (List.flatMap_map _ _ _)

end Project

namespace Command

open Schema (Visit Bounds Reports FirstViolation hasErrors written loadContent)

/-- How the lint command ends where the schemas can be loaded. -/
theorem lint_result {config : Config} {files : FileSystem} {schemas : List (String × Schema)}
    (h : (Project.loadSchemas files config.definitionsDir).result = .ok schemas)
    (failOnError errorsOnly : Bool) :
    (lint config failOnError errorsOnly files).result =
      if failOnError && hasErrors (schemas.flatMap fun loaded => loaded.2.lint) then
        .error (.refused "lint found error-level issues")
      else .ok () := by
  rw [lint, Project.lint_eq_loadSchemas, h]
  simp only [Except.map]
  cases hasErrors (schemas.flatMap fun loaded => loaded.2.lint) <;> cases failOnError <;> rfl

/-- The lint command ends as linting does. -/
theorem perform_lint {line : Line} {files : FileSystem} {config : Config}
    {failOnError errorsOnly : Bool} (haction : line.action = some (.lint failOnError errorsOnly))
    (hconfig : (loadConfig files line.config).result = .ok config) :
    (line.perform files).2.result = (lint config failOnError errorsOnly files).result := by
  rw [Line.perform, hconfig, haction]
  rfl

/-- The exit code says whether what was asked for has failed. -/
theorem code_of_read {environment : List (String × String)} {words : List String}
    {files : FileSystem} {line : Line} (h : Line.read environment words = .ok line) :
    (runProgram environment words files).2.code ≠ 0 ↔
      ∃ fault, (line.perform files).2.result = .error fault := by
  rw [runProgram, h]
  cases hresult : (line.perform files).2.result <;> simp [hresult]

/-- A document that can be read is refused with the first violation in it. -/
theorem violation_of_load {content : Content} {read : Schema} {violation : Schema.Violation}
    (hread : written content = .ok read)
    (h : loadContent content = .error (.invalid violation)) :
    ∃ visit, FirstViolation read visit violation := by
  rw [Schema.loadContent_written hread] at h
  split at h
  · next found hfound =>
      obtain rfl : found = violation := by simpa using h
      exact Schema.firstViolation_eq_some_iff.1 hfound
  · cases h

/-- Lint is exact. The issues of a schema are what is found at its attributes, in the order of their
positions and located at the paths that loading reports them with. They hold an error exactly if two
siblings have one name or a pair of bounds is inverted. The issues of a directory are those of the
schemas loaded from it. The program fails for them exactly if it was asked to and one is an
error. -/
theorem lint_exact :
    (∀ schema : Schema, ∃ visits found, Reports schema visits found) ∧
    (∀ schema : Schema, hasErrors schema.lint = true ↔
      (∃ first second : Visit, first.In schema.attributes ∧ second.In schema.attributes ∧
        first.position ≠ second.position ∧ first.Namesakes second) ∨
      ∃ visit : Visit, visit.In schema.attributes ∧
        ∃ bounds : Bounds, bounds.Inverted visit.attr.field) ∧
    (∀ content read, written content = .ok read →
      (∀ violation, loadContent content = .error (.invalid violation) →
        ∃ visit, FirstViolation read visit violation) ∧
      ∀ loaded, loadContent content = .ok loaded →
        ∀ visit : Visit, visit.In read.attributes → ∃ named : Visit,
          named.In loaded.attributes ∧ named.position = visit.position ∧
            named.location loaded = loaded.header.name ++ ":" ++ visit.dotted) ∧
    (∀ files directory, Project.lint files directory =
      (Project.loadSchemas files directory).result.map fun schemas =>
        schemas.flatMap fun loaded => loaded.2.lint) ∧
    ∀ environment words line files failOnError errorsOnly config,
      Line.read environment words = .ok line →
      line.action = some (.lint failOnError errorsOnly) →
      (loadConfig files line.config).result = .ok config →
      (∀ fault, (Project.loadSchemas files config.definitionsDir).result = .error fault →
        (line.perform files).2.result = .error (.stopped [] fault)) ∧
      ∀ schemas, (Project.loadSchemas files config.definitionsDir).result = .ok schemas →
        ((runProgram environment words files).2.code ≠ 0 ↔
          failOnError = true ∧ hasErrors (schemas.flatMap fun loaded => loaded.2.lint) = true) := by
  refine ⟨fun schema => ⟨_, _, Schema.reports_lint schema⟩, fun _ => Schema.hasErrors_lint_iff,
    fun content read hread => ⟨fun violation => violation_of_load hread,
      fun loaded hloaded visit hvisit => ?_⟩, Project.lint_eq_loadSchemas, ?_⟩
  · obtain ⟨schema, hschema, rfl⟩ := Schema.written_of_load hloaded
    obtain rfl : read = schema := Except.ok.inj (hread.symm.trans hschema)
    refine ⟨visit.derive read.header.derive.typeName, ?_, rfl, ?_⟩
    · exact Schema.in_derive_iff.2 ⟨visit, hvisit, rfl⟩
    · rw [Visit.location, Schema.path_derive]
  · intro environment words line files failOnError errorsOnly config hread haction hconfig
    have hresult := perform_lint haction hconfig
    refine ⟨fun fault hfault => ?_, fun schemas hschemas => ?_⟩
    · rw [hresult, lint, Project.lint_eq_loadSchemas, hfault]
      rfl
    · rw [code_of_read hread, hresult, lint_result hschemas, ← Bool.and_eq_true]
      split <;> simp_all

/-- A document with two children of one name in a set. The bounds of the second one are inverted. -/
def twinChildren : Content :=
  .text ("name: Site\nrest_endpoint: x\nattributes:\n- model_name: aB\n  type: Set\n" ++
    "  attributes:\n  - {model_name: c, type: String}\n" ++
    "  - {model_name: c, type: Int64, min_int: 5, max_int: 3}\n")

/-- A project with that document. -/
def twinFiles : FileSystem where
  tree := .directory [("gen".toList, .directory [("definitions".toList, .directory
    [("site.yaml".toList, .file twinChildren)])])]
  working := []
  limits := none

/-- What is found at the second child: that it repeats a name, and that its bounds are inverted. The
program fails for it if it was asked to, and else does not. -/
theorem lint_exact_twins :
    (∃ loaded, loadContent twinChildren = .ok loaded ∧
      (∃ visits found, Reports loaded visits found) ∧
      ∃ named : Visit, named.In loaded.attributes ∧ named.position = [0, 1] ∧
        named.location loaded = "Site:a_b.c") ∧
    Project.lint twinFiles "gen/definitions" =
      .ok [⟨"Site:a_b.c", .duplicateName "c"⟩, ⟨"Site:a_b.c", .invertedBounds .int⟩] ∧
    (runProgram [] ["lint", "--fail-on-error"] twinFiles).2.code ≠ 0 ∧
    ¬ (runProgram [] ["lint"] twinFiles).2.code ≠ 0 := by
  have hissues : (loadContent twinChildren).toOption.map (fun loaded =>
      (loaded.header.name, loaded.lint)) =
      some ("Site", [⟨"Site:a_b.c", .duplicateName "c"⟩, ⟨"Site:a_b.c", .invertedBounds .int⟩]) := by
    unfold twinChildren
    rw [Schema.loadContent_eq, Schema.written_text, String.toList_append, String.toList_append]
    repeat rw [String.toList_ofList]
    decide +kernel
  have hway : (written twinChildren).toOption.bind (fun read =>
      (Schema.way? read.attributes [0, 1]).map (·.map (·.field.externalName))) =
      some ["a_b", "c"] := by
    unfold twinChildren
    rw [Schema.written_text, String.toList_append, String.toList_append]
    repeat rw [String.toList_ofList]
    decide +kernel
  obtain ⟨hpath, hfailing, hreporting, hconfig⟩ :
      Project.listDefinitions twinFiles "gen/definitions" = .ok ["gen/definitions/site.yaml"] ∧
        (Line.read [] ["lint", "--fail-on-error"]).toOption =
          some ⟨none, some (.lint true false)⟩ ∧
        (Line.read [] ["lint"]).toOption = some ⟨none, some (.lint false false)⟩ ∧
        (loadConfig twinFiles none).result.toOption = some Config.default := by
    decide +kernel
  obtain ⟨hreports, -, hpaths, hlint, hprogram⟩ := lint_exact
  obtain ⟨loaded, hload, hissues⟩ := Option.map_eq_some_iff.1 hissues
  obtain ⟨hname, hissues⟩ := Prod.mk.inj hissues
  obtain ⟨read, hread, hway⟩ := Option.bind_eq_some_iff.1 hway
  obtain ⟨way, hway, hnames⟩ := Option.map_eq_some_iff.1 hway
  rw [toOption_eq_some_iff] at hload hread hfailing hreporting hconfig
  have hschema : Project.loadSchema twinFiles "gen/definitions/site.yaml" = .ok loaded :=
    Project.loadSchema_ok_iff.2 ⟨twinChildren, rfl, hload⟩
  have hschemas : (Project.loadSchemas twinFiles "gen/definitions").result =
      .ok [("gen/definitions/site.yaml", loaded)] :=
    Project.loadSchemas_ok_iff.2 ⟨_, hpath, .cons ⟨hschema, rfl⟩ .nil⟩
  refine ⟨⟨loaded, hload, hreports loaded, ?_⟩, ?_, ?_, ?_⟩
  · obtain ⟨first, second, rfl⟩ := List.length_eq_two.1 (Schema.length_way hway)
    obtain ⟨named, hnamed, hposition, hlocation⟩ :=
      (hpaths _ _ hread).2 loaded hload ⟨[0, 1], [first], second⟩ hway
    refine ⟨named, hnamed, hposition, ?_⟩
    have hnames : (Visit.way ⟨[0, 1], [first], second⟩).map (·.field.externalName) =
        ["a_b", "c"] := hnames
    rw [hlocation, hname, Visit.dotted, hnames]
    decide +kernel
  · rw [hlint, hschemas, ← hissues]
    simp [Except.map]
  · rw [(hprogram _ _ _ _ _ _ _ hfailing rfl hconfig).2 _ hschemas, List.flatMap_singleton,
      hissues]
    decide
  · rw [(hprogram _ _ _ _ _ _ _ hreporting rfl hconfig).2 _ hschemas, List.flatMap_singleton,
      hissues]
    decide

end Command

end Stencil
