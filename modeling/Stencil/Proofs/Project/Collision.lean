import Mathlib.Data.List.Nodup
import Stencil.Proofs.Project.Definitions
import Stencil.Proofs.Project.Layout
import Stencil.Proofs.Project.Outputs
import Stencil.Proofs.Project.Run

/-!
# Colliding schemas

A plan over sources that can all be read, rendered and compared succeeds exactly if no two schemas
have one short name (`plan_exact`). Then its files are those of the layout (`layout`), each in its
own place. Otherwise it reports the first schema with the short name of an earlier one
(`FirstCollision`), at the place of the model of both.
-/

namespace Stencil.Project

variable {config : Config} {files : FileSystem}

/-- The place, the template and the kind of every output for a schema, in order: those of the
artifacts that it has a part in. -/
def schemaLayout (config : Config) (schema : Schema) :
    List (String × String × Template.OutputKind) :=
  (Artifact.applicable schema.header).map fun artifact =>
    (Path.join config.outputDir (artifact.place schema.header), artifact.template, artifact.kind)

/-- The place, the template and the kind of every output, in order: those for each schema, then the
two that are made once. -/
def layout (config : Config) (schemas : List Schema) :
    List (String × String × Template.OutputKind) :=
  schemas.flatMap (schemaLayout config) ++
    [(Path.join config.outputDir "src/provider/mod.rs", "provider.rs", .code),
      (Path.join config.outputDir "docs/guides/changelog.md", "changelog.md", .document)]

/-- The place, the template and the kind of an output. -/
def Output.row (output : Output) : String × String × Template.OutputKind :=
  (output.path, output.template.name, output.template.kind)

/-- The schemas are those in the schema files of the directory, in the order of their names. -/
def InNameOrder (config : Config) (files : FileSystem) (schemas : List Schema) : Prop :=
  ∃ listed names, files.list config.definitionsDir = .ok listed ∧
    names.Perm (listed.filter fun name =>
      isDefinitionName name && files.isFile (Path.join config.definitionsDir (.ofList name))) ∧
    names.Pairwise (fun left right => String.ofList left ≤ String.ofList right) ∧
    List.Forall₂ (fun name schema =>
      loadSchema files (Path.join config.definitionsDir (.ofList name)) = .ok schema) names schemas

/-- The file is what an output comes to: code is merged into what is in its place, a document is
what its template yields, and a file that holds the content already does not change. -/
structure Output.Made (config : Config) (files : FileSystem) (output : Output)
    (file : PlannedFile) : Prop where
  path : file.path = output.path
  content : ∃ fresh existing, output.fresh config = .ok fresh ∧
    readExisting files output.path = .ok existing ∧
    (output.template.kind = .code → file.content = Section.reconcile existing fresh) ∧
    (output.template.kind = .document → file.content = fresh) ∧
    (file.changed = true ↔ existing ≠ some file.content)

/-- The second schema is the first in order that has the short name of an earlier one, and the first
is the earliest with that name. -/
def FirstCollision (schemas : List Schema) (first second : Schema) : Prop :=
  ∃ before after, schemas = before ++ second :: after ∧
    (before.map (·.header.tfName)).Nodup ∧
    before.find? (·.header.tfName = second.header.tfName) = some first

/-- A list with a repeated key has a first item that repeats the key of an earlier one. -/
theorem exists_first_repeat {α β : Type} {key : α → β} {list : List α}
    (h : ¬ (list.map key).Nodup) : ∃ before item after, list = before ++ item :: after ∧
      (before.map key).Nodup ∧ key item ∈ before.map key := by
  -- The induction takes items off at the end, so that the earlier ones stay as they are.
  induction list using List.reverseRecOn with
  | nil => simp at h
  | append_singleton front last ih =>
      by_cases hfront : (front.map key).Nodup
      · exact ⟨front, last, [], rfl, hfront, by simpa [List.nodup_append, hfront] using h⟩
      · obtain ⟨before, item, after, rfl, hbefore, hitem⟩ := ih hfront
        exact ⟨before, item, after ++ [last], by simp, hbefore, hitem⟩

/-- The schemas that are loaded are in the order of the names of their files. -/
theorem schemas_inNameOrder {loaded : List (String × Schema)}
    (h : (loadSchemas files config.definitionsDir).result = .ok loaded) :
    InNameOrder config files (loaded.map (·.2)) := by
  obtain ⟨paths, hpaths, h⟩ := loadSchemas_ok_iff.1 h
  simp only [listDefinitions, bind_ok_iff, mapError_ok_iff] at hpaths
  obtain ⟨listed, hlisted, hpaths⟩ := hpaths
  obtain rfl := Except.ok.inj hpaths
  refine ⟨listed, definitionNames files config.definitionsDir listed, hlisted,
    definitionNames_perm files config.definitionsDir listed,
    definitionNames_pairwise files config.definitionsDir listed, ?_⟩
  rw [List.forall₂_map_left_iff] at h
  rw [List.forall₂_map_right_iff]
  exact h.imp fun name loaded hloaded => hloaded.1

/-- The outputs for a schema are those of its artifacts. -/
theorem schemaOutputs_rows {templates : List Template.Source}
    (h : TemplatesRead config files templates) (schema : Schema) :
    (schemaOutputs config templates schema).map Output.row = schemaLayout config schema := by
  rw [schemaOutputs, schemaLayout, Artifact.applicable, List.map_map]
  rw [TemplatesRead] at h
  generalize Artifact.all = artifacts at h
  induction h with
  | nil => rfl
  | @cons artifact template artifacts templates hfirst _ ih =>
      obtain ⟨text, -, rfl⟩ := loadTemplate_ok_iff.1 hfirst
      simp only [List.zip_cons_cons, List.filter_cons]
      split <;> simp_all [Output.row]

/-- Sources that are read have outputs as the layout says. -/
theorem rows_of_sources {sources : Sources} (h : readSources config files = .ok sources) :
    (sources.outputs config).map Output.row = layout config sources.schemas := by
  have hread := readSources_ok_iff.1 h
  obtain ⟨provider, -, hprovider⟩ := loadTemplate_ok_iff.1 hread.provider
  obtain ⟨changelog, -, hchangelog⟩ := loadTemplate_ok_iff.1 hread.changelog
  simp only [Sources.outputs, layout, List.map_append, List.map_flatMap,
    schemaOutputs_rows hread.templates]
  simp [Output.row, sharedOutput, hprovider, hchangelog, providerArtifact, changelogArtifact]

/-- The outputs of a layout have different places if the short names of the schemas are different
names of entries. -/
theorem layout_distinct {schemas : List Schema}
    (hnames : ∀ schema ∈ schemas, Path.IsName schema.header.tfName.toList)
    (hnodup : (schemas.map (·.header.tfName)).Nodup) :
    (layout config schemas).Pairwise fun left right =>
      Path.identity left.1 ≠ Path.identity right.1 := by
  have hartifacts : Artifact.all.Nodup := List.Nodup.of_map Artifact.template (by decide)
  have hshared : ∀ shared ∈ [providerArtifact, changelogArtifact], ∀ schema ∈ schemas,
      ∀ artifact ∈ Artifact.applicable schema.header,
        Path.identity (Path.join config.outputDir (artifact.place schema.header)) ≠
          Path.identity (Path.join config.outputDir shared.place) :=
    fun shared hshared schema hschema artifact hartifact =>
      place_shared (List.mem_of_mem_filter hartifact) (hnames schema hschema) hshared
  simp only [layout, schemaLayout, List.pairwise_append, List.pairwise_flatMap, List.forall_mem_map,
    List.pairwise_map]
  refine ⟨⟨fun schema hschema => ?_, ?_⟩, List.pairwise_pair.2 shared_places, ?_⟩
  · -- Outputs for one schema are those of different artifacts.
    refine (hartifacts.filter _).imp_of_mem fun hleft hright hne h => hne ?_
    exact (place_inj (List.mem_of_mem_filter hleft) (List.mem_of_mem_filter hright)
      (hnames schema hschema) (hnames schema hschema) h).1
  · -- Outputs for two schemas differ in the short names.
    refine (List.pairwise_map.1 hnodup).imp_of_mem fun hleft hright hne artifact hartifact other
      hother h => hne ?_
    exact (place_inj (List.mem_of_mem_filter hartifact) (List.mem_of_mem_filter hother)
      (hnames _ hleft) (hnames _ hright) h).2
  · intro row hrow shared hmem
    obtain ⟨schema, hschema, hrow⟩ := List.mem_flatMap.1 hrow
    obtain ⟨artifact, hartifact, rfl⟩ := List.mem_map.1 hrow
    rcases List.mem_pair.1 hmem with rfl | rfl
    · exact hshared providerArtifact (by simp) schema hschema artifact hartifact
    · exact hshared changelogArtifact (by simp) schema hschema artifact hartifact

/-- Outputs have different places if their rows do. -/
theorem distinct_of_rows {outputs : List Output}
    (h : (outputs.map Output.row).Pairwise fun left right =>
      Path.identity left.1 ≠ Path.identity right.1) :
    outputs.Pairwise fun left right => Path.identity left.path ≠ Path.identity right.path := by
  rw [List.pairwise_map] at h
  exact h

/-- An output that is planned is what it comes to. -/
theorem made_of_planned {output : Output} {file : PlannedFile}
    (h : output.PlannedAs config files file) : output.Made config files file := by
  obtain ⟨fresh, existing, hfresh, hexisting, rfl⟩ := h
  refine ⟨rfl, fresh, existing, hfresh, hexisting, fun hkind => ?_, fun hkind => ?_, ?_⟩
  · simp [Output.planned, Output.content, hkind]
  · simp [Output.planned, Output.content, hkind]
  · simp [Output.planned]

/-- Planned files have the places of their outputs. -/
theorem paths_of_planned {outputs : List Output} {planned : List PlannedFile}
    (h : List.Forall₂ (Output.PlannedAs config files) outputs planned) :
    planned.map (·.path) = outputs.map (·.path) := by
  induction h with
  | nil => rfl
  | cons hfirst _ ih =>
      obtain ⟨fresh, existing, -, -, rfl⟩ := hfirst
      rw [List.map_cons, ih]
      rfl

/-- Outputs that yield texts and can be compared are planned. -/
theorem exists_planned {outputs : List Output}
    (hrender : ∀ output ∈ outputs, ∃ fresh, output.fresh config = .ok fresh)
    (hreadable : ∀ output ∈ outputs, ∃ existing, readExisting files output.path = .ok existing) :
    ∃ planned, List.Forall₂ (Output.PlannedAs config files) outputs planned := by
  induction outputs with
  | nil => exact ⟨[], .nil⟩
  | cons output rest ih =>
      obtain ⟨⟨fresh, hfresh⟩, hrender⟩ := List.forall_mem_cons.1 hrender
      obtain ⟨⟨existing, hexisting⟩, hreadable⟩ := List.forall_mem_cons.1 hreadable
      obtain ⟨planned, hplanned⟩ := ih hrender hreadable
      exact ⟨_ :: planned, .cons ⟨fresh, existing, hfresh, hexisting, rfl⟩ hplanned⟩

/-- Outputs in different places that yield texts and can be compared are planned one after the
other. -/
theorem planAll_distinct {outputs : List Output}
    (hrender : ∀ output ∈ outputs, ∃ fresh, output.fresh config = .ok fresh)
    (hreadable : ∀ output ∈ outputs, ∃ existing, readExisting files output.path = .ok existing)
    (hdistinct : outputs.Pairwise fun left right =>
      Path.identity left.path ≠ Path.identity right.path) :
    ∃ planned, List.Forall₂ (Output.PlannedAs config files) outputs planned ∧
      planned.Pairwise Elsewhere := by
  obtain ⟨planned, hplanned⟩ := exists_planned hrender hreadable
  refine ⟨planned, hplanned, ?_⟩
  have hpaths : (planned.map (·.path)).Pairwise fun left right =>
      Path.identity left ≠ Path.identity right := by
    rw [paths_of_planned hplanned, List.pairwise_map]
    exact hdistinct
  rw [List.pairwise_map] at hpaths
  exact hpaths

/-- An output for a schema bears its name, and its place is that of an artifact. -/
theorem mem_schemaOutputs {templates : List Template.Source} {schema : Schema} {output : Output}
    (h : output ∈ schemaOutputs config templates schema) :
    output.owner = schema.header.name ∧ ∃ artifact ∈ Artifact.all,
      output.path = Path.join config.outputDir (artifact.place schema.header) := by
  obtain ⟨⟨artifact, template⟩, hzip, rfl⟩ := List.mem_map.1 h
  exact ⟨rfl, artifact, (List.of_mem_zip (List.mem_of_mem_filter hzip)).1, rfl⟩

/-- The first output for a schema is its model. -/
theorem schemaOutputs_model {templates : List Template.Source}
    (h : TemplatesRead config files templates) (schema : Schema) :
    ∃ output rest, schemaOutputs config templates schema = output :: rest ∧
      output.path = Path.join config.outputDir (modelArtifact.place schema.header) := by
  have hrows := schemaOutputs_rows h schema
  have hmodel : ∃ others, Artifact.applicable schema.header = modelArtifact :: others :=
    ⟨_, List.filter_cons_of_pos rfl⟩
  obtain ⟨others, hothers⟩ := hmodel
  rw [schemaLayout, hothers, List.map_cons, List.map_eq_cons_iff] at hrows
  obtain ⟨output, rest, houtputs, hrow, -⟩ := hrows
  exact ⟨output, rest, houtputs, congrArg Prod.fst hrow⟩

/-- An output in the place of a planned file is refused. -/
theorem planOutput_refused {planned : List PlannedFile} {output : Output} {fresh : String}
    {first : PlannedFile} (hfresh : output.fresh config = .ok fresh)
    (hfirst : owner? planned output.path = some first) :
    (planOutput config files planned output).result =
      .error (.duplicateOutput output.path first.owner output.owner) := by
  simp only [planOutput, Traced.result_bind, Traced.result_of, hfresh, hfirst]
  rfl

/-- Among the files planned for schemas with different short names, the one in the place of the
model of another schema belongs to the schema with the same short name. -/
theorem owner_model {templates : List Template.Source} {schemas : List Schema}
    {first second : Schema} (htemplates : TemplatesRead config files templates)
    (hnames : ∀ schema ∈ schemas, Path.IsName schema.header.tfName.toList)
    (hnodup : (schemas.map (·.header.tfName)).Nodup) (hfirst : first ∈ schemas)
    (hsame : first.header.tfName = second.header.tfName) {planned : List PlannedFile}
    (hplanned : List.Forall₂ (Output.PlannedAs config files)
      (schemas.flatMap (schemaOutputs config templates)) planned) :
    ∃ file, owner? planned (Path.join config.outputDir (modelArtifact.place second.header)) =
      some file ∧ file.owner = first.header.name := by
  have hplace : modelArtifact.place first.header = modelArtifact.place second.header := by
    rw [Artifact.place, Artifact.place, hsame]
  -- The model of the first schema is there.
  obtain ⟨output, rest, houtputs, hpath⟩ := schemaOutputs_model htemplates first
  have hmem : output.path ∈ planned.map (·.path) := by
    rw [paths_of_planned hplanned]
    exact List.mem_map_of_mem (List.mem_flatMap.2 ⟨first, hfirst, by simp [houtputs]⟩)
  obtain ⟨model, hmodel, hmodelPath⟩ := List.mem_map.1 hmem
  cases hfound : owner? planned
    (Path.join config.outputDir (modelArtifact.place second.header)) with
  | none =>
      have hnone := List.find?_eq_none.1 hfound model hmodel
      rw [hmodelPath, hpath, hplace] at hnone
      simp at hnone
  | some file =>
      refine ⟨file, rfl, ?_⟩
      -- Whatever is found has the short name, which only the first schema has.
      have hidentity : Path.identity file.path =
          Path.identity (Path.join config.outputDir (modelArtifact.place second.header)) := by
        simpa using List.find?_some hfound
      obtain ⟨made, hmade, hplannedAs⟩ :=
        exists_of_forall₂ hplanned (List.mem_of_find?_eq_some hfound)
      obtain ⟨fresh, existing, -, -, rfl⟩ := hplannedAs
      obtain ⟨schema, hschema, hmade⟩ := List.mem_flatMap.1 hmade
      obtain ⟨howner, artifact, hartifact, hmadePath⟩ := mem_schemaOutputs hmade
      have hinj : schema.header.tfName = first.header.tfName := by
        rw [Output.planned, hmadePath, ← hplace] at hidentity
        exact (place_inj hartifact List.mem_cons_self (hnames schema hschema)
          (hnames first hfirst) hidentity).2
      obtain rfl := List.inj_on_of_nodup_map hnodup hschema hfirst hinj
      exact howner

/-- A plan over sources ends with the fault of the first output that cannot be planned. -/
theorem plan_fault {sources : Sources} {fault : Fault}
    (hsources : readSources config files = .ok sources)
    (h : ((sources.schemas.flatMap (schemaOutputs config sources.templates)).foldlM
      (planOutput config files) []).result = .error fault) :
    (plan config files).result = .error fault := by
  obtain ⟨⟨loaded, hloaded, hschemas⟩, htemplates, -, -, -⟩ := readSources_ok_iff.1 hsources
  rw [TemplatesRead, ← mapM_ok_iff] at htemplates
  rw [hschemas] at h
  simp only [plan, Traced.result_bind, Traced.result_mapM, Traced.result_of, hloaded, htemplates]
  simp only [bind, Except.bind, h]

/-- Planning for schemas of which two have one short name ends at the model of the second. -/
theorem planAll_collision {templates : List Template.Source} {before after : List Schema}
    {first second : Schema}
    (htemplates : TemplatesRead config files templates)
    (hrender : ∀ output ∈ (before ++ second :: after).flatMap (schemaOutputs config templates),
      ∃ fresh, output.fresh config = .ok fresh)
    (hreadable : ∀ output ∈ (before ++ second :: after).flatMap (schemaOutputs config templates),
      ∃ existing, readExisting files output.path = .ok existing)
    (hnames : ∀ schema ∈ before, Path.IsName schema.header.tfName.toList)
    (hnodup : (before.map (·.header.tfName)).Nodup) (hfirst : first ∈ before)
    (hsame : first.header.tfName = second.header.tfName) :
    (((before ++ second :: after).flatMap (schemaOutputs config templates)).foldlM
      (planOutput config files) []).result =
      .error (.duplicateOutput
        (Path.join config.outputDir (modelArtifact.place second.header)) first.header.name
        second.header.name) := by
  obtain ⟨output, rest, houtputs, hpath⟩ := schemaOutputs_model htemplates second
  have howner : output.owner = second.header.name :=
    (mem_schemaOutputs (houtputs ▸ List.mem_cons_self)).1
  simp only [List.flatMap_append, List.flatMap_cons, houtputs, List.cons_append]
    at hrender hreadable ⊢
  simp only [List.forall_mem_append, List.forall_mem_cons] at hrender hreadable
  obtain ⟨hbefore, ⟨fresh, hfresh⟩, -⟩ := hrender
  -- The schemas before the second have different short names, so all their outputs are planned.
  have hdistinct : (before.flatMap (schemaOutputs config templates)).Pairwise fun left right =>
      Path.identity left.path ≠ Path.identity right.path := by
    refine distinct_of_rows ?_
    simp only [List.map_flatMap, schemaOutputs_rows htemplates]
    exact (List.pairwise_append.1 (layout_distinct hnames hnodup)).1
  obtain ⟨planned, hplanned, helsewhere⟩ := planAll_distinct hbefore hreadable.1 hdistinct
  have hfold : ((before.flatMap (schemaOutputs config templates)).foldlM
      (planOutput config files) []).result = .ok planned :=
    (planAll_ok_iff .nil).2 ⟨planned, rfl, hplanned, helsewhere⟩
  obtain ⟨file, hfile, hname⟩ := owner_model htemplates hnames hnodup hfirst hsame hplanned
  rw [← hpath] at hfile
  have hrefused : (planOutput config files planned _).result = _ :=
    planOutput_refused hfresh hfile
  rw [hpath, howner, hname] at hrefused
  rw [Traced.result_foldlM] at hfold ⊢
  rw [List.foldlM_append, hfold]
  simp only [bind, Except.bind, List.foldlM_cons, hrefused]

/-- With sources that can be read, templates that yield texts and files that can be compared, and
short names that are names of entries, a plan succeeds exactly if the short names are different.
Then its files are those of the layout in order, each in its own place and made as its kind says;
otherwise it fails with the first collision. The schemas are in the order of their files' names. -/
theorem plan_exact {sources : Sources} (hsources : readSources config files = .ok sources)
    (hrender : ∀ output ∈ sources.outputs config, ∃ fresh, output.fresh config = .ok fresh)
    (hreadable : ∀ output ∈ sources.outputs config,
      ∃ existing, readExisting files output.path = .ok existing)
    (hnames : ∀ schema ∈ sources.schemas, Path.IsName schema.header.tfName.toList) :
    InNameOrder config files sources.schemas ∧
      ((∃ found, (plan config files).result = .ok found) ↔
        (sources.schemas.map (·.header.tfName)).Nodup) ∧
      (∀ found, (plan config files).result = .ok found →
        found.schemas = sources.schemas.length ∧
        (found.files.map fun file => Path.identity file.path).Nodup ∧
        (sources.outputs config).map Output.row = layout config sources.schemas ∧
        List.Forall₂ (Output.Made config files) (sources.outputs config) found.files) ∧
      ∀ fault, (plan config files).result = .error fault →
        ∃ first second, FirstCollision sources.schemas first second ∧
          fault = .duplicateOutput
            (Path.join config.outputDir ("src/provider/model_" ++ second.header.tfName ++ ".rs"))
            first.header.name second.header.name := by
  obtain ⟨⟨loaded, hloaded, hschemas⟩, htemplates, -, -, -⟩ := readSources_ok_iff.1 hsources
  have hrows := rows_of_sources hsources
  have hok : (sources.schemas.map (·.header.tfName)).Nodup →
      ∃ found, (plan config files).result = .ok found := fun hnodup => by
    have hdistinct := distinct_of_rows (hrows ▸ layout_distinct hnames hnodup)
    obtain ⟨planned, hplanned, helsewhere⟩ := planAll_distinct hrender hreadable hdistinct
    exact ⟨⟨_, planned⟩, plan_ok_iff.2 ⟨sources, hsources, rfl, hplanned, helsewhere⟩⟩
  have hfault : ¬ (sources.schemas.map (·.header.tfName)).Nodup →
      ∃ first second, FirstCollision sources.schemas first second ∧
        (plan config files).result = .error (.duplicateOutput
          (Path.join config.outputDir (modelArtifact.place second.header)) first.header.name
          second.header.name) := fun hrepeat => by
    obtain ⟨before, second, after, hsplit, hnodup, hsecond⟩ := exists_first_repeat hrepeat
    obtain ⟨first, hfirst⟩ : ∃ first,
        before.find? (·.header.tfName = second.header.tfName) = some first := by
      rw [← Option.isSome_iff_exists, List.find?_isSome]
      simpa using hsecond
    refine ⟨first, second, ⟨before, after, hsplit, hnodup, hfirst⟩, plan_fault hsources ?_⟩
    have hmem : first ∈ before := List.mem_of_find?_eq_some hfirst
    have hsame : first.header.tfName = second.header.tfName := by
      simpa using List.find?_some hfirst
    rw [Sources.outputs, List.forall_mem_append, hsplit] at hrender hreadable
    rw [hsplit] at hnames ⊢
    exact planAll_collision htemplates hrender.1 hreadable.1
      (List.forall_mem_append.1 hnames).1 hnodup hmem hsame
  refine ⟨hschemas ▸ schemas_inNameOrder hloaded, ⟨fun hplanned => ?_, hok⟩,
    fun found hfound => ?_, fun fault hplan => ?_⟩
  · by_contra hrepeat
    obtain ⟨found, hfound⟩ := hplanned
    obtain ⟨first, second, -, hrefused⟩ := hfault hrepeat
    rw [hfound] at hrefused
    cases hrefused
  · obtain ⟨read, hread, hcount, hplanned, helsewhere⟩ := plan_ok_iff.1 hfound
    obtain rfl : read = sources := Except.ok.inj (hread.symm.trans hsources)
    exact ⟨hcount, List.pairwise_map.2 helsewhere, hrows, hplanned.imp fun _ _ => made_of_planned⟩
  · have hrepeat : ¬ (sources.schemas.map (·.header.tfName)).Nodup := fun hnodup => by
      obtain ⟨found, hfound⟩ := hok hnodup
      rw [hfound] at hplan
      cases hplan
    obtain ⟨first, second, hcollision, hrefused⟩ := hfault hrepeat
    rw [hplan] at hrefused
    exact ⟨first, second, hcollision, Except.error.inj hrefused⟩

/-- A project with two schemas of one short name. The directory lists the later one first. -/
def twinFiles : FileSystem :=
  let definition (name : String) : String :=
    "name: " ++ name ++ "\ntf_name: site\nrest_endpoint: /site\n"
  { siteFiles with
    tree := .directory
      [("gen".toList, .directory
          [("definitions".toList, .directory
              [textEntry "b.yaml" (definition "Yard"), textEntry "a.yaml" (definition "Depot")]),
            ("templates".toList, .directory
              ((Artifact.all.map fun artifact => textEntry artifact.template "") ++
                [textEntry "provider.rs" "", textEntry "changelog.md" ""]))]),
        textEntry "CHANGELOG.md" ""] }

/-- The files of its schemas in the order of their names. -/
theorem twin_definitions : listDefinitions twinFiles Config.default.definitionsDir =
    .ok ["gen/definitions/a.yaml", "gen/definitions/b.yaml"] := by
  have hlisted : twinFiles.list Config.default.definitionsDir =
      .ok ["b.yaml".toList, "a.yaml".toList] := by
    decide +kernel
  have hfiles : (["b.yaml".toList, "a.yaml".toList].filter fun name => isDefinitionName name &&
      twinFiles.isFile (Path.join Config.default.definitionsDir (.ofList name))) =
      ["b.yaml".toList, "a.yaml".toList] := by
    decide +kernel
  have hsorted : ["b.yaml".toList, "a.yaml".toList].mergeSort
      (fun left right => decide (String.ofList left ≤ String.ofList right)) =
      ["a.yaml".toList, "b.yaml".toList] := by
    have hless : ¬ "b.yaml" ≤ "a.yaml" := by decide
    simp [List.mergeSort, List.MergeSort.Internal.splitInTwo, hless]
  rw [listDefinitions, hlisted]
  simp only [mapError_ok, bind, Except.bind, definitionNames, hfiles, hsorted]
  decide +kernel

/-- The plan is refused at the model of the schema that comes later by the name of its file. -/
theorem plan_exact_twins :
    ∃ sources, readSources .default twinFiles = .ok sources ∧
      (∀ output ∈ sources.outputs .default, ∃ fresh, output.fresh .default = .ok fresh) ∧
      (∀ output ∈ sources.outputs .default,
        ∃ existing, readExisting twinFiles output.path = .ok existing) ∧
      (∀ schema ∈ sources.schemas, Path.IsName schema.header.tfName.toList) ∧
      InNameOrder .default twinFiles sources.schemas ∧
      (plan .default twinFiles).result =
        .error (.duplicateOutput "./src/provider/model_site.rs" "Depot" "Yard") := by
  have hread : (readSources .default twinFiles).toOption.map (fun sources =>
      (sources.schemas.map fun schema => (schema.header.name, schema.header.tfName),
        (sources.outputs .default).all (fun output => (output.fresh .default).toOption.isSome),
        (sources.outputs .default).all fun output =>
          (readExisting twinFiles output.path).toOption.isSome)) =
      some ([("Depot", "site"), ("Yard", "site")], true, true) := by
    rw [readSources, loadSchemas, Traced.result_bind, Traced.result_of, twin_definitions]
    decide +kernel
  obtain ⟨sources, hsources, hread⟩ := Option.map_eq_some_iff.1 hread
  rw [toOption_eq_some_iff] at hsources
  simp only [Prod.mk.injEq, List.all_eq_true, Option.isSome_iff_exists, toOption_eq_some_iff]
    at hread
  obtain ⟨hschemas, hrender, hreadable⟩ := hread
  obtain ⟨depot, rest, hall, hdepot, hrest⟩ := List.map_eq_cons_iff.1 hschemas
  obtain ⟨yard, hyard, hlast⟩ := List.map_eq_singleton_iff.1 hrest
  subst hyard
  obtain ⟨hname, htfName⟩ := Prod.mk.inj hdepot
  obtain ⟨hname', htfName'⟩ := Prod.mk.inj hlast
  have hnames : ∀ schema ∈ sources.schemas, Path.IsName schema.header.tfName.toList := by
    have hsite : Path.IsName "site".toList := ⟨by decide, by decide, by decide, by decide⟩
    rw [hall]
    simpa [htfName, htfName'] using hsite
  obtain ⟨horder, hsucceeds, -, hfails⟩ := plan_exact hsources hrender hreadable hnames
  refine ⟨sources, hsources, hrender, hreadable, hnames, horder, ?_⟩
  cases hplan : (plan .default twinFiles).result with
  | ok found =>
      have hnodup := hsucceeds.1 ⟨found, hplan⟩
      simp [hall, htfName, htfName'] at hnodup
  | error fault =>
      obtain ⟨first, second, ⟨before, after, hsplit, -, hfirst⟩, rfl⟩ := hfails fault hplan
      -- Of two schemas only the second can repeat a name.
      obtain ⟨rfl, rfl⟩ : first = depot ∧ second = yard := by
        rw [hall] at hsplit
        cases before with
        | nil => cases hfirst
        | cons earlier later =>
            obtain ⟨rfl, htail⟩ := List.cons.inj hsplit
            cases later with
            | nil =>
                obtain ⟨rfl, -⟩ := List.cons.inj htail
                exact ⟨List.mem_singleton.1 (List.mem_of_find?_eq_some hfirst), rfl⟩
            | cons next others => simp at htail
      have hplace : Path.join Config.default.outputDir "src/provider/model_site.rs" =
          "./src/provider/model_site.rs" := by
        decide +kernel
      rw [hname, hname', htfName', ← hplace]
      rfl

end Stencil.Project
