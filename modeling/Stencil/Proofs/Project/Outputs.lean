import Stencil.Project.Plan
import Stencil.Proofs.Outcome
import Stencil.Proofs.Project.Place
import Stencil.Proofs.Schema.Validation

/-!
# Sources and outputs

A plan that succeeds has read all its sources and worked out every output that follows from them
(`plan_ok_iff`). Each output is planned from what is in its place, and no two have one place
(`planAll_ok_iff`). All have their places below the output directory (`output_place`).
-/

namespace Stencil.Project

variable {config : Config} {files : FileSystem}

/-- The result of a list of steps is that of the results of the steps. -/
theorem Traced.result_mapM {α β : Type} (step : α → Traced β) (list : List α) :
    (list.mapM step).result = list.mapM fun item => (step item).result := by
  have hloop : ∀ values : List β, (List.mapM.loop step list values).result =
      List.mapM.loop (fun item => (step item).result) list values := by
    induction list with
    | nil => exact fun values => rfl
    | cons item rest ih =>
        intro values
        simp only [List.mapM.loop, Traced.result_bind, ih]
  exact hloop []

/-- The result of a fold is that of the results of its steps. -/
theorem Traced.result_foldlM {α β : Type} (step : β → α → Traced β) (list : List α) (start : β) :
    (list.foldlM step start).result =
      list.foldlM (fun value item => (step value item).result) start := by
  induction list generalizing start with
  | nil => rfl
  | cons item rest ih => simp only [List.foldlM_cons, Traced.result_bind, ih]

/-- A schema is loaded from a file that can be read and holds one. -/
theorem loadSchema_ok_iff {path : String} {schema : Schema} :
    loadSchema files path = .ok schema ↔
      ∃ content, files.read path = .ok content ∧ Schema.loadContent content = .ok schema := by
  simp only [loadSchema, bind_ok_iff, mapError_ok_iff]
  refine exists_congr fun content => and_congr_right fun _ => ?_
  cases content <;> exact mapError_ok_iff

/-- Loading a file is reported and gives its path with the schema. -/
theorem loadReported_ok {path : String} {loaded : String × Schema} :
    (loadReported files path).result = .ok loaded ↔
      loadSchema files path = .ok loaded.2 ∧ loaded.1 = path := by
  obtain ⟨place, schema⟩ := loaded
  simp only [loadReported, Traced.result_bind, Traced.result_of, bind_ok_iff]
  constructor
  · rintro ⟨read, hread, _, -, hloaded⟩
    obtain ⟨rfl, rfl⟩ := Prod.mk.inj (Except.ok.inj hloaded)
    exact ⟨hread, rfl⟩
  · rintro ⟨hread, rfl⟩
    exact ⟨schema, hread, (), rfl, rfl⟩

/-- The schemas of a directory are loaded if each of its schema files is. -/
theorem loadSchemas_ok_iff {directory : String} {loaded : List (String × Schema)} :
    (loadSchemas files directory).result = .ok loaded ↔
      ∃ paths, listDefinitions files directory = .ok paths ∧
        List.Forall₂ (fun path entry => loadSchema files path = .ok entry.2 ∧ entry.1 = path)
          paths loaded := by
  simp only [loadSchemas, Traced.result_bind, Traced.result_of, Traced.result_mapM, bind_ok_iff,
    mapM_ok_iff, loadReported_ok]

/-- A template is loaded from a file that can be read, with its name and its kind. -/
theorem loadTemplate_ok_iff {directory name : String} {kind : Template.OutputKind}
    {template : Template.Source} :
    loadTemplate files directory name kind = .ok template ↔
      ∃ text, files.readText (Path.join directory name) = .ok text ∧
        template = ⟨name, kind, text⟩ := by
  simp only [loadTemplate, bind_ok_iff, mapError_ok_iff]
  refine exists_congr fun text => and_congr_right fun _ => ?_
  exact ⟨fun h => (Except.ok.inj h).symm, fun h => congrArg Except.ok h.symm⟩

/-- The templates are those of the artifacts, in their order. -/
def TemplatesRead (config : Config) (files : FileSystem) (templates : List Template.Source) :
    Prop :=
  List.Forall₂ (fun artifact template =>
    loadTemplate files config.templatesDir artifact.template artifact.kind = .ok template)
    Artifact.all templates

/-- What the outputs of a run are made from. -/
structure Sources where
  schemas : List Schema
  /-- The templates of the artifacts, in their order. -/
  templates : List Template.Source
  provider : Template.Source
  changelog : Template.Source
  /-- The text of the changelog. -/
  changes : String

/-- The sources that a run reads. -/
def readSources (config : Config) (files : FileSystem) : Except Fault Sources := do
  let schemas ← (loadSchemas files config.definitionsDir).result
  let templates ← Artifact.all.mapM fun artifact =>
    loadTemplate files config.templatesDir artifact.template artifact.kind
  let provider ← loadTemplate files config.templatesDir providerArtifact.template
    providerArtifact.kind
  let changes ← (files.readText config.changelog).mapError (.files .read config.changelog)
  let changelog ← loadTemplate files config.templatesDir changelogArtifact.template
    changelogArtifact.kind
  pure ⟨schemas.map (·.2), templates, provider, changelog, changes⟩

/-- The sources are those that the file system holds. -/
structure Sources.ReadFrom (config : Config) (files : FileSystem) (sources : Sources) : Prop where
  schemas : ∃ loaded, (loadSchemas files config.definitionsDir).result = .ok loaded ∧
    sources.schemas = loaded.map (·.2)
  templates : TemplatesRead config files sources.templates
  provider : loadTemplate files config.templatesDir providerArtifact.template
    providerArtifact.kind = .ok sources.provider
  changes : files.readText config.changelog = .ok sources.changes
  changelog : loadTemplate files config.templatesDir changelogArtifact.template
    changelogArtifact.kind = .ok sources.changelog

/-- A run reads the sources that the file system holds. -/
theorem readSources_ok_iff {sources : Sources} :
    readSources config files = .ok sources ↔ sources.ReadFrom config files := by
  simp only [readSources, bind_ok_iff, mapError_ok_iff, mapM_ok_iff]
  constructor
  · rintro ⟨loaded, hloaded, templates, htemplates, provider, hprovider, changes, hchanges,
      changelog, hchangelog, h⟩
    obtain rfl := Except.ok.inj h
    exact ⟨⟨loaded, hloaded, rfl⟩, htemplates, hprovider, hchanges, hchangelog⟩
  · rintro ⟨⟨loaded, hloaded, hschemas⟩, htemplates, hprovider, hchanges, hchangelog⟩
    refine ⟨loaded, hloaded, _, htemplates, _, hprovider, _, hchanges, _, hchangelog, ?_⟩
    rw [← hschemas]
    rfl

/-- The outputs that follow from sources: those for the schemas in order, then the two that are made
once. -/
def Sources.outputs (config : Config) (sources : Sources) : List Output :=
  sources.schemas.flatMap (schemaOutputs config sources.templates) ++
    [sharedOutput config providerArtifact sources.provider
        (providerContext config sources.schemas),
      sharedOutput config changelogArtifact sources.changelog
        (changelogContext config sources.changes)]

/-- The planned file for an output, given what is in its place and what its template yields. -/
def Output.planned (output : Output) (existing : Option String) (fresh : String) : PlannedFile :=
  ⟨output.path, output.owner, output.content existing fresh,
    existing != some (output.content existing fresh)⟩

/-- The planned file is the one for the output. -/
def Output.PlannedAs (config : Config) (files : FileSystem) (output : Output)
    (file : PlannedFile) : Prop :=
  ∃ fresh existing, output.fresh config = .ok fresh ∧
    readExisting files output.path = .ok existing ∧ file = output.planned existing fresh

/-- The text in the place of an output is what is read there. -/
theorem readExisting_some_iff {path text : String} :
    readExisting files path = .ok (some text) ↔ files.readText path = .ok text := by
  rw [readExisting]
  split <;> simp_all [pure, Except.pure, throw, throwThe, MonadExceptOf.throw]

/-- The planned files have different places. -/
def Elsewhere (left right : PlannedFile) : Prop :=
  Path.identity left.path ≠ Path.identity right.path

/-- An output is planned if its template yields a text, no output is in its place yet and what is
there can be read. -/
theorem planOutput_ok_iff {planned next : List PlannedFile} {output : Output} :
    (planOutput config files planned output).result = .ok next ↔
      ∃ file, output.PlannedAs config files file ∧ (∀ other ∈ planned, Elsewhere other file) ∧
        next = planned ++ [file] := by
  have hfree : owner? planned output.path = none ↔
      ∀ other ∈ planned, Path.identity other.path ≠ Path.identity output.path := by
    simp [owner?]
  rw [planOutput, Traced.result_bind, bind_ok_iff]
  constructor
  · rintro ⟨fresh, hfresh, h⟩
    cases howner : owner? planned output.path with
    | some first =>
        simp only [howner] at h
        cases h
    | none =>
        simp only [howner, Traced.result_bind, bind_ok_iff] at h
        obtain ⟨existing, hexisting, h⟩ := h
        refine ⟨_, ⟨fresh, existing, hfresh, hexisting, rfl⟩, hfree.1 howner, ?_⟩
        -- Whether the merge is reported makes no difference to the result.
        split at h
        · rw [Traced.result_bind, bind_ok_iff] at h
          obtain ⟨-, -, h⟩ := h
          exact (Except.ok.inj h).symm
        · exact (Except.ok.inj h).symm
  · rintro ⟨_, ⟨fresh, existing, hfresh, hexisting, rfl⟩, hothers, rfl⟩
    refine ⟨fresh, hfresh, ?_⟩
    rw [hfree.2 hothers]
    simp only [Traced.result_bind, bind_ok_iff]
    refine ⟨existing, hexisting, ?_⟩
    split <;> rfl

/-- One more planned file is elsewhere if it is elsewhere than all before. -/
theorem pairwise_concat {planned : List PlannedFile} {file : PlannedFile} :
    (planned ++ [file]).Pairwise Elsewhere ↔
      planned.Pairwise Elsewhere ∧ ∀ other ∈ planned, Elsewhere other file := by
  simp [List.pairwise_append]

/-- Outputs are planned one after the other, and no two of them in one place. -/
theorem planAll_ok_iff {outputs : List Output} {planned next : List PlannedFile}
    (hplanned : planned.Pairwise Elsewhere) :
    (outputs.foldlM (planOutput config files) planned).result = .ok next ↔
      ∃ added, next = planned ++ added ∧
        List.Forall₂ (Output.PlannedAs config files) outputs added ∧
        next.Pairwise Elsewhere := by
  -- The planned files so far are carried along; that no two have one place is the invariant.
  induction outputs generalizing planned with
  | nil =>
      rw [List.foldlM_nil, Traced.result_pure]
      constructor
      · intro h
        obtain rfl := Except.ok.inj h
        exact ⟨[], by simp, .nil, hplanned⟩
      · rintro ⟨added, rfl, hadded, -⟩
        rw [List.forall₂_nil_left_iff.1 hadded, List.append_nil]
  | cons output rest ih =>
      simp only [List.foldlM_cons, Traced.result_bind, bind_ok_iff, planOutput_ok_iff,
        List.forall₂_cons_left_iff]
      constructor
      · rintro ⟨_, ⟨file, hfile, hothers, rfl⟩, h⟩
        obtain ⟨added, rfl, hadded, hall⟩ := (ih (pairwise_concat.2 ⟨hplanned, hothers⟩)).1 h
        exact ⟨file :: added, by simp, ⟨file, added, hfile, hadded, rfl⟩, hall⟩
      · rintro ⟨_, rfl, ⟨file, added, hfile, hadded, rfl⟩, hall⟩
        have hfirst : (planned ++ [file]).Pairwise Elsewhere := by
          rw [List.append_cons] at hall
          exact (List.pairwise_append.1 hall).1
        exact ⟨_, ⟨file, hfile, (pairwise_concat.1 hfirst).2, rfl⟩,
          (ih hfirst).2 ⟨added, List.append_cons _ _ _, hadded, hall⟩⟩

/-- A plan reads its sources and plans the outputs that follow from them. -/
theorem plan_ok_iff {found : Plan} :
    (plan config files).result = .ok found ↔ ∃ sources, readSources config files = .ok sources ∧
      found.schemas = sources.schemas.length ∧
      List.Forall₂ (Output.PlannedAs config files) (sources.outputs config) found.files ∧
      found.files.Pairwise Elsewhere := by
  have hplan : ∀ outputs, (outputs.foldlM (planOutput config files) []).result = .ok found.files ↔
      List.Forall₂ (Output.PlannedAs config files) outputs found.files ∧
        found.files.Pairwise Elsewhere := fun outputs => by
    simp [planAll_ok_iff List.Pairwise.nil]
  simp only [← hplan]
  simp only [plan, readSources, Traced.onFile, Traced.result_bind, Traced.result_mapM,
    Traced.result_of, Traced.result_foldlM, bind_ok_iff]
  constructor
  · rintro ⟨loaded, hloaded, templates, htemplates, planned, hplanned, provider, hprovider, most,
      hmost, changes, hchanges, changelog, hchangelog, all, hall, hfound⟩
    obtain rfl := Except.ok.inj hfound
    refine ⟨_, ⟨loaded, hloaded, templates, htemplates, provider, hprovider, changes, hchanges,
      changelog, hchangelog, rfl⟩, rfl, ?_⟩
    simp only [Sources.outputs, List.foldlM_append, List.foldlM_cons, List.foldlM_nil, bind_ok_iff]
    exact ⟨planned, hplanned, most, hmost, all, hall, rfl⟩
  · rintro ⟨sources, ⟨loaded, hloaded, templates, htemplates, provider, hprovider, changes,
      hchanges, changelog, hchangelog, hsources⟩, hschemas, hfiles⟩
    obtain rfl := Except.ok.inj hsources
    simp only [Sources.outputs, List.foldlM_append, List.foldlM_cons, List.foldlM_nil,
      bind_ok_iff] at hfiles
    obtain ⟨planned, hplanned, most, hmost, all, hall, hfiles⟩ := hfiles
    obtain rfl : all = found.files := Except.ok.inj hfiles
    refine ⟨loaded, hloaded, templates, htemplates, planned, hplanned, provider, hprovider, most,
      hmost, changes, hchanges, changelog, hchangelog, _, hall, ?_⟩
    simp only at hschemas
    rw [Traced.result_pure, ← hschemas]

/-- The outputs of a run have places below the output directory that are not those of schema files,
if the short names of all schemas are names of entries. -/
theorem output_place {sources : Sources} (hsources : readSources config files = .ok sources)
    (hnames : ∀ schemas, (loadSchemas files config.definitionsDir).result = .ok schemas →
      ∀ loaded ∈ schemas, Path.IsName loaded.2.header.tfName.toList) :
    ∀ output ∈ sources.outputs config, ∃ place, output.path = Path.join config.outputDir place ∧
      Path.isAbsolute place = false ∧ Shelved (Path.segments place) ∧
        Foreign (Path.segments place) := by
  intro output houtput
  rcases List.mem_append.1 houtput with houtput | houtput
  · obtain ⟨schema, hschema, houtput⟩ := List.mem_flatMap.1 houtput
    obtain ⟨⟨artifact, template⟩, hzip, rfl⟩ := List.mem_map.1 houtput
    have hartifact := (List.of_mem_zip (List.mem_of_mem_filter hzip)).1
    obtain ⟨loaded, hloaded, hschemas⟩ := (readSources_ok_iff.1 hsources).schemas
    rw [hschemas] at hschema
    obtain ⟨pair, hpair, rfl⟩ := List.mem_map.1 hschema
    have hname := hnames loaded hloaded pair hpair
    obtain ⟨habsolute, hshelved⟩ := shelved_place hartifact hname
    exact ⟨_, rfl, habsolute, hshelved, foreign_place hartifact hname.clear⟩
  · have hshared : ∀ artifact ∈ [providerArtifact, changelogArtifact],
        Path.isAbsolute artifact.place = false ∧ Shelved (Path.segments artifact.place) ∧
          Foreign (Path.segments artifact.place) := fun artifact hartifact =>
      and_assoc.1 ⟨shelved_shared artifact hartifact, foreign_shared artifact hartifact⟩
    rcases List.mem_pair.1 houtput with rfl | rfl
    · exact ⟨_, rfl, hshared providerArtifact (by simp)⟩
    · exact ⟨_, rfl, hshared changelogArtifact (by simp)⟩

end Stencil.Project
