import Stencil.Proofs.FileSystem.Destination
import Stencil.Proofs.Project.Collision
import Stencil.Proofs.Standard.Provider

/-!
# Registered modules

The registration that is planned with the standard template agrees with the files that are planned
beside it: the modules that it declares are, in order, those whose files are in its directory
(`modules_of_plan`). Which files these are follows from the table of artifacts, and which modules are
declared from the conditions of the template. A provider whose name breaks a line can add a
declaration of its own (`declared_without_file`).
-/

namespace Stencil.Project

open Standard.Provider (declares_registration moduleNames modules registration stems)

/-- The stem of a file with code, if it is in that directory. -/
def codeStem? (directory path : String) : Option (List Char) :=
  let (absolute, steps) := Path.identity path
  if (absolute, steps.dropLast) = Path.identity directory then
    steps.getLast?.bind (Text.dropEnd? ".rs".toList)
  else none

/-- The directory of the modules of a provider, below the output directory. -/
def moduleDirectory (config : Config) : String :=
  Path.join config.outputDir "src/provider"

/-- The place of the registration. -/
def registrationPath (config : Config) : String :=
  Path.join config.outputDir providerArtifact.place

/-- The names on the way to the modules. -/
def moduleShelf : List FileName := ["src".toList, "provider".toList]

variable {config : Config} {files : FileSystem}

/-- A place without idle steps is in the directory of the modules if its names say so. -/
theorem codeStem_join {place : String} (hrelative : Path.isAbsolute place = false)
    (hsteps : ∀ segment ∈ Path.segments place, Path.isIdle segment = false) :
    codeStem? (moduleDirectory config) (Path.join config.outputDir place) =
      if (Path.segments place).dropLast = moduleShelf then
        (Path.segments place).getLast?.bind (Text.dropEnd? ".rs".toList)
      else none := by
  obtain ⟨list, -, hjoin⟩ := Path.segments_join config.outputDir
  obtain ⟨habsolute, hsegments⟩ := hjoin place hrelative
  obtain ⟨habsolute', hsegments'⟩ := hjoin "src/provider" (by decide)
  have hshelf : Path.segments "src/provider" = moduleShelf := by decide
  have hne : Path.segments place ≠ [] := Text.pieces_ne_nil _ _
  rw [codeStem?, moduleDirectory, Path.identity, Path.identity, habsolute, habsolute', hsegments,
    hsegments', hshelf, Path.steps_append _ hsteps, Path.steps_append _ (by decide)]
  simp only [Prod.mk.injEq, true_and, List.dropLast_append_of_ne_nil hne, List.append_right_inj,
    List.getLast?_append_of_ne_nil _ hne]

/-- How the names of an artifact's modules begin, if its files are modules. -/
def moduleStem? (artifact : Artifact) : Option String :=
  if artifact.slot.front = moduleShelf then some (.ofList artifact.slot.stem) else none

/-- The artifacts whose files are modules have the stems of the modules that are declared. -/
theorem stems_of_artifacts :
    (Artifact.all.filterMap fun artifact => (moduleStem? artifact).map (·, artifact.family)) =
      stems := by
  decide +kernel

/-- The files of an artifact are modules, or their places begin in another directory. -/
theorem slot_of_artifact : ∀ artifact ∈ Artifact.all,
    artifact.slot.front = moduleShelf ∧ artifact.slot.ending = ".rs".toList ∧
        artifact.slot.back = [] ∨
      artifact.slot.front ≠ moduleShelf ∧ artifact.slot.front.head? ≠ some "src".toList := by
  decide +kernel

/-- The stem of the file of an artifact for a schema, if it is a module. -/
theorem codeStem_place {artifact : Artifact} (hartifact : artifact ∈ Artifact.all)
    {header : Schema.Header} (hname : Path.IsName header.tfName.toList) :
    codeStem? (moduleDirectory config)
        (Path.join config.outputDir (artifact.place header)) =
      (moduleStem? artifact).map fun stem => (stem ++ header.tfName).toList := by
  obtain ⟨hbefore, hrelative, hfits⟩ := artifact_fits artifact hartifact
  obtain ⟨habsolute, hshelved⟩ := shelved_place hartifact hname
  have hsegments := (Artifact.segments_place hbefore hrelative hname.clear).2
  rw [codeStem_join habsolute fun segment hsegment => (hshelved.names segment hsegment).1,
    hsegments, Slot.names, moduleStem?]
  rcases slot_of_artifact artifact hartifact with ⟨hfront, hending, hback⟩ | ⟨hfront, hhead⟩
  · rw [hback, List.dropLast_concat, List.getLast?_concat, if_pos hfront, if_pos hfront, hending,
      Option.bind_some, Text.dropEnd_append]
    simp
  · obtain ⟨first, rest, hfirst⟩ := List.exists_cons_of_ne_nil hfits.2.2.1
    rw [if_neg hfront, List.dropLast_append_of_ne_nil (List.cons_ne_nil _ _), if_neg]
    · rfl
    · -- A place in another directory begins in another one.
      intro hdirectory
      rw [hfirst, List.cons_append] at hdirectory
      rw [hfirst] at hhead
      exact hhead (congrArg some (List.cons.inj hdirectory).1)

/-- Which artifacts there are for a schema, and which modules are declared, depends on the schema in
the same way. -/
theorem stems_of_applicable (header : Schema.Header) :
    ((Artifact.applicable header).filterMap moduleStem?).map (· ++ header.tfName) =
      modules header := by
  rw [modules, ← stems_of_artifacts, Artifact.applicable]
  generalize Artifact.all = artifacts
  induction artifacts with
  | nil => rfl
  | cons first rest ih =>
      cases happlies : first.family.appliesTo header <;> cases hstem : moduleStem? first <;>
        simp_all

/-- The stems of the files for a schema that are modules are those that are declared. -/
theorem codeStems_schema {schema : Schema} (hname : Path.IsName schema.header.tfName.toList) :
    ((schemaLayout config schema).map (·.1)).filterMap (codeStem? (moduleDirectory config)) =
      (modules schema.header).map String.toList := by
  rw [schemaLayout, List.map_map, List.filterMap_map, ← stems_of_applicable, List.map_map,
    List.map_filterMap]
  refine List.filterMap_congr ?_
  intro artifact hartifact
  exact codeStem_place (List.mem_of_mem_filter hartifact) hname

/-- The stems of the files for all schemas that are modules are those that are declared. -/
theorem codeStems_schemas {schemas : List Schema}
    (hnames : ∀ schema ∈ schemas, Path.IsName schema.header.tfName.toList) :
    ((schemas.flatMap (schemaLayout config)).map (·.1)).filterMap
        (codeStem? (moduleDirectory config)) =
      (schemas.flatMap (modules ·.header)).map String.toList := by
  induction schemas with
  | nil => rfl
  | cons first rest ih =>
      obtain ⟨hfirst, hrest⟩ := List.forall_mem_cons.1 hnames
      rw [List.flatMap_cons, List.flatMap_cons, List.map_append, List.map_append,
        List.filterMap_append, codeStems_schema hfirst, ih hrest]

/-- The file with the changelog is no module. -/
theorem codeStem_changelog :
    codeStem? (moduleDirectory config) (Path.join config.outputDir changelogArtifact.place) =
      none := by
  rw [codeStem_join (by decide) (by decide), if_neg (by decide)]

/-- The template of the registration among the sources is the one that is read. -/
theorem provider_of_sources {sources : Sources} {text : String}
    (h : readSources config files = .ok sources)
    (htext : files.readText (Path.join config.templatesDir "provider.rs") = .ok text) :
    sources.provider = ⟨"provider.rs", .code, text⟩ := by
  obtain ⟨read, hread, hprovider⟩ := loadTemplate_ok_iff.1 (readSources_ok_iff.1 h).provider
  obtain rfl : read = text := Except.ok.inj (hread.symm.trans htext)
  exact hprovider

/-- Where no file is, nothing is read. -/
theorem readExisting_absent {path : String} {existing : Option String}
    (habsent : files.isFile path = false) (h : readExisting files path = .ok existing) :
    existing = none := by
  cases existing with
  | none => rfl
  | some text =>
      obtain ⟨place, hplace, hentry⟩ :=
        FileSystem.read_ok_iff.1 (FileSystem.readText_ok_iff.1 (readExisting_some_iff.1 h))
      have hfile := FileSystem.isFile_iff.2 ⟨place, _, hplace, hentry⟩
      rw [habsent] at hfile
      cases hfile

/-- A plan consists of the files for the schemas, the registration and the changelog. -/
theorem files_of_plan {sources : Sources} {found : Plan}
    (hsources : readSources config files = .ok sources)
    (hplanned : List.Forall₂ (Output.PlannedAs config files) (sources.outputs config)
      found.files) :
    ∃ before registry changelog, found.files = before ++ [registry, changelog] ∧
      before.map (·.path) = (sources.schemas.flatMap (schemaLayout config)).map (·.1) ∧
      Output.PlannedAs config files (sharedOutput config providerArtifact sources.provider
        (providerContext config sources.schemas)) registry ∧
      changelog.path = Path.join config.outputDir changelogArtifact.place := by
  obtain ⟨made, houtputs, hmade⟩ : ∃ made,
      sources.schemas.flatMap (schemaOutputs config sources.templates) = made ∧
        made.map Output.row = sources.schemas.flatMap (schemaLayout config) := by
    refine ⟨_, rfl, ?_⟩
    simp only [List.map_flatMap, schemaOutputs_rows (readSources_ok_iff.1 hsources).templates]
  rw [Sources.outputs, houtputs] at hplanned
  have hbefore := List.forall₂_take made.length hplanned
  have hafter := List.forall₂_drop made.length hplanned
  rw [List.take_left] at hbefore
  rw [List.drop_left, List.forall₂_cons_left_iff] at hafter
  obtain ⟨registry, rest, hregistry, hrest, hfiles⟩ := hafter
  obtain ⟨changelog, others, hchangelog, hothers, rfl⟩ := List.forall₂_cons_left_iff.1 hrest
  obtain rfl := List.forall₂_nil_left_iff.1 hothers
  refine ⟨found.files.take made.length, registry, changelog, ?_, ?_, hregistry,
    (made_of_planned hchangelog).path⟩
  · rw [← hfiles, List.take_append_drop]
  · rw [paths_of_planned hbefore, ← hmade, List.map_map]
    rfl

/-- With the standard template, a plan that succeeds where there is no registration yet plans the one
that the template writes, beside the files for the schemas and the changelog. -/
theorem registration_of_plan {found : Plan}
    (htemplate : files.readText (Path.join config.templatesDir "provider.rs") =
      .ok (Standard.text Standard.provider))
    (habsent : files.isFile (registrationPath config) = false)
    (hplan : (plan config files).result = .ok found) :
    ∃ sources before registry changelog, readSources config files = .ok sources ∧
      found.files = before ++ [registry, changelog] ∧
      before.map (·.path) = (sources.schemas.flatMap (schemaLayout config)).map (·.1) ∧
      registry.path = registrationPath config ∧
      registry.content = registration config.provider sources.schemas ∧
      changelog.path = Path.join config.outputDir changelogArtifact.place := by
  obtain ⟨sources, hsources, -, hplanned, -⟩ := plan_ok_iff.1 hplan
  obtain ⟨before, registry, changelog, hfiles, hpaths, hregistry, hchangelog⟩ :=
    files_of_plan hsources hplanned
  refine ⟨sources, before, registry, changelog, hsources, hfiles, hpaths, ?_, ?_, hchangelog⟩
  · exact (made_of_planned hregistry).path
  · obtain ⟨fresh, existing, hfresh, hexisting, rfl⟩ := hregistry
    have hrendered := mapError_ok_iff.1 hfresh
    rw [provider_of_sources hsources htemplate] at hrendered ⊢
    have htext := Standard.Provider.render_source (library config) config sources.schemas
    obtain rfl : registration config.provider sources.schemas = fresh :=
      Except.ok.inj (htext.symm.trans hrendered)
    rw [readExisting_absent habsent hexisting]
    rfl

/-- With the standard template, a plan that succeeds where there is no registration yet plans one
whose declarations are, in order, those of the other files with code in its directory, if neither
the name of the provider nor a short name breaks a line. -/
theorem modules_of_plan {found : Plan} {loaded : List (String × Schema)}
    (hloaded : (loadSchemas files config.definitionsDir).result = .ok loaded)
    (hnames : ∀ entry ∈ loaded, Path.IsName entry.2.header.tfName.toList ∧
      '\n' ∉ entry.2.header.tfName.toList)
    (hprovider : '\n' ∉ config.provider.toList)
    (htemplate : files.readText (Path.join config.templatesDir "provider.rs") =
      .ok (Standard.text Standard.provider))
    (habsent : files.isFile (registrationPath config) = false)
    (hplan : (plan config files).result = .ok found) :
    ∃ before registry after, found.files = before ++ registry :: after ∧
      registry.path = registrationPath config ∧
      moduleNames registry.content.toList =
        (before ++ after).filterMap fun file => codeStem? (moduleDirectory config) file.path := by
  obtain ⟨sources, before, registry, changelog, hsources, hfiles, hpaths, hpath, hcontent,
    hchangelog⟩ := registration_of_plan htemplate habsent hplan
  refine ⟨before, registry, [changelog], hfiles, hpath, ?_⟩
  have hschemas : ∀ schema ∈ sources.schemas, Path.IsName schema.header.tfName.toList ∧
      '\n' ∉ schema.header.tfName.toList := by
    obtain ⟨read, hread, hschemas⟩ := (readSources_ok_iff.1 hsources).schemas
    obtain rfl : loaded = read := Except.ok.inj (hloaded.symm.trans hread)
    rw [hschemas, List.forall_mem_map]
    exact hnames
  have hdeclared := (declares_registration hprovider fun schema hschema =>
    (hschemas schema hschema).2).names_eq
  have hstems := @codeStems_schemas config sources.schemas fun schema hschema =>
    (hschemas schema hschema).1
  rw [← hpaths, List.filterMap_map] at hstems
  rw [hcontent, hdeclared, List.filterMap_append, ← hstems]
  simp [hchangelog, codeStem_changelog]

/-- The outputs of sources whose templates are not that of the registration. -/
def otherOutputs (config : Config) (sources : Sources) : List Output :=
  sources.schemas.flatMap (schemaOutputs config sources.templates) ++
    [sharedOutput config changelogArtifact sources.changelog
      (changelogContext config sources.changes)]

/-- With the standard template, sources have a plan if the short names of the schemas are different,
the other templates yield texts, and what is in the places of the outputs can be read. -/
theorem exists_plan {sources : Sources} (hsources : readSources config files = .ok sources)
    (htemplate : files.readText (Path.join config.templatesDir "provider.rs") =
      .ok (Standard.text Standard.provider))
    (hnames : ∀ schema ∈ sources.schemas, Path.IsName schema.header.tfName.toList)
    (hnodup : (sources.schemas.map (·.header.tfName)).Nodup)
    (hrender : ∀ output ∈ otherOutputs config sources, ∃ fresh, output.fresh config = .ok fresh)
    (hreadable : ∀ output ∈ sources.outputs config,
      ∃ existing, readExisting files output.path = .ok existing) :
    ∃ found, (plan config files).result = .ok found := by
  have hall : ∀ output ∈ sources.outputs config, ∃ fresh, output.fresh config = .ok fresh := by
    intro output houtput
    rw [Sources.outputs, List.mem_append, List.mem_pair] at houtput
    rcases houtput with hmade | rfl | rfl
    · exact hrender output (List.mem_append_left _ hmade)
    · rw [provider_of_sources hsources htemplate]
      have hrendered :=
        Standard.Provider.render_source (library config) config sources.schemas
      exact ⟨_, mapError_ok_iff.2 hrendered⟩
    · exact hrender _ (List.mem_append_right _ List.mem_cons_self)
  have hdistinct := distinct_of_rows (rows_of_sources hsources ▸ layout_distinct hnames hnodup)
  obtain ⟨planned, hplanned, helsewhere⟩ := planAll_distinct hall hreadable hdistinct
  exact ⟨⟨_, planned⟩, plan_ok_iff.2 ⟨sources, hsources, rfl, hplanned, helsewhere⟩⟩

/-- A project whose template of the registration is the standard one. -/
def registryFiles (definitions : List (FileName × Tree)) : FileSystem where
  tree := .directory
    [("gen".toList, .directory
        [("definitions".toList, .directory definitions),
          ("templates".toList, .directory
            ((Artifact.all.map fun artifact => textEntry artifact.template "") ++
              [textEntry "provider.rs" (Standard.text Standard.provider),
                textEntry "changelog.md" ""]))]),
      textEntry "CHANGELOG.md" ""]
  working := []
  limits := none

/-- The template of such a project is read. -/
theorem template_registryFiles (definitions : List (FileName × Tree)) :
    (registryFiles definitions).readText "gen/templates/provider.rs" =
      .ok (Standard.text Standard.provider) := by
  rfl

/-- The short names of the schemas of a project that can be planned, if there are any such. -/
def plannable? (config : Config) (files : FileSystem) : Option (List String) :=
  match readSources config files with
  | .ok sources =>
    if ((otherOutputs config sources).all fun output => (output.fresh config).toOption.isSome) &&
        (sources.outputs config).all fun output =>
          (readExisting files output.path).toOption.isSome then
      some (sources.schemas.map (·.header.tfName))
    else none
  | .error _ => none

/-- With the standard template, a project that can be planned has a plan. -/
theorem plan_of_plannable {names : List String}
    (htemplate : files.readText (Path.join config.templatesDir "provider.rs") =
      .ok (Standard.text Standard.provider))
    (h : plannable? config files = some names)
    (hnames : ∀ name ∈ names, Path.IsName name.toList) (hnodup : names.Nodup) :
    ∃ loaded found, (loadSchemas files config.definitionsDir).result = .ok loaded ∧
      loaded.map (·.2.header.tfName) = names ∧ (plan config files).result = .ok found := by
  rw [plannable?] at h
  split at h
  · next sources hsources =>
      split at h
      · next hready =>
          obtain rfl := Option.some.inj h
          simp only [Bool.and_eq_true, List.all_eq_true, Option.isSome_iff_exists,
            toOption_eq_some_iff] at hready
          rw [List.forall_mem_map] at hnames
          obtain ⟨found, hfound⟩ :=
            exists_plan hsources htemplate hnames hnodup hready.1 hready.2
          obtain ⟨loaded, hloaded, hschemas⟩ := (readSources_ok_iff.1 hsources).schemas
          exact ⟨loaded, found, hloaded, by rw [hschemas, List.map_map]; rfl, hfound⟩
      · cases h
  · cases h

/-- A project with a schema that has no resource. -/
def siteRegistry : FileSystem :=
  registryFiles [textEntry "site.yaml"
    "name: Site\ntf_name: site\nrest_endpoint: /site\nno_resource: true\n"]

/-- Its registration declares the modules that files are planned for. -/
theorem modules_of_plan_site :
    ∃ loaded found, (loadSchemas siteRegistry Config.default.definitionsDir).result = .ok loaded ∧
      loaded.map (·.2.header.tfName) = ["site"] ∧
      (∀ entry ∈ loaded, Path.IsName entry.2.header.tfName.toList ∧
        '\n' ∉ entry.2.header.tfName.toList) ∧
      '\n' ∉ Config.default.provider.toList ∧
      siteRegistry.readText (Path.join Config.default.templatesDir "provider.rs") =
        .ok (Standard.text Standard.provider) ∧
      siteRegistry.isFile (registrationPath .default) = false ∧
      (plan .default siteRegistry).result = .ok found ∧
      ∃ before registry after, found.files = before ++ registry :: after ∧
        registry.path = registrationPath .default ∧
        moduleNames registry.content.toList =
          (before ++ after).filterMap fun file =>
            codeStem? (moduleDirectory .default) file.path := by
  have hplannable : plannable? .default siteRegistry = some ["site"] := by decide +kernel
  have hsite : Path.IsName "site".toList := ⟨by decide, by decide, by decide, by decide⟩
  have htemplate : siteRegistry.readText (Path.join Config.default.templatesDir "provider.rs") =
      .ok (Standard.text Standard.provider) := template_registryFiles _
  obtain ⟨loaded, found, hloaded, hall, hfound⟩ :=
    plan_of_plannable htemplate hplannable (by simpa using hsite) (by decide)
  have hnames : ∀ entry ∈ loaded, Path.IsName entry.2.header.tfName.toList ∧
      '\n' ∉ entry.2.header.tfName.toList := by
    intro entry hentry
    have hname : entry.2.header.tfName ∈ ["site"] := hall ▸ List.mem_map_of_mem hentry
    rw [List.mem_singleton.1 hname]
    exact ⟨hsite, by decide⟩
  have hprovider : '\n' ∉ Config.default.provider.toList := by decide
  have habsent : siteRegistry.isFile (registrationPath .default) = false := by decide +kernel
  exact ⟨loaded, found, hloaded, hall, hnames, hprovider, htemplate, habsent, hfound,
    modules_of_plan hloaded hnames hprovider htemplate habsent hfound⟩

/-- A provider whose name breaks a line, and with it declares a module. -/
def brokenProvider : Config := { Config.default with provider := "x\npub mod y;\n" }

/-- The module is declared although there are no schemas. -/
theorem declares_broken :
    moduleNames (registration brokenProvider.provider []).toList = ["y".toList] := by
  show moduleNames (registration "x\npub mod y;\n" []).toList = ["y".toList]
  simp only [registration, String.toList_append]
  unfold Standard.Provider.preamble Standard.Provider.nameHeading
    Standard.Provider.dataSourcesHeading Standard.Provider.resourcesHeading Standard.Provider.ending
  repeat rw [String.toList_ofList]
  decide +kernel

/-- The registration of such a provider declares a module that no file is planned for. -/
theorem declared_without_file :
    ¬ ∀ (config : Config) (files : FileSystem) (found : Plan) (loaded : List (String × Schema)),
      (loadSchemas files config.definitionsDir).result = .ok loaded →
      (∀ entry ∈ loaded, Path.IsName entry.2.header.tfName.toList ∧
        '\n' ∉ entry.2.header.tfName.toList) →
      (loaded.map (·.2.header.tfName)).Nodup →
      files.readText (Path.join config.templatesDir "provider.rs") =
        .ok (Standard.text Standard.provider) →
      files.isFile (registrationPath config) = false →
      (plan config files).result = .ok found →
      ∃ before registry after, found.files = before ++ registry :: after ∧
        registry.path = registrationPath config ∧
        moduleNames registry.content.toList =
          (before ++ after).filterMap fun file =>
            codeStem? (moduleDirectory config) file.path := by
  intro h
  have hplannable : plannable? brokenProvider (registryFiles []) = some [] := by decide +kernel
  have htemplate : (registryFiles []).readText
      (Path.join brokenProvider.templatesDir "provider.rs") =
        .ok (Standard.text Standard.provider) := template_registryFiles _
  have habsent : (registryFiles []).isFile (registrationPath brokenProvider) = false := by
    decide +kernel
  obtain ⟨loaded, found, hloaded, hnone, hfound⟩ :=
    plan_of_plannable htemplate hplannable (by simp) (by decide)
  obtain rfl := List.map_eq_nil_iff.1 hnone
  obtain ⟨before, registry, after, hfiles, hpath, hnames⟩ := h brokenProvider (registryFiles [])
    found [] hloaded (by simp) (by simp) htemplate habsent hfound
  obtain ⟨sources, made, planned, changelog, hsources, hall, hpaths, -, hcontent, hchangelog⟩ :=
    registration_of_plan htemplate habsent hfound
  -- Without schemas there are no files but the registration and the changelog.
  have hschemas : sources.schemas = [] := by
    obtain ⟨read, hread, hschemas⟩ := (readSources_ok_iff.1 hsources).schemas
    obtain rfl : [] = read := Except.ok.inj (hloaded.symm.trans hread)
    exact hschemas
  rw [hschemas] at hpaths hcontent
  obtain rfl : made = [] := List.map_eq_nil_iff.1 hpaths
  rw [hall, List.nil_append] at hfiles
  cases before with
  | nil =>
      obtain ⟨rfl, rfl⟩ := List.cons.inj hfiles
      rw [hcontent, declares_broken] at hnames
      simp [hchangelog, codeStem_changelog] at hnames
  | cons first rest =>
      obtain ⟨rfl, hrest⟩ := List.cons.inj hfiles
      obtain ⟨rfl, hlast⟩ | ⟨rest, rfl, hlast⟩ := List.append_eq_cons_iff.1 hrest.symm
      · obtain ⟨rfl, rfl⟩ := List.cons.inj hlast
        rw [hpath] at hchangelog
        exact absurd hchangelog (by decide +kernel)
      · simp at hlast

end Stencil.Project
