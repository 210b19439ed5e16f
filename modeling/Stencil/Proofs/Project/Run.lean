import Stencil.Proofs.Project.Plan

/-!
# All or nothing

`run_all_or_nothing` says what a run comes to: where the plan fails, so does the run, and nothing is
changed; where the plan succeeds, so does every write of the run, and the files are as planned
(`Generated`). A dry run tells the same and changes nothing.
-/

namespace Stencil.Project

variable {files after : FileSystem} {planned : List PlannedFile}

/-- The files are as planned: every planned path holds its content, every other file is as before,
and the directories are those there were and those that changed files lie in. -/
structure Generated (files : FileSystem) (planned : List PlannedFile) (after : FileSystem) :
    Prop where
  working : after.working = files.working
  limits : after.limits = files.limits
  content : ∀ file ∈ planned, after.readText file.path = .ok file.content
  others : ∀ place, (∀ file ∈ planned, after.locate file.path ≠ .ok place) → ∀ content,
    after.at? place = some (.file content) ↔ files.at? place = some (.file content)
  directories : ∀ place, after.hasDirectory place = true ↔
    files.hasDirectory place = true ∨ ∃ file ∈ planned, file.changed = true ∧
      ∃ below, below ≠ [] ∧ after.locate file.path = .ok (place ++ below)

/-- Planned files that have been written are found at their paths. -/
theorem Complete.located (h : Complete files planned after) (hready : Ready files planned)
    (hlimits : files.limits = none) {file : PlannedFile} (hfile : file ∈ planned) :
    after.locate file.path = .ok (files.placeOf file.path) ∧
      after.readText file.path = .ok file.content := by
  have hpath := hready.names file hfile
  obtain ⟨front, name, hsegments, hname⟩ := hpath.last
  have hplace := FileSystem.placeOf_congr h.working file.path
  rw [← hplace]
  exact FileSystem.readText_of_entry (h.limits.trans hlimits) hpath.level hpath.ne_empty hsegments
    hname (hplace ▸ h.content file hfile)

/-- What a place that is no planned file's holds: a directory if a changed file lies below it, and
else what it held. -/
theorem Complete.elsewhere (h : Complete files planned after) {place : List FileName}
    (hplace : ∀ file ∈ planned, place ≠ files.placeOf file.path) :
    (after.entryAt? place = some .directory ∧
        ∃ file ∈ planned, file.changed = true ∧ place <+: files.placeOf file.path) ∨
      after.entryAt? place = files.entryAt? place := by
  by_cases habove : ∃ file ∈ planned, file.changed = true ∧ place <+: files.placeOf file.path
  · obtain ⟨file, hfile, hchanged, hprefix⟩ := habove
    exact .inl ⟨h.above file hfile hchanged place hprefix (hplace file hfile),
      file, hfile, hchanged, hprefix⟩
  · exact .inr (h.rest place fun file hfile hchanged hprefix =>
      habove ⟨file, hfile, hchanged, hprefix⟩)

/-- Planned files that have been written leave the files as planned. -/
theorem Complete.generated (h : Complete files planned after) (hready : Ready files planned)
    (hlimits : files.limits = none) : Generated files planned after where
  working := h.working
  limits := h.limits
  content file hfile := (h.located hready hlimits hfile).2
  others := by
    intro place hplace content
    have hother : ∀ file ∈ planned, place ≠ files.placeOf file.path := fun file hfile heq =>
      hplace file hfile (heq ▸ (h.located hready hlimits hfile).1)
    rw [FileSystem.at_file_iff, FileSystem.at_file_iff]
    rcases h.elsewhere hother with ⟨hdirectory, file, hfile, -, hprefix⟩ | hsame
    · have hbefore := (hready.clear file hfile).above place hprefix (hother file hfile) content
      simp [hdirectory, hbefore]
    · rw [hsame]
  directories := by
    intro place
    rw [FileSystem.hasDirectory_iff, FileSystem.hasDirectory_iff]
    constructor
    · intro hdirectory
      have hother : ∀ file ∈ planned, place ≠ files.placeOf file.path := by
        rintro file hfile rfl
        simp [h.content file hfile] at hdirectory
      rcases h.elsewhere hother with ⟨-, file, hfile, hchanged, below, hbelow⟩ | hsame
      · refine .inr ⟨file, hfile, hchanged, below, ?_, ?_⟩
        · rintro rfl
          exact hother file hfile (by simpa using hbelow)
        · rw [hbelow, (h.located hready hlimits hfile).1]
      · exact .inl (hsame ▸ hdirectory)
    · rintro (hdirectory | ⟨file, hfile, hchanged, below, hne, hlocate⟩)
      · have hother : ∀ file ∈ planned, place ≠ files.placeOf file.path := by
          rintro file hfile rfl
          exact (hready.clear file hfile).here hdirectory
        rcases h.elsewhere hother with ⟨hafter, -⟩ | hsame
        · exact hafter
        · rw [hsame, hdirectory]
      · rw [(h.located hready hlimits hfile).1] at hlocate
        have hplace := Except.ok.inj hlocate
        exact h.above file hfile hchanged place (hplace ▸ List.prefix_append _ _) fun heq =>
          hne (by simpa [← heq] using hplace)

/-- The report on a plan that is carried out. -/
def Plan.report (plan : Plan) : Report :=
  ⟨plan.schemas, pathsOf true plan.files, pathsOf false plan.files⟩

/-- A run is all or nothing, where names may have any length, the working directory exists, the
output directory has no steps upwards and short names are names of entries. If the plan fails, every
run fails with its fault and leaves the files as they are. If it succeeds, a run succeeds, leaves
the files as planned and reports what it wrote and what it did not need to write, and a dry run
reports the same and leaves the files as they are. -/
theorem run_all_or_nothing {config : Config} {files : FileSystem} (hlimits : files.limits = none)
    (hworking : files.hasDirectory files.working = true)
    (hlevel : Path.upward ∉ Path.segments config.outputDir)
    (hnames : ∀ schemas, (loadSchemas files config.definitionsDir).result = .ok schemas →
      ∀ loaded ∈ schemas, Path.IsName loaded.2.header.tfName.toList) :
    match (plan config files).result with
    | .error fault => ∀ dryRun, (run config dryRun files).1 = files ∧
        (run config dryRun files).2.result = .error fault
    | .ok found =>
        Generated files found.files (run config false files).1 ∧
          (run config false files).2.result = .ok found.report ∧
          (run config true files).1 = files ∧
          (run config true files).2.result = .ok found.report := by
  cases hplan : (plan config files).result with
  | error fault => exact fun dryRun => by simp [run, hplan]
  | ok found =>
      have hready := ready_of_plan hlimits hworking hlevel hnames hplan
      obtain ⟨hcomplete, hwritten⟩ :=
        writeAll_ready hlimits hready ⟨found.schemas, [], []⟩
      obtain ⟨hsame, hlisted⟩ := writeAll_dry found.files files ⟨found.schemas, [], []⟩
      simp only [run, hplan]
      exact ⟨hcomplete.generated hready hlimits, hwritten, hsame, hlisted⟩

/-- A file with a text as an entry of its directory. -/
def textEntry (name text : String) : FileName × Tree :=
  (name.toList, .file (.text text))

/-- A project with one schema, whose model has been generated before and edited since. -/
def siteFiles : FileSystem where
  tree := .directory
    [("gen".toList, .directory
        [("definitions".toList, .directory
            [textEntry "site.yaml" ("name: Site\ntf_name: site\n" ++
              "rest_endpoint: /site\nno_resource: true\n")]),
          ("templates".toList, .directory
            (textEntry "model.rs" "\n//template:begin a\nnew\n//template:end a\n" ::
              (Artifact.all.tail.map fun artifact => textEntry artifact.template "") ++
              [textEntry "provider.rs" "", textEntry "changelog.md" ""]))]),
      ("src".toList, .directory
        [("provider".toList, .directory
            [textEntry "model_site.rs" "mine\n//template:begin a\nold\n//template:end a\n",
              textEntry "mod.rs" ""])]),
      textEntry "CHANGELOG.md" ""]
  working := []
  limits := none

/-- What is planned for the project, and what a run makes of its model. -/
theorem site_outcome :
    (loadSchemas siteFiles Config.default.definitionsDir).result.toOption.map
        (·.map (·.2.header.tfName)) = some ["site"] ∧
      (plan .default siteFiles).result.toOption.map
          (fun found => (found.report, found.files.map (·.path))) =
        some (⟨1, ["./src/provider/model_site.rs", "./src/provider/data_source_site.rs",
            "./tests/data_source_site.rs", "./examples/data-sources/site/data-source.tf",
            "./docs/guides/changelog.md"], ["./src/provider/mod.rs"]⟩,
          ["./src/provider/model_site.rs", "./src/provider/data_source_site.rs",
            "./tests/data_source_site.rs", "./examples/data-sources/site/data-source.tf",
            "./src/provider/mod.rs", "./docs/guides/changelog.md"]) ∧
      (run .default false siteFiles).2.result.toOption.isSome = true ∧
      (run .default false siteFiles).1.readText "src/provider/model_site.rs" =
        .ok "mine\n//template:begin a\nnew\n//template:end a\n" := by
  decide +kernel

/-- The short name of its schema is the name of an entry. -/
theorem site_names :
    ∀ schemas, (loadSchemas siteFiles Config.default.definitionsDir).result = .ok schemas →
      ∀ loaded ∈ schemas, Path.IsName loaded.2.header.tfName.toList := by
  intro schemas hloaded loaded hmem
  have hlist := site_outcome.1
  rw [hloaded] at hlist
  have hnames : schemas.map (·.2.header.tfName) = ["site"] := Option.some.inj hlist
  have hname : loaded.2.header.tfName = "site" :=
    List.mem_singleton.1 (hnames ▸ List.mem_map_of_mem hmem)
  rw [hname]
  exact ⟨by decide, by decide, by decide, by decide⟩

/-- The project is generated: the section of the model is replaced, what was written by hand is
kept, and the registration of schemas holds its content already. -/
theorem run_site :
    siteFiles.limits = none ∧ siteFiles.hasDirectory siteFiles.working = true ∧
      Path.upward ∉ Path.segments Config.default.outputDir ∧
      (loadSchemas siteFiles Config.default.definitionsDir).result.toOption.map
        (·.map (·.2.header.tfName)) = some ["site"] ∧
      ∃ found, (plan .default siteFiles).result = .ok found ∧
        found.report = ⟨1, ["./src/provider/model_site.rs", "./src/provider/data_source_site.rs",
          "./tests/data_source_site.rs", "./examples/data-sources/site/data-source.tf",
          "./docs/guides/changelog.md"], ["./src/provider/mod.rs"]⟩ ∧
        (run .default false siteFiles).1.readText "src/provider/model_site.rs" =
          .ok "mine\n//template:begin a\nnew\n//template:end a\n" ∧
        Generated siteFiles found.files (run .default false siteFiles).1 ∧
        (run .default false siteFiles).2.result = .ok found.report ∧
        (run .default true siteFiles).1 = siteFiles ∧
        (run .default true siteFiles).2.result = .ok found.report := by
  obtain ⟨hschemas, hplanned, -, hmodel⟩ := site_outcome
  have hrun := @run_all_or_nothing .default siteFiles rfl (by decide) (by decide) site_names
  refine ⟨rfl, by decide, by decide, hschemas, ?_⟩
  obtain ⟨found, hfound, hreport⟩ := Option.map_eq_some_iff.1 hplanned
  rw [toOption_eq_some_iff] at hfound
  rw [hfound] at hrun
  exact ⟨found, hfound, (Prod.mk.inj hreport).1, hmodel, hrun⟩

end Stencil.Project
