import Stencil.Proofs.Project.Definitions
import Stencil.Proofs.Project.Outputs

/-!
# Reading sources again

The sources of a run are read as before from a file system that has grown, if no source was written
and no written file has the name of a schema file (`readSources_grown`). Directories that are new
among the schema files do not count, whatever their names are (`listDefinitions_grown`).
-/

namespace Stencil.Project

variable {config : Config} {files after : FileSystem} {written : List (List FileName)}

/-- The paths of all files that a run reads as its sources: the schemas, the templates and the
changelog. -/
def inputPaths (config : Config) (files : FileSystem) : List String :=
  (listDefinitions files config.definitionsDir).toOption.getD [] ++
    (Artifact.all.map (·.template) ++ [providerArtifact.template, changelogArtifact.template]).map
      (Path.join config.templatesDir) ++ [config.changelog]

/-- A written place that does not have the name of a schema file is not that of one. -/
theorem not_written {place : List FileName} {name : FileName}
    (hforeign : ∀ place ∈ written, Foreign place) (h : isDefinitionName name = true) :
    place ++ [name] ∉ written := by
  intro hmem
  have hlast := hforeign _ hmem
  rw [Foreign, List.getLast?_concat, Option.any_some, h] at hlast
  cases hlast

section

variable {directory : String} {place : List FileName} {name : FileName}

/-- An entry that was there is a schema file exactly if it was one. -/
theorem definition_grown (h : files.Grown written after)
    (hforeign : ∀ place ∈ written, Foreign place) (hlocate : files.locate directory = .ok place)
    (hname : '/' ∉ name) :
    (isDefinitionName name && after.isFile (Path.join directory (.ofList name))) =
      (isDefinitionName name && files.isFile (Path.join directory (.ofList name))) := by
  cases hdefinition : isDefinitionName name with
  | false => rfl
  | true =>
      obtain ⟨hstep, hup⟩ := definition_step hdefinition
      rw [h.isFile_join hlocate hname hstep hup (not_written hforeign hdefinition)]

/-- A missing entry is no schema file. -/
theorem definition_missing (hlocate : files.locate directory = .ok place) (hname : '/' ∉ name)
    (hmissing : files.entryAt? (place ++ [name]) = none) :
    (isDefinitionName name && files.isFile (Path.join directory (.ofList name))) = false := by
  cases hdefinition : isDefinitionName name with
  | false => rfl
  | true =>
      obtain ⟨hstep, hup⟩ := definition_step hdefinition
      rw [Bool.true_and, Bool.eq_false_iff, ne_eq,
        FileSystem.isFile_join hlocate hname hstep hup]
      simp [hmissing]

/-- The schema files of a directory are those that there were. -/
theorem listDefinitions_grown (h : files.Grown written after)
    (hforeign : ∀ place ∈ written, Foreign place) {paths : List String}
    (hnames : ∀ names, files.list directory = .ok names → ∀ name ∈ names, '/' ∉ name)
    (hpaths : listDefinitions files directory = .ok paths) :
    listDefinitions after directory = .ok paths := by
  simp only [listDefinitions, bind_ok_iff, mapError_ok_iff] at hpaths ⊢
  obtain ⟨names, hlist, hpaths⟩ := hpaths
  obtain ⟨place, hlocate, hplace⟩ := FileSystem.list_ok_iff.1 hlist
  obtain ⟨more, hmore, hnew⟩ := h.names place names hplace
  refine ⟨names ++ more, FileSystem.list_ok_iff.2 ⟨place, h.locate hlocate, hmore⟩, ?_⟩
  -- New names come last, and none of them is that of a schema file.
  have hsame : definitionNames after directory (names ++ more) =
      definitionNames files directory names := by
    rw [definitionNames, definitionNames, List.filter_append]
    have hold := List.filter_congr fun name hname =>
      definition_grown h hforeign hlocate (hnames names hlist name hname)
    have hnone : more.filter (fun name =>
        isDefinitionName name && after.isFile (Path.join directory (.ofList name))) = [] := by
      refine List.filter_eq_nil_iff.2 fun name hname => ?_
      obtain ⟨hclear, hmissing⟩ := hnew name hname
      rw [definition_grown h hforeign hlocate hclear, definition_missing hlocate hclear hmissing]
      exact Bool.false_ne_true
    rw [hold, hnone, List.append_nil]
  rw [hsame]
  exact hpaths

end

/-- A schema is loaded as before from a file that holds what it held. -/
theorem loadSchema_of_read {path : String} {schema : Schema}
    (h : ∀ content, files.read path = .ok content → after.read path = .ok content)
    (hschema : loadSchema files path = .ok schema) : loadSchema after path = .ok schema := by
  obtain ⟨content, hread, hschema⟩ := loadSchema_ok_iff.1 hschema
  exact loadSchema_ok_iff.2 ⟨content, h content hread, hschema⟩

/-- A template is loaded as before from a file that holds what it held. -/
theorem loadTemplate_of_read {directory name : String} {kind : Template.OutputKind}
    {template : Template.Source}
    (h : ∀ text, files.readText (Path.join directory name) = .ok text →
      after.readText (Path.join directory name) = .ok text)
    (htemplate : loadTemplate files directory name kind = .ok template) :
    loadTemplate after directory name kind = .ok template := by
  obtain ⟨text, hread, rfl⟩ := loadTemplate_ok_iff.1 htemplate
  exact loadTemplate_ok_iff.2 ⟨text, h text hread, rfl⟩

/-- All sources are read as before, if none of them was written and no file was written that has the
name of a schema file. -/
theorem readSources_grown (h : files.Grown written after)
    (hforeign : ∀ place ∈ written, Foreign place)
    (hnames : ∀ names, files.list config.definitionsDir = .ok names → ∀ name ∈ names, '/' ∉ name)
    (hinputs : ∀ path ∈ inputPaths config files, ∀ place, after.locate path = .ok place →
      place ∉ written)
    {sources : Sources} (hsources : readSources config files = .ok sources) :
    readSources config after = .ok sources := by
  have htemplate : ∀ name kind template, name ∈ Artifact.all.map (·.template) ++
      [providerArtifact.template, changelogArtifact.template] →
      loadTemplate files config.templatesDir name kind = .ok template →
        loadTemplate after config.templatesDir name kind = .ok template := by
    intro name kind template hname
    refine loadTemplate_of_read fun text htext => h.readText htext (hinputs _ ?_)
    exact List.mem_append_left _ (List.mem_append_right _ (List.mem_map_of_mem hname))
  obtain ⟨⟨loaded, hloaded, hschemas⟩, htemplates, hprovider, hchanges, hchangelog⟩ :=
    readSources_ok_iff.1 hsources
  obtain ⟨paths, hpaths, hloaded⟩ := loadSchemas_ok_iff.1 hloaded
  have hagain : (loadSchemas after config.definitionsDir).result = .ok loaded := by
    refine loadSchemas_ok_iff.2 ⟨paths, listDefinitions_grown h hforeign hnames hpaths,
      forall₂_imp_of_mem hloaded fun path hpath entry ⟨hschema, hentry⟩ => ⟨?_, hentry⟩⟩
    refine loadSchema_of_read (fun content hcontent => h.read hcontent (hinputs path ?_)) hschema
    simp [inputPaths, hpaths, Except.toOption, hpath]
  have htemplates' : TemplatesRead config after sources.templates :=
    forall₂_imp_of_mem htemplates fun artifact hartifact template =>
      htemplate _ _ _ (List.mem_append_left _ (List.mem_map_of_mem hartifact))
  exact readSources_ok_iff.2 ⟨⟨loaded, hagain, hschemas⟩, htemplates',
    htemplate _ _ _ (by simp) hprovider,
    h.readText hchanges (hinputs _ (by simp [inputPaths])), htemplate _ _ _ (by simp) hchangelog⟩

end Stencil.Project
