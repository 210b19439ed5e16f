import Stencil.Proofs.Project.Definitions
import Stencil.Proofs.Project.Run

/-!
# Runs and the order of listings

The schema files of a directory are found by their names, however the directory lists them
(`mem_definitionNames`). Everything else is found by path, so a run on file systems that differ at
most in the order of listings has one plan, one report and one fault, and leaves such file systems
again (`run_relisted`). `listing_exact` says both. Where the path of a directory just fits, those of
its entries do not, and no schema file is found there (`listDefinitions_long`).
-/

namespace Stencil.Project

open FileSystem (Relisted)

variable {config : Config} {files other : FileSystem} {directory : String}
  {entries : List (FileName × Tree)}

/-- The paths of the schema files of a directory are those of their names. -/
theorem listDefinitions_of_find (hdirectory : files.find directory = .ok (.directory entries)) :
    listDefinitions files directory =
      .ok ((definitionNames files directory (entries.map (·.1))).map fun name =>
        Path.join directory (.ofList name)) := by
  rw [listDefinitions, FileSystem.list, hdirectory]
  rfl

/-- The schema files of a directory are the files among its entries whose names end so and whose
paths are not too long. -/
theorem mem_definitionNames (hdirectory : files.find directory = .ok (.directory entries))
    (hnames : (entries.map (·.1)).Nodup)
    (hentries : ∀ entry ∈ entries, '/' ∉ entry.1 ∧ files.isLongName entry.1 = false)
    (name : FileName) :
    name ∈ definitionNames files directory (entries.map (·.1)) ↔
      EndsAsDefinition name ∧ (∃ content, (name, .file content) ∈ entries) ∧
        files.isLongPath (Path.join directory (.ofList name)) = false := by
  obtain ⟨place, hlocate, hplace⟩ := FileSystem.find_ok_iff.1 hdirectory
  have hfile : ∀ content, files.entryAt? (place ++ [name]) = some (.file content) ↔
      (name, .file content) ∈ entries := by
    intro content
    rw [← FileSystem.at_file_iff, ← Tree.lookup_eq_some_iff hnames, FileSystem.at?, Tree.at_append]
    rw [FileSystem.at?] at hplace
    simp [hplace, Tree.at?]
  rw [(definitionNames_perm _ _ _).mem_iff, List.mem_filter, List.mem_map]
  constructor
  · rintro ⟨⟨entry, hentry, rfl⟩, hdefinition⟩
    obtain ⟨hends, hpath, -, content, hcontent⟩ :=
      (isDefinition_join hlocate (hentries entry hentry).1).1 hdefinition
    exact ⟨hends, ⟨content, (hfile content).1 hcontent⟩, hpath⟩
  · rintro ⟨hends, ⟨content, hcontent⟩, hpath⟩
    obtain ⟨hclear, hshort⟩ := hentries _ hcontent
    exact ⟨⟨_, hcontent, rfl⟩, (isDefinition_join hlocate hclear).2
      ⟨hends, hpath, hshort, content, (hfile content).2 hcontent⟩⟩

/-- A directory that is listed in another order has the same schema files. -/
theorem listDefinitions_relisted (h : files.Relisted other) (directory : String) :
    listDefinitions other directory = listDefinitions files directory := by
  rw [listDefinitions, listDefinitions]
  rcases h.list_cases directory with ⟨fault, hfiles, hother⟩ |
    ⟨names, others, hfiles, hother, hperm⟩
  · simp only [hfiles, hother, mapError_error, bind, Except.bind]
  · simp only [hfiles, hother, mapError_ok, bind, Except.bind, definitionNames_congr h hperm]

/-- The same schemas are loaded, with the same events, up to the same fault. -/
theorem loadSchemas_relisted (h : files.Relisted other) (directory : String) :
    loadSchemas other directory = loadSchemas files directory := by
  have hload : loadReported other = loadReported files := by
    funext path
    rw [loadReported, loadReported, loadSchema, loadSchema, h.read]
  rw [loadSchemas, loadSchemas, listDefinitions_relisted h, hload]

/-- The same template is loaded. -/
theorem loadTemplate_relisted (h : files.Relisted other) (directory name : String)
    (kind : Template.OutputKind) :
    loadTemplate other directory name kind = loadTemplate files directory name kind := by
  rw [loadTemplate, loadTemplate, h.readText]

/-- The same output is planned. -/
theorem planOutput_relisted (h : files.Relisted other) :
    planOutput config other = planOutput config files := by
  funext planned output
  have hexisting : readExisting other output.path = readExisting files output.path := by
    rw [readExisting, readExisting, h.readText]
  rw [planOutput, planOutput, hexisting]

/-- The plan is the same, with the same events, or fails with the same fault. -/
theorem plan_relisted (h : files.Relisted other) (config : Config) :
    plan config other = plan config files := by
  simp only [plan, loadSchemas_relisted h, loadTemplate_relisted h, planOutput_relisted h,
    h.readText]

/-- A file is written in its directory to both file systems, with the same outcome. -/
theorem writeFile_relisted (h : files.Relisted other) (path content : String) :
    (writeFile files path content).1.Relisted (writeFile other path content).1 ∧
      (writeFile other path content).2 = (writeFile files path content).2 := by
  have hwrite : ∀ {made otherMade : FileSystem}, made.Relisted otherMade →
      (writeFile.write path content made).1.Relisted (writeFile.write path content otherMade).1 ∧
        (writeFile.write path content otherMade).2 = (writeFile.write path content made).2 := by
    intro made otherMade hmade
    rw [writeFile.write, writeFile.write]
    rcases hmade.write path (.text content) with ⟨fault, hfiles, hother⟩ |
      ⟨written, otherWritten, hfiles, hother, hwritten⟩
    · rw [hfiles, hother]
      exact ⟨hmade, rfl⟩
    · rw [hfiles, hother]
      exact ⟨hwritten, rfl⟩
  rw [writeFile, writeFile]
  cases Path.parent? path with
  | none => exact hwrite h
  | some parent =>
      obtain ⟨made, otherMade, result, hfiles, hother, hmade⟩ :=
        Relisted.exists_result (h.makeDirectories parent)
      simp only [hfiles, hother]
      cases result with
      | error fault => exact ⟨hmade, rfl⟩
      | ok => exact hwrite hmade

/-- Planned files are written to both file systems, with the same report or the same fault. -/
theorem writeAll_relisted (h : files.Relisted other) (dryRun : Bool) (planned : List PlannedFile)
    (report : Report) :
    (writeAll dryRun planned files report).1.Relisted (writeAll dryRun planned other report).1 ∧
      (writeAll dryRun planned other report).2 = (writeAll dryRun planned files report).2 := by
  induction planned generalizing files other report with
  | nil => exact ⟨h, rfl⟩
  | cons file rest ih =>
      cases hchanged : file.changed with
      | false =>
          obtain ⟨hrest, hreport⟩ :=
            ih h { report with unchanged := report.unchanged ++ [file.path] }
          simp only [writeAll_unchanged hchanged, hreport]
          exact ⟨hrest, trivial⟩
      | true =>
          cases dryRun with
          | true =>
              obtain ⟨hrest, hreport⟩ :=
                ih h { report with written := report.written ++ [file.path] }
              simp only [writeAll_listed hchanged, hreport]
              exact ⟨hrest, trivial⟩
          | false =>
              obtain ⟨written, otherWritten, result, hfiles, hother, hwritten⟩ :=
                Relisted.exists_result (writeFile_relisted h file.path file.content)
              cases result with
              | error fault =>
                  rw [writeAll_refused hchanged hfiles, writeAll_refused hchanged hother]
                  exact ⟨hwritten, rfl⟩
              | ok =>
                  obtain ⟨hrest, hreport⟩ :=
                    ih hwritten { report with written := report.written ++ [file.path] }
                  simp only [writeAll_written hchanged hfiles, writeAll_written hchanged hother,
                    hreport]
                  exact ⟨hrest, trivial⟩

/-- A run has the same outcome on both file systems, with the same events, and leaves them as much
alike as they were. -/
theorem run_relisted (h : files.Relisted other) (config : Config) (dryRun : Bool) :
    (run config dryRun files).1.Relisted (run config dryRun other).1 ∧
      (run config dryRun other).2 = (run config dryRun files).2 := by
  simp only [run, plan_relisted h]
  cases (plan config files).result with
  | error fault => exact ⟨h, rfl⟩
  | ok found =>
      obtain ⟨hwritten, hreport⟩ :=
        writeAll_relisted h dryRun found.files ⟨found.schemas, [], []⟩
      exact ⟨hwritten, by simp [hreport]⟩

/-- A schema that cannot be loaded ends the plan. -/
theorem plan_of_loadSchemas {fault : Fault}
    (h : (loadSchemas files config.definitionsDir).result = .error fault) :
    (plan config files).result = .error fault := by
  simp only [plan, Traced.result_bind, h]
  rfl

/-- The schema files of a directory are exactly the files among its entries whose names end so and
whose paths are not too long, in the order of the bytes of their names. File systems that differ at
most in the order of listings have the same ones. On both, the same schemas are loaded up to the
same fault, the plan is the same, and so are the events and the outcome of a run, which leaves the
file systems as much alike as they were. -/
theorem listing_exact (hdirectory : files.find directory = .ok (.directory entries))
    (hnames : (entries.map (·.1)).Nodup)
    (hentries : ∀ entry ∈ entries, '/' ∉ entry.1 ∧ files.isLongName entry.1 = false) :
    (∃ listed : List FileName,
      listDefinitions files directory =
        .ok (listed.map fun name => Path.join directory (.ofList name)) ∧
      (∀ name, name ∈ listed ↔
        EndsAsDefinition name ∧ (∃ content, (name, .file content) ∈ entries) ∧
          files.isLongPath (Path.join directory (.ofList name)) = false) ∧
      listed.Pairwise fun left right => Text.bytes left < Text.bytes right) ∧
    ∀ other, files.Relisted other →
      listDefinitions other directory = listDefinitions files directory ∧
      ∀ config, loadSchemas other config.definitionsDir = loadSchemas files config.definitionsDir ∧
        plan config other = plan config files ∧
        ∀ dryRun, (run config dryRun other).2 = (run config dryRun files).2 ∧
          (run config dryRun files).1.Relisted (run config dryRun other).1 := by
  refine ⟨⟨definitionNames files directory (entries.map (·.1)), listDefinitions_of_find hdirectory,
    mem_definitionNames hdirectory hnames hentries, definitionNames_bytes files directory hnames⟩,
    fun other h => ⟨listDefinitions_relisted h directory, fun config =>
      ⟨loadSchemas_relisted h config.definitionsDir, plan_relisted h config, fun dryRun => ?_⟩⟩⟩
  obtain ⟨hafter, houtcome⟩ := run_relisted h config dryRun
  exact ⟨houtcome, hafter⟩

/-- What a directory holds: two schemas that cannot be read, the later one first, and entries that
are no schema files. -/
def brokenEntries : List (FileName × Tree) :=
  [textEntry "b.yaml" "rest_endpoint: /yard\n", textEntry ".yaml" "", textEntry "c.YAML" "",
    ("d.yaml".toList, .directory []), textEntry "a.yml" "name: Depot\n"]

/-- A project with these schemas. -/
def brokenFiles : FileSystem where
  tree := .directory [("gen".toList, .directory
    [("definitions".toList, .directory brokenEntries)])]
  working := []
  limits := some ⟨255, 4096⟩

/-- A plan of this project stops at the schema that comes first by name. -/
theorem broken_plan (h : listDefinitions brokenFiles "gen/definitions" =
      .ok ["gen/definitions/a.yml", "gen/definitions/b.yaml"]) :
    (plan .default brokenFiles).result =
      .error (.unreadableSchema "gen/definitions/a.yml" (.missingField "rest_endpoint")) := by
  have hschema : loadSchema brokenFiles "gen/definitions/a.yml" =
      .error (.unreadableSchema "gen/definitions/a.yml" (.missingField "rest_endpoint")) := by
    have hfault : (match loadSchema brokenFiles "gen/definitions/a.yml" with
        | .ok _ => none
        | .error fault => some fault) =
        some (.unreadableSchema "gen/definitions/a.yml" (.missingField "rest_endpoint")) := by
      decide +kernel
    split at hfault
    · cases hfault
    · next fault hload => rw [hload, Option.some.inj hfault]
  have hreported : (loadReported brokenFiles "gen/definitions/a.yml").result =
      .error (.unreadableSchema "gen/definitions/a.yml" (.missingField "rest_endpoint")) := by
    rw [loadReported, Traced.result_bind, Traced.result_of, hschema]
    rfl
  refine plan_of_loadSchemas ?_
  rw [loadSchemas, Traced.result_bind, Traced.result_of, Config.default, h]
  simp only [bind, Except.bind, Traced.result_mapM, List.mapM_cons, hreported]

/-- Where the directory lists its entries the other way round, it has the same schema files in the
same order, and a run stops at the same one. -/
theorem listing_exact_broken :
    let other := brokenFiles.put ["gen".toList, "definitions".toList]
      (.directory brokenEntries.reverse)
    let fault := Fault.unreadableSchema "gen/definitions/a.yml" (.missingField "rest_endpoint")
    brokenFiles.find "gen/definitions" = .ok (.directory brokenEntries) ∧
      (brokenEntries.map (·.1)).Nodup ∧
      (∀ entry ∈ brokenEntries, '/' ∉ entry.1 ∧ brokenFiles.isLongName entry.1 = false) ∧
      brokenFiles.Relisted other ∧
      other.list "gen/definitions" = .ok (brokenEntries.map (·.1)).reverse ∧
      listDefinitions other "gen/definitions" =
        .ok ["gen/definitions/a.yml", "gen/definitions/b.yaml"] ∧
      (plan .default other).result = .error fault ∧
      ∀ dryRun, (run .default dryRun other).2.result = .error fault := by
  intro other fault
  have hfind : brokenFiles.find "gen/definitions" = .ok (.directory brokenEntries) :=
    FileSystem.find_ok_iff.2 ⟨["gen".toList, "definitions".toList], by decide, rfl⟩
  have hnames : (brokenEntries.map (·.1)).Nodup := by decide
  have hentries : ∀ entry ∈ brokenEntries,
      '/' ∉ entry.1 ∧ brokenFiles.isLongName entry.1 = false := by
    decide
  have hother : brokenFiles.Relisted other :=
    FileSystem.relisted_put rfl hnames (List.reverse_perm _)
  obtain ⟨⟨listed, hlisted, hmem, hascending⟩, hsame⟩ := listing_exact hfind hnames hentries
  obtain ⟨hdefinitions, hruns⟩ := hsame other hother
  obtain ⟨-, hplan, hrun⟩ := hruns .default
  have hfiles : listed = ["a.yml".toList, "b.yaml".toList] := by
    refine eq_of_bytes hascending (by decide) fun name => ?_
    rw [hmem, ← isDefinitionName_iff]
    constructor
    · rintro ⟨hends, ⟨content, hcontent⟩, -⟩
      have hone : ∀ entry ∈ brokenEntries, isDefinitionName entry.1 = true →
          entry.1 ∈ ["a.yml".toList, "b.yaml".toList] ∨ entry.2.kind = .directory := by
        decide
      exact (hone _ hcontent hends).resolve_right (by simp [Tree.kind])
    · intro hname
      rcases List.mem_pair.1 hname with rfl | rfl
      · exact ⟨by decide, ⟨_, by simp [brokenEntries, textEntry]; rfl⟩, by decide⟩
      · exact ⟨by decide, ⟨_, by simp [brokenEntries, textEntry]; rfl⟩, by decide⟩
  have hpaths : listDefinitions brokenFiles "gen/definitions" =
      .ok ["gen/definitions/a.yml", "gen/definitions/b.yaml"] := by
    rw [hlisted, hfiles]
    decide +kernel
  have hfault : (plan .default brokenFiles).result = .error fault := broken_plan hpaths
  refine ⟨hfind, hnames, hentries, hother, by decide +kernel, hdefinitions.trans hpaths,
    by rw [hplan, hfault], fun dryRun => ?_⟩
  rw [(hrun dryRun).1]
  simp only [run, hfault]

section

variable {path : String}

/-- A directory and a relative path have no more bytes than the path joined from them. -/
theorem size_join (h : Path.isAbsolute path = false) (base : String) :
    base.utf8ByteSize + path.utf8ByteSize ≤ (Path.join base path).utf8ByteSize := by
  rw [Path.join, h]
  simp only [Bool.false_eq_true, if_false]
  split
  · next hbase =>
      have hempty : base = "" := by simpa using hbase
      simp [hempty]
  · rw [String.utf8ByteSize_append]
  · simp only [String.utf8ByteSize_append]
    omega

/-- A relative path after a step that goes nowhere has two bytes more, and one segment more. -/
theorem join_dot (h : Path.isAbsolute path = false) :
    Path.isAbsolute (Path.join "." path) = false ∧
      (Path.join "." path).utf8ByteSize = path.utf8ByteSize + 2 ∧
      Path.segments (Path.join "." path) = ['.'] :: Path.segments path := by
  have hjoin : Path.join "." path = "./" ++ path := by
    simp [Path.join, h]
  obtain ⟨habsolute, hbody⟩ := @Path.body_append "./" (by decide) path
  have hpath : Path.body path = path.toList := by simp [Path.body, h]
  rw [hjoin]
  refine ⟨habsolute, by rw [String.utf8ByteSize_append]; exact Nat.add_comm _ _, ?_⟩
  rw [Path.segments, Path.segments, hbody, hpath]
  exact Text.pieces_separator rfl ['.'] path.toList

/-- A relative path leads to the same after a step that goes nowhere, unless it is too long then. -/
theorem locate_dot (h : Path.isAbsolute path = false) (hne : path ≠ "")
    (hworking : files.hasDirectory files.working = true)
    (hshort : files.isLongPath (Path.join "." path) = false) :
    files.isLongPath path = false ∧ files.locate (Path.join "." path) = files.locate path := by
  obtain ⟨habsolute, hsize, hsegments⟩ := join_dot h
  have hpath : files.isLongPath path = false := by
    rw [FileSystem.isLongPath, hsize] at hshort
    rw [FileSystem.isLongPath]
    cases hlimits : files.limits with
    | none => rfl
    | some limits =>
        simp only [hlimits, Option.any_some, decide_eq_false_iff_not] at hshort ⊢
        omega
  have hdotted : Path.join "." path ≠ "" := fun heq => by
    simp [heq] at hsize
  have hstart : files.start path = files.working := by simp [FileSystem.start, h]
  have hstep : files.step files.working ['.'] = .ok files.working :=
    FileSystem.step_ok_iff.2
      ⟨FileSystem.hasDirectory_iff.1 hworking, rfl, fun hidle => by cases hidle⟩
  refine ⟨hpath, ?_⟩
  rw [FileSystem.locate, FileSystem.locate, hshort, hpath, if_neg hdotted, if_neg hne, hsegments,
    FileSystem.start, habsolute, hstart, List.foldlM_cons]
  simp only [Bool.false_eq_true, if_false, hstep]
  rfl

/-- A relative path leads to the same after steps that go nowhere, unless it is too long then. -/
theorem locate_dots (h : Path.isAbsolute path = false) (hne : path ≠ "")
    (hworking : files.hasDirectory files.working = true) (count : Nat) :
    Path.isAbsolute ((Path.join ".")^[count] path) = false ∧
      ((Path.join ".")^[count] path).utf8ByteSize = path.utf8ByteSize + 2 * count ∧
      (files.isLongPath ((Path.join ".")^[count] path) = false →
        files.locate ((Path.join ".")^[count] path) = files.locate path) := by
  induction count with
  | zero => exact ⟨h, rfl, fun _ => rfl⟩
  | succ count ih =>
      obtain ⟨hbefore, hsize, hlocate⟩ := ih
      obtain ⟨habsolute, hnext, -⟩ := join_dot hbefore
      have hdotted : (Path.join ".")^[count] path ≠ "" := by
        rw [ne_eq, ← String.utf8ByteSize_eq_zero_iff] at hne ⊢
        omega
      rw [Function.iterate_succ_apply']
      refine ⟨habsolute, by omega, fun hshort => ?_⟩
      obtain ⟨hless, hsame⟩ := locate_dot hbefore hdotted hworking hshort
      rw [hsame, hlocate hless]

end

/-- A directory holds no schema file where the paths of all its entries are too long. -/
theorem listDefinitions_long (hdirectory : files.find directory = .ok (.directory entries))
    (hnames : (entries.map (·.1)).Nodup)
    (hentries : ∀ entry ∈ entries, '/' ∉ entry.1 ∧ files.isLongName entry.1 = false)
    (hlong : ∀ entry ∈ entries, files.isLongPath (Path.join directory (.ofList entry.1)) = true) :
    listDefinitions files directory = .ok [] := by
  have hnone : definitionNames files directory (entries.map (·.1)) = [] := by
    rw [List.eq_nil_iff_forall_not_mem]
    intro name hname
    obtain ⟨-, ⟨content, hcontent⟩, hpath⟩ :=
      (mem_definitionNames hdirectory hnames hentries name).1 hname
    rw [hlong _ hcontent] at hpath
    cases hpath
  rw [listDefinitions_of_find hdirectory, hnone, List.map_nil]

/-- A project with one schema, where paths are limited. -/
def limitedFiles : FileSystem where
  tree := .directory [("gen".toList, .directory [("definitions".toList, .directory
    [textEntry "site.yaml" "name: Site\nrest_endpoint: /site\n"])])]
  working := []
  limits := some ⟨255, 4096⟩

/-- The directory of its schema after so many steps that go nowhere is found, and holds no schema
file, if its own path just fits. The number stays open, as no proof should take each step. -/
theorem limited_dots {count : Nat} (hfits : 2 * count + 15 < 4096)
    (hlong : 4096 ≤ 2 * count + 24) :
    limitedFiles.find ((Path.join ".")^[count] "gen/definitions") =
        .ok (.directory [textEntry "site.yaml" "name: Site\nrest_endpoint: /site\n"]) ∧
      listDefinitions limitedFiles ((Path.join ".")^[count] "gen/definitions") = .ok [] := by
  obtain ⟨-, hsize, hlocate⟩ :=
    @locate_dots limitedFiles "gen/definitions" (by decide) (by decide) (by decide) count
  generalize (Path.join ".")^[count] "gen/definitions" = directory at hsize hlocate ⊢
  have hbase : "gen/definitions".utf8ByteSize = 15 := rfl
  have hname : "site.yaml".utf8ByteSize = 9 := rfl
  have hshort : limitedFiles.isLongPath directory = false := by
    simp only [FileSystem.isLongPath, limitedFiles, Option.any_some, decide_eq_false_iff_not]
    omega
  have hfind : limitedFiles.find directory =
      .ok (.directory [textEntry "site.yaml" "name: Site\nrest_endpoint: /site\n"]) :=
    FileSystem.find_ok_iff.2
      ⟨["gen".toList, "definitions".toList], (hlocate hshort).trans (by decide), rfl⟩
  refine ⟨hfind, listDefinitions_long hfind (by decide) (by decide) fun entry hentry => ?_⟩
  obtain rfl := List.mem_singleton.1 hentry
  have hle := @size_join "site.yaml" rfl directory
  simp only [textEntry, String.ofList_toList, FileSystem.isLongPath, limitedFiles, Option.any_some,
    decide_eq_true_eq]
  omega

/-- A file whose name ends as that of a schema file is left out, where its path is too long. -/
theorem long_path_left_out :
    let directory := (Path.join ".")^[2038] "gen/definitions"
    limitedFiles.find directory =
        .ok (.directory [textEntry "site.yaml" "name: Site\nrest_endpoint: /site\n"]) ∧
      EndsAsDefinition "site.yaml".toList ∧ listDefinitions limitedFiles directory = .ok [] := by
  obtain ⟨hfind, hnone⟩ := @limited_dots 2038 (by decide) (by decide)
  exact ⟨hfind, isDefinitionName_iff.1 (by decide), hnone⟩

end Stencil.Project
