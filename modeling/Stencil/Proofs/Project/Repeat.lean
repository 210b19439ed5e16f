import Mathlib.Data.List.Nodup
import Stencil.Proofs.Project.Reread
import Stencil.Proofs.Project.Run
import Stencil.Proofs.Section.Idempotence

/-!
# A second run

A run that succeeds lets the file system grow by its outputs (`writeAll_carried`), so that the next
run reads the same sources and finds in the place of every output what was planned for it. Each
output is then planned as it is (`Output.PlannedAs.again`), and `run_twice` says that the second run changes
nothing.
-/

namespace Stencil.Project

open FileSystem (destination destination_congr)

variable {config : Config} {files : FileSystem} {path content : String}

/-- A file that is written with its directories is at the place that its path spells out. -/
theorem writeFile_grown {written : FileSystem}
    (h : writeFile files path content = (written, .ok ())) :
    files.Grown [files.destination path] written ∧
      written.locate path = .ok (files.destination path) ∧
      written.entryAt? (files.destination path) = some (.file (.text content)) := by
  have hwrite : ∀ made, writeFile.write path content made = (written, .ok ()) →
      made.write path (.text content) = .ok written := by
    intro made h
    rw [writeFile.write] at h
    split at h
    · next last hlast => rw [hlast, (Prod.mk.inj h).1]
    · cases (Prod.mk.inj h).2
  rw [writeFile] at h
  split at h
  · exact FileSystem.write_grown (hwrite files h)
  · next parent hparent =>
      have hgrown := FileSystem.makeDirectories_grown files parent
      split at h
      · next made hmade =>
          rw [hmade] at hgrown
          rw [← destination_congr hgrown.working]
          obtain ⟨hlast, hlocate, hentry⟩ := FileSystem.write_grown (hwrite made h)
          exact ⟨hgrown.trans hlast, hlocate, hentry⟩
      · cases (Prod.mk.inj h).2

/-- The changed ones among planned files are at the places that their paths spell out, and nothing
else has been written. -/
structure Carried (files : FileSystem) (planned : List PlannedFile) (after : FileSystem) :
    Prop where
  grown : files.Grown ((planned.filter (·.changed)).map (files.destination ·.path)) after
  wrote : ∀ file ∈ planned, file.changed = true →
    after.locate file.path = .ok (files.destination file.path) ∧
      after.entryAt? (files.destination file.path) = some (.file (.text file.content))

/-- Planned files in different places are all written by a run that succeeds. -/
theorem writeAll_carried {planned : List PlannedFile} {report done : Report}
    (hplaces : (planned.map (files.destination ·.path)).Nodup)
    (h : (writeAll false planned files report).2.result = .ok done) :
    Carried files planned (writeAll false planned files report).1 := by
  -- Each file is written to the file system that the files before it have left.
  induction planned generalizing files report with
  | nil => exact ⟨.refl files, by simp⟩
  | cons file rest ih =>
      rw [List.map_cons, List.nodup_cons] at hplaces
      cases hchanged : file.changed with
      | false =>
          simp only [writeAll_unchanged hchanged, result_after] at h ⊢
          obtain ⟨hgrown, hwrote⟩ := ih hplaces.2 h
          refine ⟨by simpa [hchanged] using hgrown, List.forall_mem_cons.2 ⟨?_, hwrote⟩⟩
          simp [hchanged]
      | true =>
          cases hwrite : writeFile files file.path file.content with
          | mk written result =>
              cases result with
              | error fault =>
                  rw [writeAll_refused hchanged hwrite] at h
                  cases h
              | ok =>
                  simp only [writeAll_written hchanged hwrite, result_after] at h ⊢
                  obtain ⟨hgrown, hlocate, hentry⟩ := writeFile_grown hwrite
                  have hplace := destination_congr hgrown.working
                  obtain ⟨hmore, hwrote⟩ := ih (by simpa only [hplace] using hplaces.2) h
                  simp only [hplace] at hmore hwrote
                  refine ⟨by simpa [hchanged] using hgrown.trans hmore,
                    List.forall_mem_cons.2 ⟨fun _ => ⟨hmore.locate hlocate, ?_⟩, hwrote⟩⟩
                  -- Later files are written in other places.
                  rw [hmore.same _ (by simp [hentry]), hentry]
                  exact fun hmem => hplaces.1 ((List.filter_sublist.map _).subset hmem)

/-- Places below one directory are spelled out after one place. -/
theorem destination_join (files : FileSystem) (directory : String) :
    ∃ base, ∀ place, Path.isAbsolute place = false → Shelved (Path.segments place) →
      files.destination (Path.join directory place) = base ++ Path.segments place := by
  obtain ⟨lead, -, hjoin⟩ := Path.segments_join directory
  refine ⟨lead.foldl Path.turn (files.start directory), fun place hrelative hplace => ?_⟩
  obtain ⟨habsolute, hsegments⟩ := hjoin place hrelative
  have hstart : files.start (Path.join directory place) = files.start directory := by
    rw [FileSystem.start, FileSystem.start, habsolute]
  rw [destination, hsegments, List.foldl_append, hstart, Path.turn_names hplace.names]

/-- The planned files are at different places, none of which has the name of a schema file, if the
short names of all schemas are names of entries. -/
theorem places_of_plan
    (hnames : ∀ schemas, (loadSchemas files config.definitionsDir).result = .ok schemas →
      ∀ loaded ∈ schemas, Path.IsName loaded.2.header.tfName.toList)
    {found : Plan} (h : (plan config files).result = .ok found) :
    (found.files.map (files.destination ·.path)).Nodup ∧
      ∀ file ∈ found.files, Foreign (files.destination file.path) := by
  obtain ⟨sources, hsources, -, houtputs, helsewhere⟩ := plan_ok_iff.1 h
  obtain ⟨base, hbase⟩ := destination_join files config.outputDir
  have hplace : ∀ file ∈ found.files, ∃ place, file.path = Path.join config.outputDir place ∧
      Path.isAbsolute place = false ∧ Shelved (Path.segments place) ∧
        Foreign (Path.segments place) := by
    intro file hfile
    obtain ⟨output, houtput, fresh, existing, -, -, rfl⟩ := exists_of_forall₂ houtputs hfile
    exact output_place hsources hnames output houtput
  constructor
  · refine List.pairwise_map.2 (helsewhere.imp_of_mem ?_)
    refine fun {left right} hleft hright hne heq => hne ?_
    obtain ⟨place, hpath, hrelative, hshelved, -⟩ := hplace left hleft
    obtain ⟨other, hother, hrelative', hshelved', -⟩ := hplace right hright
    rw [hpath, hother, hbase place hrelative hshelved, hbase other hrelative' hshelved'] at heq
    rw [hpath, hother]
    exact Path.identity_join hrelative hrelative' (List.append_cancel_left heq)
  · intro file hfile
    obtain ⟨place, hpath, hrelative, hshelved, hforeign⟩ := hplace file hfile
    rw [hpath, hbase place hrelative hshelved]
    exact hforeign.append hshelved.ne_nil base

/-- A planned file that has not changed holds its content. -/
theorem Output.PlannedAs.kept {output : Output} {file : PlannedFile}
    (h : output.PlannedAs config files file) (hchanged : file.changed = false) :
    files.readText file.path = .ok file.content := by
  obtain ⟨fresh, existing, -, hexisting, rfl⟩ := h
  have hsame : existing = some (output.content existing fresh) := by
    simpa [Output.planned] using hchanged
  exact readExisting_some_iff.1 (hexisting.trans (congrArg _ hsame))

/-- Every file that is planned for an output is in its place with its content after a run that has
written those that changed. -/
theorem Carried.read {list : List Output} {planned : List PlannedFile} {after : FileSystem}
    (h : Carried files planned after)
    (houtputs : List.Forall₂ (Output.PlannedAs config files) list planned)
    (hplaces : (planned.map (files.destination ·.path)).Nodup) {file : PlannedFile}
    (hfile : file ∈ planned) :
    after.locate file.path = .ok (files.destination file.path) ∧
      after.readText file.path = .ok file.content := by
  cases hchanged : file.changed with
  | true =>
      obtain ⟨hlocate, hentry⟩ := h.wrote file hfile hchanged
      exact ⟨hlocate, FileSystem.readText_ok_iff.2
        (FileSystem.read_ok_iff.2 ⟨_, hlocate, hentry⟩)⟩
  | false =>
      obtain ⟨output, -, hplanned⟩ := exists_of_forall₂ houtputs hfile
      have hread := hplanned.kept hchanged
      obtain ⟨place, hlocate, hentry⟩ :=
        FileSystem.read_ok_iff.1 (FileSystem.readText_ok_iff.1 hread)
      obtain rfl := FileSystem.destination_of_locate hlocate
      have hafter := h.grown.locate hlocate
      refine ⟨hafter, h.grown.readText hread fun place hplace hmem => ?_⟩
      -- The files that changed are in other places.
      obtain ⟨other, hother, heq⟩ := List.mem_map.1 hmem
      obtain ⟨hother, hchanged'⟩ := List.mem_filter.1 hother
      obtain rfl := Except.ok.inj (hplace.symm.trans hafter)
      obtain rfl := List.inj_on_of_nodup_map hplaces hother hfile heq
      exact absurd hchanged' (by simp [hchanged])

/-- A planned file that holds its content already. -/
def PlannedFile.settled (file : PlannedFile) : PlannedFile :=
  { file with changed := false }

/-- An output is planned as it is once it has been written. Code must not open a section twice for
it, and must not lose all its text. -/
theorem Output.PlannedAs.again {output : Output} {file : PlannedFile} {after : FileSystem}
    (h : output.PlannedAs config files file) (hread : after.readText file.path = .ok file.content)
    (hnames : output.template.kind = .code → ∀ fresh, output.fresh config = .ok fresh →
      (Section.names fresh).Nodup)
    (hleft : output.template.kind = .code → ∀ fresh existing, output.fresh config = .ok fresh →
      readExisting files output.path = .ok existing →
        Section.reconcile existing fresh = "" → fresh = "") :
    output.PlannedAs config after file.settled := by
  obtain ⟨fresh, existing, hfresh, hexisting, rfl⟩ := h
  have hsame : output.content (some (output.content existing fresh)) fresh =
      output.content existing fresh := by
    cases hkind : output.template.kind with
    | document => simp [Output.content, hkind]
    | code =>
        simp only [Output.content, hkind]
        exact Section.reconcile_settles (hnames hkind fresh hfresh)
          (hleft hkind fresh existing hfresh hexisting)
  refine ⟨fresh, some (output.content existing fresh), hfresh, readExisting_some_iff.2 hread, ?_⟩
  simp [PlannedFile.settled, Output.planned, hsame]

/-- Where all planned files hold their content, nothing is written. -/
theorem writeAll_settled {planned : List PlannedFile} (h : ∀ file ∈ planned, file.changed = false)
    (dryRun : Bool) (files : FileSystem) (report : Report) :
    (writeAll dryRun planned files report).1 = files ∧
      (writeAll dryRun planned files report).2.result =
        .ok ⟨report.schemas, report.written, report.unchanged ++ planned.map (·.path)⟩ := by
  induction planned generalizing report with
  | nil => simp [writeAll]
  | cons file rest ih =>
      obtain ⟨hchanged, hrest⟩ := List.forall_mem_cons.1 h
      obtain ⟨hfiles, hresult⟩ :=
        ih hrest { report with unchanged := report.unchanged ++ [file.path] }
      simp only [writeAll_unchanged hchanged, result_after, hresult]
      exact ⟨hfiles, by simp⟩

/-- The plan of a file system to which the planned files have been carried. -/
theorem plan_again {after : FileSystem} {sources : Sources} {found : Plan}
    (hsources : readSources config after = .ok sources)
    (hschemas : found.schemas = sources.schemas.length)
    (houtputs : List.Forall₂ (fun output file => output.PlannedAs config after file.settled)
      (sources.outputs config) found.files)
    (helsewhere : found.files.Pairwise Elsewhere) :
    (plan config after).result = .ok ⟨found.schemas, found.files.map PlannedFile.settled⟩ :=
  plan_ok_iff.2 ⟨sources, hsources, hschemas, List.forall₂_map_right_iff.2 houtputs,
    List.pairwise_map.2 helsewhere⟩

/-- A run carries out the plan that it makes. -/
theorem run_of_plan {found : Plan} (h : (plan config files).result = .ok found) (dryRun : Bool) :
    (run config dryRun files).1 =
        (writeAll dryRun found.files files ⟨found.schemas, [], []⟩).1 ∧
      (run config dryRun files).2.result =
        (writeAll dryRun found.files files ⟨found.schemas, [], []⟩).2.result := by
  simp [run, h]

/-- A run that succeeds has a plan. -/
theorem plan_of_run {dryRun : Bool} {report : Report}
    (h : (run config dryRun files).2.result = .ok report) :
    ∃ found, (plan config files).result = .ok found := by
  cases hplan : (plan config files).result with
  | ok found => exact ⟨found, rfl⟩
  | error fault =>
      simp only [run, hplan] at h
      cases h

/-- The outputs of a run, in order. There are none if its sources cannot be read. -/
def outputs (config : Config) (files : FileSystem) : List Output :=
  match readSources config files with
  | .ok sources => sources.outputs config
  | .error _ => []

/-- A second run is a repetition. After a run that succeeds, the next one succeeds, writes nothing,
finds every planned path unchanged in the order of the plan, and leaves the files as they are,
whatever the outputs held before the first run. The short names of schemas have to be names of
entries, no output may be one of the files that are read as sources, and code must neither open a
section twice nor lose all its text in a merge. Names of entries have no separators. -/
theorem run_twice {report : Report}
    (hlisted : ∀ names, files.list config.definitionsDir = .ok names → ∀ name ∈ names, '/' ∉ name)
    (hnames : ∀ schemas, (loadSchemas files config.definitionsDir).result = .ok schemas →
      ∀ loaded ∈ schemas, Path.IsName loaded.2.header.tfName.toList)
    (hinputs : ∀ output ∈ outputs config files, ∀ path ∈ inputPaths config files,
      (run config false files).1.locate path ≠ (run config false files).1.locate output.path)
    (hsections : ∀ output ∈ outputs config files, output.template.kind = .code →
      ∀ fresh, output.fresh config = .ok fresh → (Section.names fresh).Nodup)
    (hleft : ∀ output ∈ outputs config files, output.template.kind = .code →
      ∀ fresh existing, output.fresh config = .ok fresh →
        readExisting files output.path = .ok existing →
          Section.reconcile existing fresh = "" → fresh = "")
    (hrun : (run config false files).2.result = .ok report) :
    ∃ found, (plan config files).result = .ok found ∧
      (run config false (run config false files).1).1 = (run config false files).1 ∧
      (run config false (run config false files).1).2.result =
        .ok ⟨found.schemas, [], found.files.map (·.path)⟩ := by
  obtain ⟨found, hplan⟩ := plan_of_run hrun
  obtain ⟨sources, hsources, hschemas, houtputs, helsewhere⟩ := plan_ok_iff.1 hplan
  obtain ⟨hplaces, hforeign⟩ := places_of_plan hnames hplan
  obtain ⟨hfiles, hresult⟩ := run_of_plan hplan false
  rw [hresult] at hrun
  rw [hfiles] at hinputs ⊢
  have hcarried := writeAll_carried hplaces hrun
  generalize (writeAll false found.files files ⟨found.schemas, [], []⟩).1 = after at *
  have hlist : outputs config files = sources.outputs config := by rw [outputs, hsources]
  rw [hlist] at hinputs hsections hleft
  have hread : ∀ file ∈ found.files, after.locate file.path = .ok (files.destination file.path) ∧
      after.readText file.path = .ok file.content :=
    fun file hfile => hcarried.read houtputs hplaces hfile
  have hsame : readSources config after = .ok sources := by
    refine readSources_grown hcarried.grown ?_ hlisted ?_ hsources
    · intro place hplace
      obtain ⟨file, hfile, rfl⟩ := List.mem_map.1 hplace
      exact hforeign file (List.mem_of_mem_filter hfile)
    · -- What was written are outputs, and those are no sources.
      intro path hpath place hlocate hplace
      obtain ⟨file, hfile, rfl⟩ := List.mem_map.1 hplace
      have hfile := List.mem_of_mem_filter hfile
      obtain ⟨output, houtput, fresh, existing, -, -, rfl⟩ := exists_of_forall₂ houtputs hfile
      exact hinputs output houtput path hpath (hlocate.trans (hread _ hfile).1.symm)
  -- The sources are the same, so the outputs are; each is planned with the content it now has.
  have hagain : (plan config after).result =
      .ok ⟨found.schemas, found.files.map PlannedFile.settled⟩ := by
    refine plan_again hsame hschemas ?_ helsewhere
    obtain ⟨hlength, hzip⟩ := List.forall₂_iff_zip.1 houtputs
    refine List.forall₂_iff_zip.2 ⟨hlength, fun {output file} hmem => ?_⟩
    obtain ⟨houtput, hfile⟩ := List.of_mem_zip hmem
    exact (hzip hmem).again (hread file hfile).2 (hsections output houtput) (hleft output houtput)
  obtain ⟨hlast, hreport⟩ := run_of_plan hagain false
  have hsettled : ∀ file ∈ found.files.map PlannedFile.settled, file.changed = false := by
    simp [PlannedFile.settled]
  obtain ⟨hfinal, hunchanged⟩ := writeAll_settled hsettled false after ⟨found.schemas, [], []⟩
  refine ⟨found, hplan, hlast.trans hfinal, ?_⟩
  rw [hreport, hunchanged]
  simp [PlannedFile.settled, Function.comp_def]

/-- The project is generated twice. The first run merges the model that has been edited by hand, and
the second one finds all six outputs as they should be. -/
theorem run_twice_site :
    let after := (run .default false siteFiles).1
    after.readText "src/provider/model_site.rs" =
        .ok "mine\n//template:begin a\nnew\n//template:end a\n" ∧
      (run .default false after).1 = after ∧
      (run .default false after).2.result = .ok ⟨1, [],
        ["./src/provider/model_site.rs", "./src/provider/data_source_site.rs",
          "./tests/data_source_site.rs", "./examples/data-sources/site/data-source.tf",
          "./src/provider/mod.rs", "./docs/guides/changelog.md"]⟩ := by
  obtain ⟨-, hplanned, hrun, hmodel⟩ := site_outcome
  obtain ⟨hlist, hinputs, houtputs⟩ :
      siteFiles.list Config.default.definitionsDir = .ok ["site.yaml".toList] ∧
        (∀ output ∈ outputs .default siteFiles, ∀ path ∈ inputPaths .default siteFiles,
          (run .default false siteFiles).1.locate path ≠
            (run .default false siteFiles).1.locate output.path) ∧
        (∀ output ∈ outputs .default siteFiles, ∀ fresh ∈ (output.fresh .default).toOption,
          (Section.names fresh).Nodup ∧ ∀ existing ∈ (readExisting siteFiles output.path).toOption,
            Section.reconcile existing fresh = "" → fresh = "") := by
    decide +kernel
  obtain ⟨report, hreport⟩ := Option.isSome_iff_exists.1 hrun
  rw [toOption_eq_some_iff] at hreport
  have hlisted : ∀ names, siteFiles.list Config.default.definitionsDir = .ok names →
      ∀ name ∈ names, '/' ∉ name := by
    intro names hnames
    obtain rfl := Except.ok.inj (hlist.symm.trans hnames)
    decide
  obtain ⟨found, hfound, hsame, hresult⟩ := run_twice hlisted site_names hinputs
    (fun output houtput _ fresh hfresh =>
      (houtputs output houtput fresh (toOption_eq_some_iff.2 hfresh)).1)
    (fun output houtput _ fresh existing hfresh hexisting =>
      (houtputs output houtput fresh (toOption_eq_some_iff.2 hfresh)).2 existing
        (toOption_eq_some_iff.2 hexisting)) hreport
  rw [hfound] at hplanned
  obtain ⟨hcount, hpaths⟩ := Prod.mk.inj (Option.some.inj hplanned)
  have hschemas : found.schemas = 1 := congrArg Report.schemas hcount
  exact ⟨hmodel, hsame, by rw [hresult, hschemas, hpaths]⟩

end Stencil.Project
