import Stencil.Proofs.Project.Outputs
import Stencil.Proofs.Project.Write

/-!
# What a plan comes to

A plan that succeeds has read the place of every output. So nothing stands in the way of any planned
file, and no two of them are in one place: the files are ready to be written (`ready_of_plan`).
-/

namespace Stencil.Project

variable {config : Config} {files : FileSystem} {absolute : Bool} {lead : List FileName}

/-- The path of an output: a place after segments that all outputs have. -/
structure Placed (absolute : Bool) (lead : List FileName) (path : String) : Prop where
  absolute : Path.isAbsolute path = absolute
  place : ∃ place, Path.segments path = lead ++ place ∧ Shelved place

/-- The path of an output ends in a name and has no steps upwards. -/
theorem Placed.namesEntry {path : String} (h : Placed absolute lead path)
    (hlead : Path.upward ∉ lead) : Path.NamesEntry path := by
  obtain ⟨place, hsegments, hplace⟩ := h.place
  obtain ⟨front, name, rfl⟩ := (List.eq_nil_or_concat place).resolve_left hplace.ne_nil
  rw [List.concat_eq_append] at hsegments hplace
  refine ⟨⟨lead ++ front, name, by rw [hsegments, List.append_assoc], ?_⟩, ?_⟩
  · exact (hplace.names name (by simp)).1
  · rw [hsegments]
    intro hmem
    rcases List.mem_append.1 hmem with hmem | hmem
    · exact hlead hmem
    · exact (hplace.names _ hmem).2 rfl

/-- If one output is at or below another, they have the same place. -/
theorem Placed.identity_eq {left right : String} (hleft : Placed absolute lead left)
    (hright : Placed absolute lead right) (h : files.placeOf left <+: files.placeOf right) :
    Path.identity left = Path.identity right := by
  obtain ⟨leftPlace, hleftSegments, hleftPlace⟩ := hleft.place
  obtain ⟨rightPlace, hrightSegments, hrightPlace⟩ := hright.place
  have hstart : files.start left = files.start right := by
    simp [FileSystem.start, hleft.absolute, hright.absolute]
  have hnames : ∀ place, Shelved place → Path.names place = place := fun place hplace =>
    List.filter_eq_self.2 fun segment hsegment => by simp [(hplace.names segment hsegment).1]
  have hplaces : leftPlace <+: rightPlace := by
    rw [FileSystem.placeOf, FileSystem.placeOf, hstart, hleftSegments, hrightSegments,
      Path.names_append, Path.names_append, hnames _ hleftPlace, hnames _ hrightPlace] at h
    simpa using h
  have hsegments : Path.segments left = Path.segments right := by
    rw [hleftSegments, hrightSegments, hleftPlace.eq_of_prefix hrightPlace hplaces]
  simp [Path.identity, hsegments, hleft.absolute, hright.absolute]

/-- Outputs that are not in one place are apart. -/
theorem Placed.apart {left right : String} (hleft : Placed absolute lead left)
    (hright : Placed absolute lead right) (h : Path.identity left ≠ Path.identity right) :
    Apart (files.placeOf left) (files.placeOf right) :=
  ⟨fun hprefix => h (hleft.identity_eq hright hprefix),
    fun hprefix => h (hright.identity_eq hleft hprefix).symm⟩

/-- What is read at the place of an output leaves room for it. -/
theorem clear_of_existing {path : String} {existing : Option String}
    (hpath : Path.NamesEntry path) (hlimits : files.limits = none)
    (hstart : files.entryAt? (files.start path) = some .directory)
    (h : readExisting files path = .ok existing) :
    files.Clear (files.placeOf path) ∧ ∀ text, existing = some text →
      files.entryAt? (files.placeOf path) = some (.file (.text text)) := by
  rw [readExisting] at h
  split at h
  · next text hread =>
      obtain rfl : some text = existing := Except.ok.inj h
      obtain ⟨hclear, hentry⟩ :=
        FileSystem.clear_of_read hlimits hpath.level hpath.ne_empty hread
      exact ⟨hclear, fun other hother => Option.some.inj hother ▸ hentry⟩
  · next hread =>
      obtain rfl : none = existing := Except.ok.inj h
      have hclear :=
        (FileSystem.clear_of_missing hlimits hpath.level hpath.ne_empty hstart hread).1
      exact ⟨hclear, fun other hother => by cases hother⟩
  · cases h

/-- A place below the output directory is the place of an output. -/
theorem placed_join {place : String}
    (hjoin : ∀ path, Path.isAbsolute path = false →
      Path.isAbsolute (Path.join config.outputDir path) = Path.isAbsolute config.outputDir ∧
        Path.segments (Path.join config.outputDir path) = lead ++ Path.segments path)
    (hrelative : Path.isAbsolute place = false) (hplace : Shelved (Path.segments place)) :
    Placed (Path.isAbsolute config.outputDir) lead (Path.join config.outputDir place) := by
  obtain ⟨habsolute, hsegments⟩ := hjoin place hrelative
  exact ⟨habsolute, Path.segments place, hsegments, hplace⟩

/-- The files of a plan can be written, if the output directory has no steps upwards and the short
names of all schemas are names of entries. -/
theorem ready_of_plan (hlimits : files.limits = none)
    (hworking : files.hasDirectory files.working = true)
    (hlevel : Path.upward ∉ Path.segments config.outputDir)
    (hnames : ∀ schemas, (loadSchemas files config.definitionsDir).result = .ok schemas →
      ∀ loaded ∈ schemas, Path.IsName loaded.2.header.tfName.toList)
    {found : Plan} (h : (plan config files).result = .ok found) : Ready files found.files := by
  obtain ⟨lead, hbase, hjoin⟩ := Path.segments_join config.outputDir
  have hlead : Path.upward ∉ lead := by
    intro hmem
    rcases hbase with hbase | hbase <;> exact hlevel (by simp [hbase, hmem])
  have hdirectory := FileSystem.hasDirectory_iff.1 hworking
  have hstart : ∀ path, files.entryAt? (files.start path) = some .directory := by
    intro path
    rw [FileSystem.start]
    split
    · simpa using (FileSystem.made_self hdirectory).entry []
    · exact hdirectory
  obtain ⟨sources, hsources, -, houtputs, helsewhere⟩ := plan_ok_iff.1 h
  have hplace := output_place hsources hnames
  -- What is in the place of each planned file has been read.
  have hread : ∀ file ∈ found.files, Placed (Path.isAbsolute config.outputDir) lead file.path ∧
      ∃ existing, readExisting files file.path = .ok existing ∧
        (file.changed = false → existing = some file.content) := by
    intro file hfile
    obtain ⟨output, houtput, fresh, existing, -, hexisting, rfl⟩ :=
      exists_of_forall₂ houtputs hfile
    obtain ⟨place, hpath, habsolute, hshelved, -⟩ := hplace output houtput
    refine ⟨?_, existing, hexisting, by simp [Output.planned]⟩
    rw [Output.planned, hpath]
    exact placed_join hjoin habsolute hshelved
  have hclear : ∀ file ∈ found.files, files.Clear (files.placeOf file.path) ∧
      (file.changed = false →
        files.entryAt? (files.placeOf file.path) = some (.file (.text file.content))) := by
    intro file hfile
    obtain ⟨hplaced, existing, hexisting, hkept⟩ := hread file hfile
    obtain ⟨hclear, hentry⟩ :=
      clear_of_existing (hplaced.namesEntry hlead) hlimits (hstart _) hexisting
    exact ⟨hclear, fun hchanged => hentry _ (hkept hchanged)⟩
  refine ⟨fun file hfile => (hread file hfile).1.namesEntry hlead, fun file _ => hstart _,
    fun file hfile => (hclear file hfile).1, fun file hfile => (hclear file hfile).2, ?_⟩
  refine helsewhere.imp_of_mem fun hleft hright hne => ?_
  exact (hread _ hleft).1.apart (hread _ hright).1 hne

end Stencil.Project
