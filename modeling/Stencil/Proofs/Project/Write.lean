import Stencil.Proofs.FileSystem.Directory
import Stencil.Project.Run

/-!
# Writing planned files

Writing a file succeeds when nothing stands in its way (`writeFile_clear`), and then nothing stands
in the way of a file elsewhere that did not before. So all of a list of files can be written one
after the other if none is at or below the place of another (`writeAll_ready`).
-/

namespace Stencil.Project

variable {files : FileSystem} {path : String}

/-- A file is written with its directories where nothing stands in its way. -/
theorem writeFile_clear (hpath : Path.NamesEntry path) (hlimits : files.limits = none)
    (hstart : files.entryAt? (files.start path) = some .directory)
    (hclear : files.Clear (files.placeOf path)) (content : String) :
    ∃ written, writeFile files path content = (written, .ok ()) ∧
      files.Written (files.placeOf path) (.text content) written := by
  obtain ⟨front, name, hsegments, hname⟩ := hpath.last
  have hplace := FileSystem.placeOf_name hsegments hname files
  have hbelow : ¬ files.placeOf path <+: files.start path ++ Path.names front := fun hprefix =>
    absurd hprefix.length_le (by simp [hplace])
  have hpassable : files.Passable (files.start path ++ Path.names front) :=
    (hplace ▸ hclear).passable
  obtain ⟨parent, made, hparent, hmade, hchanges⟩ :=
    FileSystem.makeDirectories_parent hpath hsegments hname hlimits hstart hpassable
  have hstart' := FileSystem.start_congr hchanges.working path
  have hsame := FileSystem.placeOf_congr hchanges.working path
  obtain ⟨written, hwrite, hwritten⟩ := FileSystem.write_file hpath hsegments hname
    (hchanges.limits.trans hlimits) (by simp [hstart', hchanges.entry])
    (by rw [hsame, hchanges.entry, if_neg hbelow]; exact hclear.here) (.text content)
  refine ⟨written, by simp [writeFile, writeFile.write, hparent, hmade, hwrite, pure, Except.pure],
    hwritten.working.trans hchanges.working, hwritten.limits.trans hchanges.limits, ?_⟩
  intro other
  rw [hwritten.entry, hsame, hchanges.entry]
  by_cases hother : other <+: files.start path ++ Path.names front
  · have habove : other <+: files.placeOf path :=
      hplace ▸ hother.trans (List.prefix_append _ _)
    simp [habove]
  · simp [hother]

/-- Neither place is at or below the other. -/
def Apart (left right : List FileName) : Prop :=
  ¬ left <+: right ∧ ¬ right <+: left

/-- What a place apart from a written file holds is as before. -/
theorem entry_of_apart {place other : List FileName} {content : Content} {written : FileSystem}
    (h : files.Written place content written) (hapart : Apart place other) :
    written.entryAt? other = files.entryAt? other := by
  have hne : other ≠ place := fun heq => hapart.1 (heq ▸ List.prefix_refl _)
  rw [h.entry, if_neg hne, if_neg hapart.2]

/-- Writing a file does not get in the way of a file apart from it. -/
theorem clear_of_apart {place other : List FileName} {content : Content} {written : FileSystem}
    (h : files.Written place content written) (hapart : Apart place other)
    (hclear : files.Clear other) : written.Clear other where
  here := by rw [entry_of_apart h hapart]; exact hclear.here
  above above habove hne found := by
    have hother : above ≠ place := fun heq => hapart.1 (heq ▸ habove)
    rw [h.entry, if_neg hother]
    split
    · simp
    · exact hclear.above above habove hne found

/-- A directory is still one after a file has been written. -/
theorem directory_kept {place other : List FileName} {content : Content} {written : FileSystem}
    (h : files.Written place content written) (hhere : files.entryAt? place ≠ some .directory)
    (hother : files.entryAt? other = some .directory) :
    written.entryAt? other = some .directory := by
  have hne : other ≠ place := fun heq => hhere (heq ▸ hother)
  rw [h.entry, if_neg hne, hother, ite_self]

/-- What makes it possible to write planned files: each has a place of its own that nothing stands
in the way of, and those that have not changed hold their content. -/
structure Ready (files : FileSystem) (planned : List PlannedFile) : Prop where
  names : ∀ file ∈ planned, Path.NamesEntry file.path
  starts : ∀ file ∈ planned, files.entryAt? (files.start file.path) = some .directory
  clear : ∀ file ∈ planned, files.Clear (files.placeOf file.path)
  kept : ∀ file ∈ planned, file.changed = false →
    files.entryAt? (files.placeOf file.path) = some (.file (.text file.content))
  apart : planned.Pairwise fun left right =>
    Apart (files.placeOf left.path) (files.placeOf right.path)

/-- Every planned file is there with the directories that it lies in, and all else is as before. -/
structure Complete (files : FileSystem) (planned : List PlannedFile) (after : FileSystem) :
    Prop where
  working : after.working = files.working
  limits : after.limits = files.limits
  content : ∀ file ∈ planned,
    after.entryAt? (files.placeOf file.path) = some (.file (.text file.content))
  above : ∀ file ∈ planned, file.changed = true → ∀ above, above <+: files.placeOf file.path →
    above ≠ files.placeOf file.path → after.entryAt? above = some .directory
  rest : ∀ other, (∀ file ∈ planned, file.changed = true →
    ¬ other <+: files.placeOf file.path) → after.entryAt? other = files.entryAt? other

/-- The paths of the planned files that have changed, or of those that have not. -/
def pathsOf (changed : Bool) (planned : List PlannedFile) : List String :=
  (planned.filter (·.changed == changed)).map (·.path)

/-- The paths of a list that begins with a planned file. -/
theorem pathsOf_cons (changed : Bool) (file : PlannedFile) (rest : List PlannedFile) :
    pathsOf changed (file :: rest) =
      if file.changed = changed then file.path :: pathsOf changed rest
      else pathsOf changed rest := by
  by_cases h : file.changed = changed <;> simp [pathsOf, h]

/-- An event before an outcome does not change its result. -/
theorem result_after (event : Log.Event) (outcome : Traced α) :
    (do Traced.report event; outcome).result = outcome.result :=
  rfl

section Step

variable {file : PlannedFile} {rest : List PlannedFile} {report : Report}

/-- A file that holds its content already is listed as unchanged. -/
theorem writeAll_unchanged (hchanged : file.changed = false) (dryRun : Bool) (files : FileSystem) :
    writeAll dryRun (file :: rest) files report =
      let outcome :=
        writeAll dryRun rest files { report with unchanged := report.unchanged ++ [file.path] }
      (outcome.1, do Traced.report (.upToDate file.path); outcome.2) := by
  rw [writeAll, hchanged]
  rfl

/-- A dry run lists a file that has changed as written. -/
theorem writeAll_listed (hchanged : file.changed = true) (files : FileSystem) :
    writeAll true (file :: rest) files report =
      let outcome :=
        writeAll true rest files { report with written := report.written ++ [file.path] }
      (outcome.1, do Traced.report (.wouldWrite file.path); outcome.2) := by
  rw [writeAll, hchanged]
  rfl

/-- A file that has changed and can be written is written before the others. -/
theorem writeAll_written {written : FileSystem} (hchanged : file.changed = true)
    (hwrite : writeFile files file.path file.content = (written, .ok ())) :
    writeAll false (file :: rest) files report =
      let outcome :=
        writeAll false rest written { report with written := report.written ++ [file.path] }
      (outcome.1, do Traced.report (.wrote file.path); outcome.2) := by
  rw [writeAll, hchanged, hwrite]
  rfl

/-- A file that has changed and cannot be written ends the run. -/
theorem writeAll_refused {written : FileSystem} {fault : Fault} (hchanged : file.changed = true)
    (hwrite : writeFile files file.path file.content = (written, .error fault)) :
    writeAll false (file :: rest) files report = (written, Traced.of (throw fault)) := by
  rw [writeAll, hchanged, hwrite]
  rfl

end Step

/-- A dry run changes nothing and lists what it would write. -/
theorem writeAll_dry (planned : List PlannedFile) (files : FileSystem) (report : Report) :
    (writeAll true planned files report).1 = files ∧
      (writeAll true planned files report).2.result = .ok
        ⟨report.schemas, report.written ++ pathsOf true planned,
          report.unchanged ++ pathsOf false planned⟩ := by
  induction planned generalizing report with
  | nil => simp [writeAll, pathsOf]
  | cons file rest ih =>
      cases hchanged : file.changed with
      | true =>
          obtain ⟨hfiles, hresult⟩ := ih { report with written := report.written ++ [file.path] }
          simp only [writeAll_listed hchanged, result_after, hresult]
          exact ⟨hfiles, by simp [pathsOf_cons, hchanged]⟩
      | false =>
          obtain ⟨hfiles, hresult⟩ :=
            ih { report with unchanged := report.unchanged ++ [file.path] }
          simp only [writeAll_unchanged hchanged, result_after, hresult]
          exact ⟨hfiles, by simp [pathsOf_cons, hchanged]⟩

/-- Nothing needs to be written where nothing is planned. -/
theorem complete_nil (files : FileSystem) : Complete files [] files where
  working := rfl
  limits := rfl
  content := by simp
  above := by simp
  rest _ _ := rfl

/-- The files planned after the first can be written. -/
theorem Ready.tail {file : PlannedFile} {rest : List PlannedFile}
    (h : Ready files (file :: rest)) : Ready files rest where
  names other hother := h.names other (List.mem_cons_of_mem _ hother)
  starts other hother := h.starts other (List.mem_cons_of_mem _ hother)
  clear other hother := h.clear other (List.mem_cons_of_mem _ hother)
  kept other hother := h.kept other (List.mem_cons_of_mem _ hother)
  apart := (List.pairwise_cons.1 h.apart).2

/-- The files planned after one that has been written can be written. -/
theorem Ready.written {file : PlannedFile} {rest : List PlannedFile} {written : FileSystem}
    (h : Ready files (file :: rest))
    (hwritten : files.Written (files.placeOf file.path) (.text file.content) written) :
    Ready written rest := by
  have hplace := FileSystem.placeOf_congr hwritten.working
  have hapart := (List.pairwise_cons.1 h.apart).1
  refine ⟨h.tail.names, ?_, ?_, ?_, by simpa only [hplace] using h.tail.apart⟩
  · intro other hother
    rw [FileSystem.start_congr hwritten.working]
    exact directory_kept hwritten (h.clear file List.mem_cons_self).here
      (h.tail.starts other hother)
  · intro other hother
    rw [hplace]
    exact clear_of_apart hwritten (hapart other hother) (h.tail.clear other hother)
  · intro other hother hchanged
    rw [hplace, entry_of_apart hwritten (hapart other hother)]
    exact h.tail.kept other hother hchanged

/-- A file that has not changed is complete without being written. -/
theorem Complete.keep {file : PlannedFile} {rest : List PlannedFile} {after : FileSystem}
    (hready : Ready files (file :: rest)) (hchanged : file.changed = false)
    (h : Complete files rest after) : Complete files (file :: rest) after where
  working := h.working
  limits := h.limits
  content := by
    intro other hother
    rcases List.mem_cons.1 hother with rfl | hother
    · have hapart := (List.pairwise_cons.1 hready.apart).1
      rw [h.rest]
      · exact hready.kept other List.mem_cons_self hchanged
      · exact fun below hbelow _ => (hapart below hbelow).1
    · exact h.content other hother
  above := by
    intro other hother hwritten
    rcases List.mem_cons.1 hother with rfl | hother
    · rw [hchanged] at hwritten
      cases hwritten
    · exact h.above other hother hwritten
  rest := fun other hother => h.rest other fun below hbelow =>
    hother below (List.mem_cons_of_mem _ hbelow)

/-- A file that has been written is complete when those after it are. -/
theorem Complete.write {file : PlannedFile} {rest : List PlannedFile} {written after : FileSystem}
    (hready : Ready files (file :: rest)) (hchanged : file.changed = true)
    (hwritten : files.Written (files.placeOf file.path) (.text file.content) written)
    (h : Complete written rest after) : Complete files (file :: rest) after := by
  have hplace := FileSystem.placeOf_congr hwritten.working
  have hapart := (List.pairwise_cons.1 hready.apart).1
  refine ⟨h.working.trans hwritten.working, h.limits.trans hwritten.limits, ?_, ?_, ?_⟩
  · intro other hother
    rcases List.mem_cons.1 hother with rfl | hother
    · rw [h.rest _ fun below hbelow _ => by rw [hplace]; exact (hapart below hbelow).1,
        hwritten.entry, if_pos rfl]
    · rw [← hplace]
      exact h.content other hother
  · intro other hother hother' above habove hne
    rcases List.mem_cons.1 hother with rfl | hother
    · -- A file written later may lie in the same directory.
      by_cases hlater : ∃ below ∈ rest, below.changed = true ∧ above <+: files.placeOf below.path
      · obtain ⟨below, hbelow, hbelow', hle⟩ := hlater
        refine h.above below hbelow hbelow' above (by rwa [hplace]) fun heq => ?_
        rw [heq, hplace] at habove
        exact (hapart below hbelow).2 habove
      · rw [h.rest above fun below hbelow hbelow' hle =>
            hlater ⟨below, hbelow, hbelow', hplace below.path ▸ hle⟩,
          hwritten.entry, if_neg hne, if_pos habove]
    · exact h.above other hother hother' above (by rwa [hplace]) (by rwa [hplace])
  · intro other hother
    have hfile := hother file List.mem_cons_self hchanged
    have hne : other ≠ files.placeOf file.path := fun heq => hfile (heq ▸ List.prefix_refl _)
    rw [h.rest other fun below hbelow hbelow' hle =>
        hother below (List.mem_cons_of_mem _ hbelow) hbelow' (hplace below.path ▸ hle),
      hwritten.entry, if_neg hne, if_neg hfile]

/-- Planned files that can be written are all written. -/
theorem writeAll_ready {planned : List PlannedFile} (hlimits : files.limits = none)
    (hready : Ready files planned) (report : Report) :
    Complete files planned (writeAll false planned files report).1 ∧
      (writeAll false planned files report).2.result = .ok
        ⟨report.schemas, report.written ++ pathsOf true planned,
          report.unchanged ++ pathsOf false planned⟩ := by
  induction planned generalizing files report with
  | nil => simp [writeAll, pathsOf, complete_nil]
  | cons file rest ih =>
      cases hchanged : file.changed with
      | true =>
          obtain ⟨written, hwrite, hwritten⟩ := writeFile_clear
            (hready.names file List.mem_cons_self) hlimits
            (hready.starts file List.mem_cons_self) (hready.clear file List.mem_cons_self)
            file.content
          obtain ⟨hcomplete, hresult⟩ := ih (hwritten.limits.trans hlimits)
            (hready.written hwritten) { report with written := report.written ++ [file.path] }
          simp only [writeAll_written hchanged hwrite, result_after, hresult]
          exact ⟨hcomplete.write hready hchanged hwritten, by simp [pathsOf_cons, hchanged]⟩
      | false =>
          obtain ⟨hcomplete, hresult⟩ := ih hlimits hready.tail
            { report with unchanged := report.unchanged ++ [file.path] }
          simp only [writeAll_unchanged hchanged, result_after, hresult]
          exact ⟨hcomplete.keep hready hchanged, by simp [pathsOf_cons, hchanged]⟩

end Stencil.Project
