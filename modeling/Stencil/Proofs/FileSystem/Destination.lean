import Stencil.Proofs.FileSystem.Growth
import Stencil.Proofs.FileSystem.Path
import Stencil.Proofs.Outcome

/-!
# Where paths lead

A path that can be followed leads to the place that its segments spell out, steps upwards included
(`locate_ok_iff`), and it leads there still when the file system has grown (`Grown.locate`). Making
directories lets a file system grow whether or not it succeeds (`makeDirectories_grown`), and a
written file is at the place that its path spells out (`write_grown`).
-/

namespace Stencil

/-- The place that one segment leads to from another place. -/
def Path.turn (place : List FileName) (segment : FileName) : List FileName :=
  if isIdle segment then place
  else if segment = upward then place.dropLast
  else place ++ [segment]

/-- A segment that is no step upwards and not idle leads to the entry of that name. -/
theorem Path.turn_name {name : FileName} (hidle : isIdle name = false) (hup : name ≠ upward)
    (place : List FileName) : turn place name = place ++ [name] := by
  simp [turn, hidle, hup]

/-- Names lead to the place that they stand below another place. -/
theorem Path.turn_names {list : List FileName}
    (h : ∀ segment ∈ list, isIdle segment = false ∧ segment ≠ upward) (place : List FileName) :
    list.foldl turn place = place ++ list := by
  induction list generalizing place with
  | nil => simp
  | cons name rest ih =>
      obtain ⟨⟨hidle, hup⟩, hrest⟩ := List.forall_mem_cons.1 h
      rw [List.foldl_cons, turn_name hidle hup, ih hrest, List.append_assoc, List.singleton_append]

namespace FileSystem

/-- The place that the segments of a path spell out. -/
def destination (files : FileSystem) (path : String) : List FileName :=
  (Path.segments path).foldl Path.turn (files.start path)

variable {files after : FileSystem} {written : List (List FileName)} {place found : List FileName}
  {segments : List FileName} {segment name : FileName} {path : String}

/-- The place that a path spells out depends on the working directory alone. -/
theorem destination_congr (h : after.working = files.working) (path : String) :
    after.destination path = files.destination path := by
  rw [destination, destination, start_congr h]

/-- A step succeeds from a directory, and if it leads to an entry, that has to be there. -/
theorem step_ok_iff :
    files.step place segment = .ok found ↔
      files.entryAt? place = some .directory ∧ Path.turn place segment = found ∧
        (Path.isIdle segment = false → segment ≠ Path.upward →
          files.isLongName segment = false ∧ files.entryAt? (place ++ [segment]) ≠ none) := by
  rw [step, ← hasDirectory_iff, hasDirectory]
  cases hplace : files.at? place with
  | none => simp [throw, throwThe, MonadExceptOf.throw]
  | some tree =>
      cases tree with
      | file content => simp [throw, throwThe, MonadExceptOf.throw]
      | directory entries =>
          have hlookup : (entries.lookup segment).isSome =
              (files.entryAt? (place ++ [segment])).isSome :=
            Tree.lookup_isSome hplace segment
          simp only [Path.turn, Path.upward, hlookup, Option.isSome_iff_ne_none]
          -- The checks of a step in their order: idle, upwards, too long, missing.
          cases hidle : Path.isIdle segment <;> by_cases hup : segment = ['.', '.'] <;>
            cases hlong : files.isLongName segment <;>
            by_cases hentry : files.entryAt? (place ++ [segment]) = none <;>
            simp [hup, hentry, pure, Except.pure, throw, throwThe, MonadExceptOf.throw]

/-- Following segments that exist leads to the place that they spell out. -/
theorem walk_ok (h : segments.foldlM files.step place = .ok found) :
    segments.foldl Path.turn place = found := by
  induction segments generalizing place with
  | nil => exact Except.ok.inj h
  | cons segment rest ih =>
      rw [List.foldlM_cons, bind_ok_iff] at h
      obtain ⟨next, hnext, h⟩ := h
      obtain ⟨-, rfl, -⟩ := step_ok_iff.1 hnext
      exact ih h

/-- The last segment is followed from where those before it lead. -/
theorem walk_concat_iff :
    (segments ++ [segment]).foldlM files.step place = .ok found ↔
      ∃ parent, segments.foldlM files.step place = .ok parent ∧
        files.step parent segment = .ok found := by
  rw [List.foldlM_append, bind_ok_iff]
  refine exists_congr fun parent => and_congr_right fun _ => ?_
  rw [List.foldlM_cons, bind_ok_iff]
  simp [pure, Except.pure]

/-- A path is followed if it is not empty, not too long and its segments can be followed. -/
theorem locate_ok_iff :
    files.locate path = .ok place ↔ path ≠ "" ∧ files.isLongPath path = false ∧
      (Path.segments path).foldlM files.step (files.start path) = .ok place := by
  rw [locate]
  by_cases hpath : path = ""
  · simp [hpath, throw, throwThe, MonadExceptOf.throw]
  · cases hlong : files.isLongPath path <;>
      simp [hpath, throw, throwThe, MonadExceptOf.throw]

/-- A path leads to the place that it spells out. -/
theorem destination_of_locate (h : files.locate path = .ok place) :
    files.destination path = place :=
  walk_ok (locate_ok_iff.1 h).2.2

/-- What is at the place that a path leads to is found. -/
theorem find_ok_iff {tree : Tree} :
    files.find path = .ok tree ↔
      ∃ place, files.locate path = .ok place ∧ files.at? place = some tree := by
  rw [find, bind_ok_iff]
  refine exists_congr fun place => and_congr_right fun _ => ?_
  cases files.at? place <;> simp [pure, Except.pure, throw, throwThe, MonadExceptOf.throw]

/-- A file is read at the place that its path leads to. -/
theorem read_ok_iff {content : Content} :
    files.read path = .ok content ↔
      ∃ place, files.locate path = .ok place ∧ files.entryAt? place = some (.file content) := by
  have hfile : files.read path = .ok content ↔ files.find path = .ok (.file content) := by
    rw [read, bind_ok_iff]
    constructor
    · rintro ⟨tree, htree, hcontent⟩
      cases tree with
      | file other => rw [htree, Except.ok.inj hcontent]
      | directory entries => cases hcontent
    · exact fun hfind => ⟨_, hfind, rfl⟩
  simp only [hfile, find_ok_iff, at_file_iff]

/-- A text is read where a file holds it. -/
theorem readText_ok_iff {text : String} :
    files.readText path = .ok text ↔ files.read path = .ok (.text text) := by
  rw [readText, bind_ok_iff]
  constructor
  · rintro ⟨content, hread, htext⟩
    cases content with
    | text other => rw [hread, Except.ok.inj htext]
    | binary bytes => cases htext
  · exact fun hread => ⟨_, hread, rfl⟩

/-- The names of a directory are listed at the place that its path leads to. -/
theorem list_ok_iff {names : List FileName} :
    files.list path = .ok names ↔
      ∃ place, files.locate path = .ok place ∧ files.namesAt? place = some names := by
  simp only [list, bind_ok_iff, find_ok_iff]
  constructor
  · rintro ⟨tree, ⟨place, hplace, htree⟩, hnames⟩
    refine ⟨place, hplace, ?_⟩
    cases tree with
    | file content => cases hnames
    | directory entries =>
        have hat : files.tree.at? place = some (.directory entries) := htree
        simp only [namesAt?, Tree.namesAt?, hat, Except.ok.inj hnames]
  · rintro ⟨place, hplace, hnames⟩
    rw [namesAt?, Tree.namesAt?] at hnames
    split at hnames
    · next entries hat =>
        exact ⟨_, ⟨place, hplace, hat⟩, congrArg Except.ok (Option.some.inj hnames)⟩
    · cases hnames

/-- A path names a file if one is at the place that it leads to. -/
theorem isFile_iff :
    files.isFile path = true ↔ ∃ place content, files.locate path = .ok place ∧
      files.entryAt? place = some (.file content) := by
  have hfind : files.isFile path = true ↔ ∃ content, files.find path = .ok (.file content) := by
    rw [isFile]
    cases files.find path with
    | error fault => simp
    | ok tree => cases tree <;> simp
  simp only [hfind, find_ok_iff, at_file_iff]
  exact exists_comm

/-- The path of an entry of a directory names a file if the entry is one. -/
theorem isFile_join {directory : String} (hdirectory : files.locate directory = .ok place)
    (hname : '/' ∉ name) (hstep : Path.isIdle name = false) (hup : name ≠ Path.upward) :
    files.isFile (Path.join directory (.ofList name)) = true ↔
      files.isLongPath (Path.join directory (.ofList name)) = false ∧
        files.isLongName name = false ∧
        ∃ content, files.entryAt? (place ++ [name]) = some (.file content) := by
  obtain ⟨lead, hlead, hjoin⟩ := Path.segments_join directory
  obtain ⟨-, -, hwalk⟩ := locate_ok_iff.1 hdirectory
  have hrelative : Path.isAbsolute (.ofList name) = false := by
    cases name with
    | nil => rfl
    | cons first rest =>
        have hfirst : first ≠ '/' := fun heq => hname (heq ▸ List.mem_cons_self)
        simpa [Path.isAbsolute] using hfirst
  have hpieces : Path.segments (.ofList name) = [name] := by
    rw [Path.segments, Path.body, hrelative]
    simp only [Bool.false_eq_true, if_false, String.toList_ofList]
    exact Text.pieces_of_notMem hname
  obtain ⟨habsolute, hsegments⟩ := hjoin _ hrelative
  rw [hpieces] at hsegments
  have hstart : files.start (Path.join directory (.ofList name)) = files.start directory := by
    rw [start, start, habsolute]
  have hlead' : lead.foldlM files.step (files.start directory) = .ok place := by
    rcases hlead with hlead | hlead
    · rwa [hlead] at hwalk
    · -- An empty segment leads nowhere new.
      rw [hlead, walk_concat_iff] at hwalk
      obtain ⟨parent, hparent, hidle⟩ := hwalk
      obtain ⟨-, rfl, -⟩ := step_ok_iff.1 hidle
      exact hparent
  have hne : Path.join directory (.ofList name) ≠ "" := Path.ne_empty_of_name hsegments hstep
  simp only [isFile_iff, locate_ok_iff, hsegments, walk_concat_iff, hstart, hlead', step_ok_iff,
    Path.turn_name hstep hup, Except.ok.injEq]
  constructor
  · rintro ⟨found, content, ⟨-, hpath, parent, rfl, -, rfl, hentry⟩, hcontent⟩
    exact ⟨hpath, (hentry hstep hup).1, content, hcontent⟩
  · rintro ⟨hpath, hshort, content, hcontent⟩
    have hexists : files.entryAt? (place ++ [name]) ≠ none := by simp [hcontent]
    exact ⟨_, content, ⟨hne, hpath, place, rfl, entry_above hexists (List.prefix_append _ _)
      (by simp), rfl, fun _ _ => ⟨hshort, hexists⟩⟩, hcontent⟩

/-- Which names are too long does not change. -/
theorem Grown.isLongName (h : files.Grown written after) (name : FileName) :
    after.isLongName name = files.isLongName name := by
  rw [FileSystem.isLongName, FileSystem.isLongName, h.limits]

/-- Which paths are too long does not change. -/
theorem Grown.isLongPath (h : files.Grown written after) (path : String) :
    after.isLongPath path = files.isLongPath path := by
  rw [FileSystem.isLongPath, FileSystem.isLongPath, h.limits]

/-- A step that could be made can be made still. -/
theorem Grown.step (h : files.Grown written after) (hstep : files.step place segment = .ok found) :
    after.step place segment = .ok found := by
  rw [step_ok_iff] at hstep ⊢
  obtain ⟨hplace, hfound, hentry⟩ := hstep
  refine ⟨h.directory hplace, hfound, fun hidle hup => ?_⟩
  obtain ⟨hshort, hexists⟩ := hentry hidle hup
  exact ⟨by rw [h.isLongName, hshort], h.exists hexists⟩

/-- Segments that could be followed can be followed still. -/
theorem Grown.walk (h : files.Grown written after)
    (hwalk : segments.foldlM files.step place = .ok found) :
    segments.foldlM after.step place = .ok found := by
  induction segments generalizing place with
  | nil => exact hwalk
  | cons segment rest ih =>
      rw [List.foldlM_cons, bind_ok_iff] at hwalk
      obtain ⟨next, hnext, hwalk⟩ := hwalk
      rw [List.foldlM_cons, h.step hnext]
      exact ih hwalk

/-- A path leads where it led before. -/
theorem Grown.locate (h : files.Grown written after) (hlocate : files.locate path = .ok place) :
    after.locate path = .ok place := by
  rw [locate_ok_iff] at hlocate ⊢
  obtain ⟨hpath, hshort, hwalk⟩ := hlocate
  exact ⟨hpath, by rw [h.isLongPath, hshort], by rw [start_congr h.working]; exact h.walk hwalk⟩

/-- What is read at a place that was not written is as before. -/
theorem Grown.read (h : files.Grown written after) {content : Content}
    (hread : files.read path = .ok content)
    (hplace : ∀ place, after.locate path = .ok place → place ∉ written) :
    after.read path = .ok content := by
  rw [read_ok_iff] at hread ⊢
  obtain ⟨place, hlocate, hentry⟩ := hread
  have hlocate' := h.locate hlocate
  exact ⟨place, hlocate', by rw [h.same (hplace place hlocate') (by simp [hentry]), hentry]⟩

/-- A text that is read at a place that was not written is as before. -/
theorem Grown.readText (h : files.Grown written after) {text : String}
    (hread : files.readText path = .ok text)
    (hplace : ∀ place, after.locate path = .ok place → place ∉ written) :
    after.readText path = .ok text := by
  rw [readText_ok_iff] at hread ⊢
  exact h.read hread hplace

/-- Whether the path of an entry that was not written names a file does not change. -/
theorem Grown.isFile_join (h : files.Grown written after) {directory : String}
    (hdirectory : files.locate directory = .ok place) (hname : '/' ∉ name)
    (hstep : Path.isIdle name = false) (hup : name ≠ Path.upward)
    (hentry : place ++ [name] ∉ written) :
    after.isFile (Path.join directory (.ofList name)) =
      files.isFile (Path.join directory (.ofList name)) := by
  rw [Bool.eq_iff_iff, FileSystem.isFile_join (h.locate hdirectory) hname hstep hup,
    FileSystem.isFile_join hdirectory hname hstep hup, h.isLongPath, h.isLongName]
  rcases h.kept _ hentry with hsame | ⟨hnone, hnew⟩
  · rw [hsame]
  · simp [hnone, hnew]

/-- An entry can go to a directory under a name: a path ends in the name, and the segments before it
lead to the directory. -/
structure Enters (files : FileSystem) (path : String) (segments : List FileName)
    (place : List FileName) (name : FileName) : Prop where
  path_ne : path ≠ ""
  path_short : files.isLongPath path = false
  last : ∃ front, segments = front ++ [name] ∧
    front.foldlM files.step (files.start path) = .ok place
  directory : files.entryAt? place = some .directory
  step : Path.isIdle name = false
  level : name ≠ Path.upward
  short : files.isLongName name = false

/-- The directory and the name that are found for a new entry. -/
theorem enters_of_locateNew (h : files.locateNew path segments = .ok (place, some name)) :
    files.Enters path segments place name := by
  rw [locateNew] at h
  split at h
  · cases h
  · next hpath =>
      split at h
      · cases h
      · next hshort =>
          simp only [bind_ok_iff] at h
          obtain ⟨directory, hwalk, h⟩ := h
          split at h
          · cases h
          · cases h
          · next entries last hplace hlast =>
              split at h
              · cases h
              · next hstep =>
                  split at h
                  · cases h
                  · next hname =>
                      obtain ⟨rfl, hsome⟩ := Prod.mk.inj (Except.ok.inj h)
                      obtain rfl := Option.some.inj hsome
                      rw [Bool.or_eq_true, not_or, Bool.not_eq_true, decide_eq_true_eq] at hstep
                      exact ⟨hpath, by simpa using hshort,
                        ⟨_, (List.dropLast_append_getLast? last hlast).symm, hwalk⟩,
                        hasDirectory_iff.1 (by rw [hasDirectory, hplace]), hstep.1, hstep.2,
                        by simpa using hname⟩
          · cases h

/-- A new name is one of the segments. -/
theorem Enters.mem (h : files.Enters path segments place name) : name ∈ segments := by
  obtain ⟨front, rfl, -⟩ := h.last
  simp

/-- A segment has no separator. -/
theorem clear_of_mem (h : segment ∈ Path.segments path) : '/' ∉ segment := by
  intro hmem
  have hclear := Text.pieces_clear h '/' hmem
  cases hclear

/-- The segments up to the last step are the first ones. -/
theorem stepSegments_subset (path : String) : stepSegments path ⊆ Path.segments path := by
  rw [stepSegments, ← Path.trim]
  exact (Path.prefix_trim _ _).subset

/-- A directory that is made is a new one. -/
theorem makeDirectory_grown {made : FileSystem} (h : files.makeDirectory path = .ok made) :
    files.Grown [] made := by
  rw [makeDirectory, bind_ok_iff] at h
  obtain ⟨⟨place, last⟩, hnew, h⟩ := h
  cases last with
  | none => cases h
  | some name =>
      have henters := enters_of_locateNew hnew
      cases hold : files.at? (place ++ [name]) with
      | some tree => simp [hold, throw, throwThe, MonadExceptOf.throw] at h
      | none =>
          simp only [hold, Option.isSome_none, Bool.false_eq_true, if_false] at h
          rw [← Except.ok.inj h]
          refine grown_directory henters.directory
            (clear_of_mem (stepSegments_subset path henters.mem)) ?_
          have hnothing : files.tree.at? (place ++ [name]) = none := hold
          rw [entryAt?, Tree.entryAt?, hnothing, Option.map_none]

/-- Making directories lets a file system grow, also where it is refused half way. -/
theorem makeMissing_grown (files : FileSystem) (paths : List String) :
    files.Grown [] (files.makeMissing paths).1 := by
  induction paths generalizing files with
  | nil => exact .refl files
  | cons path outer ih =>
      rw [makeMissing]
      split
      · exact .refl files
      · cases hmade : files.makeDirectory path with
        | ok made => exact makeDirectory_grown hmade
        | error fault =>
            cases fault with
            | notFound =>
                -- What lies further out is made first, and stays whatever comes after it.
                have houter := ih files
                generalize files.makeMissing outer = outcome at houter ⊢
                obtain ⟨made, result⟩ := outcome
                cases result with
                | error fault => exact houter
                | ok =>
                    simp only
                    cases hlast : made.makeDirectory path with
                    | ok last => exact houter.trans (makeDirectory_grown hlast)
                    | error fault => exact houter
            | _ => exact .refl files

/-- Making a directory with all that it lies in lets a file system grow. -/
theorem makeDirectories_grown (files : FileSystem) (path : String) :
    files.Grown [] (files.makeDirectories path).1 :=
  makeMissing_grown files _

/-- A file that is written is at the place that its path leads to from then on. -/
theorem write_grown {content : Content} {made : FileSystem}
    (h : files.write path content = .ok made) :
    files.Grown [files.destination path] made ∧
      made.locate path = .ok (files.destination path) ∧
      made.entryAt? (files.destination path) = some (.file content) := by
  rw [write, bind_ok_iff] at h
  obtain ⟨⟨place, last⟩, hnew, h⟩ := h
  cases last with
  | none => cases h
  | some name =>
      have henters := enters_of_locateNew hnew
      obtain ⟨front, hsegments, hwalk⟩ := henters.last
      have hplace : files.destination path = place ++ [name] := by
        rw [destination, hsegments, List.foldl_append, walk_ok hwalk]
        exact Path.turn_name henters.step henters.level place
      simp only at h
      split at h
      · cases h
      · next hfree =>
          have hold : files.entryAt? (place ++ [name]) ≠ some .directory :=
            fun hdirectory => hfree (hasDirectory_iff.2 hdirectory)
          obtain rfl := Except.ok.inj h
          have hgrown := grown_file henters.directory (clear_of_mem henters.mem) hold content
          have hentry : (files.put (place ++ [name]) (.file content)).entryAt? (place ++ [name]) =
              some (.file content) := by
            rw [entry_put henters.directory (Tree.leaf_file content) hold, if_pos rfl]
            rfl
          rw [hplace]
          refine ⟨hgrown, locate_ok_iff.2 ⟨henters.path_ne, ?_, ?_⟩, hentry⟩
          · rw [hgrown.isLongPath, henters.path_short]
          · -- The last step is the only one that was not possible before.
            rw [hsegments, walk_concat_iff, start_congr hgrown.working]
            refine ⟨place, hgrown.walk hwalk, step_ok_iff.2 ⟨hgrown.directory henters.directory,
              Path.turn_name henters.step henters.level place, fun _ _ => ⟨?_, by simp [hentry]⟩⟩⟩
            rw [hgrown.isLongName, henters.short]

end FileSystem

end Stencil
