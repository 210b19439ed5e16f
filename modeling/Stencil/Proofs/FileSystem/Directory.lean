import Stencil.Proofs.FileSystem.Path

/-!
# Making directories and writing files

What the operations that change a tree come to when no name is too long and no file is in the way.
Making a directory with all that it lies in succeeds and leaves a directory at each place on the
way, and nothing else is changed (`makeMissing_build`); so does making the directory of a file
(`makeDirectories_parent`). Writing a file in a directory that exists changes the place of the file
and no other (`write_file`).
-/

namespace Stencil.FileSystem

open Stencil.Path (build trim names upward)

variable {files : FileSystem} {path : String} {absolute : Bool} {list front : List FileName}
  {name : FileName}

/-- The file system has a directory at the target and at every place above it, and is the same as
before elsewhere. -/
structure Made (files : FileSystem) (target : List FileName) (made : FileSystem) : Prop where
  working : made.working = files.working
  limits : made.limits = files.limits
  entry : ∀ place,
    made.entryAt? place = if place <+: target then some .directory else files.entryAt? place

/-- No file is at the target or above it. -/
def Passable (files : FileSystem) (target : List FileName) : Prop :=
  ∀ above, above <+: target → ∀ content, files.entryAt? above ≠ some (.file content)

/-- What is at a target that no file is at is a directory. -/
theorem Passable.directory {target : List FileName} (h : files.Passable target)
    (hexists : files.entryAt? target ≠ none) : files.entryAt? target = some .directory := by
  obtain ⟨entry, hentry⟩ := Option.ne_none_iff_exists'.1 hexists
  cases entry with
  | file content => exact absurd hentry (h _ (List.prefix_refl _) content)
  | directory => exact hentry

/-- No file is at the directory of a place or above it, if nothing stands in the way of a file at
the place. -/
theorem Clear.passable {parent : List FileName} (h : files.Clear (parent ++ [name])) :
    files.Passable parent := by
  intro above habove
  refine h.above above (habove.trans (List.prefix_append _ _)) fun heq => ?_
  exact absurd (heq ▸ habove).length_le (by simp)

/-- Nothing needs to be made where a directory is. -/
theorem made_self {target : List FileName} (h : files.entryAt? target = some .directory) :
    files.Made target files where
  working := rfl
  limits := rfl
  entry place := by
    split
    · next habove =>
        by_cases heq : place = target
        · rw [heq, h]
        · exact entry_above (by rw [h]; exact Option.some_ne_none _) habove heq
    · rfl

/-- A new directory in one that has been made. -/
theorem Made.put {parent : List FileName} {made : FileSystem} (h : files.Made parent made)
    (hmissing : files.entryAt? (parent ++ [name]) = none) :
    files.Made (parent ++ [name]) (made.put (parent ++ [name]) (.directory [])) where
  working := h.working
  limits := h.limits
  entry place := by
    have hparent : made.entryAt? parent = some .directory := by simp [h.entry]
    have hbelow : ¬ parent ++ [name] <+: parent := fun hprefix =>
      absurd hprefix.length_le (by simp)
    have hold : made.entryAt? (parent ++ [name]) = none := by simp [h.entry, hbelow, hmissing]
    rw [entry_put hparent Tree.leaf_directory (by simp [hold]), h.entry]
    by_cases heq : place = parent ++ [name]
    · simp [heq, Tree.kind]
    · by_cases hprefix : place <+: parent
      · simp [heq, hprefix, hprefix.trans (List.prefix_append _ _)]
      · have hfurther : ¬ place <+: parent ++ [name] := fun hle =>
          (List.prefix_concat_iff.1 hle).elim heq hprefix
        simp [heq, hprefix, hfurther]

/-- A path to a directory names one. -/
theorem isDirectory_of_entry (hlimits : files.limits = none)
    (hup : upward ∉ Path.segments path) (hpath : path ≠ "")
    (h : files.entryAt? (files.placeOf path) = some .directory) :
    files.isDirectory path = true := by
  have hlocate : files.locate path = .ok (files.placeOf path) := by
    rw [locate_eq hlimits hpath]
    exact walk_directories hlimits hup fun above _ habove => by
      simpa [show above <+: files.placeOf path from habove] using (made_self h).entry above
  obtain ⟨entries, hentries⟩ := exists_entries h
  simp [isDirectory, find, hlocate, hentries, bind, Except.bind, pure, Except.pure]

/-- A new entry goes to the directory that the segments before its name lead to. -/
theorem locateNew_directory (hlimits : files.limits = none) (hpath : path ≠ "")
    (hup : upward ∉ front ++ [name]) (hname : Path.isIdle name = false)
    (h : files.entryAt? (files.start path ++ names front) = some .directory) :
    files.locateNew path (front ++ [name]) = .ok (files.start path ++ names front, some name) := by
  have hshort : files.isLongPath path = false := by simp [isLongPath, hlimits]
  have hshortName : files.isLongName name = false := by simp [isLongName, hlimits]
  have hdifferent : name ≠ ['.', '.'] := fun heq => hup (by simp [heq, upward])
  have hwalk : front.foldlM files.step (files.start path) =
      .ok (files.start path ++ names front) :=
    walk_directories hlimits (fun hmem => hup (List.mem_append_left _ hmem)) fun above _ habove =>
      by simpa [habove] using (made_self h).entry above
  obtain ⟨entries, hentries⟩ := exists_entries h
  simp [locateNew, hpath, hshort, hwalk, hentries, hname, hdifferent, hshortName, bind,
    Except.bind, pure, Except.pure]

/-- A new entry has no place if the directory for it is missing. -/
theorem locateNew_missing (hlimits : files.limits = none) (hpath : path ≠ "")
    (hup : upward ∉ front ++ [name]) (hstart : files.entryAt? (files.start path) = some .directory)
    (hpassable : files.Passable (files.start path ++ names front))
    (h : files.entryAt? (files.start path ++ names front) = none) :
    files.locateNew path (front ++ [name]) = .error .notFound := by
  have hshort : files.isLongPath path = false := by simp [isLongPath, hlimits]
  have hwalk : front.foldlM files.step (files.start path) = .error .notFound :=
    walk_missing hlimits (fun hmem => hup (List.mem_append_left _ hmem)) hstart h
      fun above _ habove => hpassable above habove
  simp [locateNew, hpath, hshort, hwalk, bind, Except.bind]

/-- A directory is made where nothing is. -/
theorem makeDirectory_new (hlimits : files.limits = none) (hpath : path ≠ "")
    (hsteps : stepSegments path = front ++ [name]) (hup : upward ∉ front ++ [name])
    (hname : Path.isIdle name = false)
    (h : files.entryAt? (files.start path ++ names front) = some .directory)
    (hmissing : files.entryAt? (files.start path ++ names front ++ [name]) = none) :
    files.makeDirectory path =
      .ok (files.put (files.start path ++ names front ++ [name]) (.directory [])) := by
  have hnothing : files.at? (files.start path ++ names front ++ [name]) = none := by
    simpa only [entryAt?, Tree.entryAt?, at?, Option.map_eq_none_iff] using hmissing
  rw [makeDirectory, hsteps, locateNew_directory hlimits hpath hup hname h]
  simp only [bind, Except.bind, hnothing]
  rfl

/-- A directory is not made where something is. -/
theorem makeDirectory_exists (hlimits : files.limits = none) (hpath : path ≠ "")
    (hsteps : stepSegments path = front ++ [name]) (hup : upward ∉ front ++ [name])
    (hname : Path.isIdle name = false)
    (h : files.entryAt? (files.start path ++ names front ++ [name]) ≠ none) :
    files.makeDirectory path = .error .alreadyExists := by
  have hparent : files.entryAt? (files.start path ++ names front) = some .directory :=
    entry_above h (List.prefix_append _ _) (by simp)
  have hsomething : (files.at? (files.start path ++ names front ++ [name])).isSome = true := by
    simpa only [entryAt?, Tree.entryAt?, at?, ne_eq, Option.map_eq_none_iff,
      Option.isSome_iff_ne_none] using h
  rw [makeDirectory, hsteps, locateNew_directory hlimits hpath hup hname hparent]
  simp only [bind, Except.bind, hsomething]
  rfl

/-- A directory is not made in one that is missing. -/
theorem makeDirectory_missing (hlimits : files.limits = none) (hpath : path ≠ "")
    (hsteps : stepSegments path = front ++ [name]) (hup : upward ∉ front ++ [name])
    (hstart : files.entryAt? (files.start path) = some .directory)
    (hpassable : files.Passable (files.start path ++ names front))
    (h : files.entryAt? (files.start path ++ names front) = none) :
    files.makeDirectory path = .error .notFound := by
  rw [makeDirectory, hsteps, locateNew_missing hlimits hpath hup hstart hpassable h]
  rfl

/-- The directory that a path starts at is not made. -/
theorem makeDirectory_start (hlimits : files.limits = none) (hpath : path ≠ "")
    (hsteps : stepSegments path = [] ∨ stepSegments path = [['.']])
    (hstart : files.entryAt? (files.start path) = some .directory) :
    files.makeDirectory path = .error .alreadyExists := by
  have hshort : files.isLongPath path = false := by simp [isLongPath, hlimits]
  obtain ⟨entries, hentries⟩ := exists_entries hstart
  rcases hsteps with hsteps | hsteps <;>
    simp [makeDirectory, hsteps, locateNew, hpath, hshort, hentries, Path.isIdle, bind, Except.bind,
      pure, Except.pure, throw, throwThe, MonadExceptOf.throw]

/-- A path built from segments leads to the place that they spell out. -/
theorem placeOf_build (h : Path.Shaped absolute list) (files : FileSystem) :
    files.placeOf (build absolute list) = files.start (build absolute list) ++ names list := by
  rw [placeOf]
  by_cases hne : list = []
  · subst hne
    rw [Path.segments_build_nil]
    rfl
  · rw [Path.segments_build h hne]

/-- The place of a path that ends in a name is in the directory that the segments before it spell
out. -/
theorem placeOf_name (hsegments : Path.segments path = front ++ [name])
    (hname : Path.isIdle name = false) (files : FileSystem) :
    files.placeOf path = files.start path ++ names front ++ [name] := by
  rw [placeOf, hsegments, Path.names_append, ← List.append_assoc]
  simp [names, hname]

/-- Paths that start alike start at the same place. -/
theorem start_build (h : Path.Shaped absolute list) (files : FileSystem) :
    files.start (build absolute list) = if absolute then [] else files.working := by
  rw [start, (Path.body_build h).1]

/-- A path and its ancestors begin with the path. -/
theorem ancestors_succ (fuel : Nat) (path : String) :
    ancestors (fuel + 1) path = path :: ((Path.parent? path).elim [] (ancestors fuel)) := by
  rw [ancestors]
  cases Path.parent? path <;> rfl

/-- Nothing is made where a directory is. -/
theorem makeMissing_exists {outer : List String} (hpath : path ≠ "")
    (hmade : files.makeDirectory path = .error .alreadyExists)
    (hdirectory : files.isDirectory path = true) :
    files.makeMissing (path :: outer) = (files, .ok ()) := by
  simp [makeMissing, hpath, hmade, hdirectory, pure, Except.pure]

/-- A directory is made after those that it lies in. -/
theorem makeMissing_outer {outer : List String} {made last : FileSystem} (hpath : path ≠ "")
    (hmissing : files.makeDirectory path = .error .notFound)
    (houter : files.makeMissing outer = (made, .ok ()))
    (hmade : made.makeDirectory path = .ok last) :
    files.makeMissing (path :: outer) = (last, .ok ()) := by
  simp [makeMissing, hpath, hmissing, houter, hmade, pure, Except.pure]

/-- The directory that a path starts at needs not to be made. -/
theorem makeMissing_start {outer : List String} (hlimits : files.limits = none) (hpath : path ≠ "")
    (hsteps : stepSegments path = [] ∨ stepSegments path = [['.']])
    (hup : upward ∉ Path.segments path)
    (hstart : files.entryAt? (files.start path) = some .directory)
    (hplace : files.placeOf path = files.start path) :
    ∃ made, files.makeMissing (path :: outer) = (made, .ok ()) ∧
      files.Made (files.placeOf path) made := by
  have hentry : files.entryAt? (files.placeOf path) = some .directory := by rwa [hplace]
  have hmade := makeDirectory_start hlimits hpath hsteps hstart
  have hdirectory := isDirectory_of_entry hlimits hup hpath hentry
  exact ⟨files, makeMissing_exists hpath hmade hdirectory, made_self hentry⟩

/-- A directory is made with those that it lies in, if these can be made. -/
theorem makeMissing_name {outer : List String} (hlimits : files.limits = none) (hpath : path ≠ "")
    (hsteps : stepSegments path = front ++ [name]) (hup : upward ∉ front ++ [name])
    (hname : Path.isIdle name = false)
    (hstart : files.entryAt? (files.start path) = some .directory)
    (hpassable : files.Passable (files.start path ++ names front ++ [name]))
    (hdirectory : files.entryAt? (files.start path ++ names front ++ [name]) = some .directory →
      files.isDirectory path = true)
    (houter : ∃ made, files.makeMissing outer = (made, .ok ()) ∧
      files.Made (files.start path ++ names front) made) :
    ∃ made, files.makeMissing (path :: outer) = (made, .ok ()) ∧
      files.Made (files.start path ++ names front ++ [name]) made := by
  have houtside : files.Passable (files.start path ++ names front) := fun above habove =>
    hpassable above (habove.trans (List.prefix_append _ _))
  by_cases hentry : files.entryAt? (files.start path ++ names front ++ [name]) = none
  · by_cases hparent : files.entryAt? (files.start path ++ names front) = none
    · -- The directory has to wait for those that it lies in.
      obtain ⟨made, hmade, hchanges⟩ := houter
      have hsame := start_congr hchanges.working path
      have hmissing :=
        makeDirectory_missing hlimits hpath hsteps hup hstart houtside hparent
      have hbelow : ¬ files.start path ++ names front ++ [name] <+:
          files.start path ++ names front := fun hprefix =>
        absurd hprefix.length_le (by simp)
      have hnew := makeDirectory_new (hchanges.limits.trans hlimits) hpath hsteps hup hname
        (by simp [hsame, hchanges.entry])
        (by rw [hsame, hchanges.entry, if_neg hbelow, hentry])
      rw [hsame] at hnew
      exact ⟨_, makeMissing_outer hpath hmissing hmade hnew, hchanges.put hentry⟩
    · have hfound := houtside.directory hparent
      have hmade := makeDirectory_new hlimits hpath hsteps hup hname hfound hentry
      refine ⟨_, ?_, (made_self hfound).put hentry⟩
      simp [makeMissing, hpath, hmade, pure, Except.pure]
  · have hfound := hpassable.directory hentry
    have hmade := makeDirectory_exists hlimits hpath hsteps hup hname hentry
    exact ⟨files, makeMissing_exists hpath hmade (hdirectory hfound), made_self hfound⟩

/-- Where no file is in the way of a directory, it is made with all that it lies in. -/
theorem makeMissing_build {fuel : Nat} (hfuel : list.length < fuel)
    (hshaped : Path.Shaped absolute list) (htrim : trim absolute list = list)
    (hup : upward ∉ list) (hlimits : files.limits = none)
    (hstart : files.entryAt? (files.start (build absolute list)) = some .directory)
    (hpassable : files.Passable (files.placeOf (build absolute list))) :
    ∃ made, files.makeMissing (ancestors fuel (build absolute list)) = (made, .ok ()) ∧
      files.Made (files.placeOf (build absolute list)) made := by
  induction fuel generalizing list with
  | zero => omega
  | succ fuel ih =>
      have hplace := placeOf_build hshaped files
      have hsteps := Path.stepSegments_build hshaped htrim
      have hempty := Path.build_eq_empty hshaped
      by_cases hpath : build absolute list = ""
      · -- The empty path stands for the working directory, and nothing is made.
        obtain ⟨rfl, rfl⟩ := hempty.1 hpath
        refine ⟨files, ?_, made_self ?_⟩
        · simp [ancestors_succ, makeMissing, hpath, pure, Except.pure]
        · rwa [hplace, names, List.filter_nil, List.append_nil]
      · rw [ancestors_succ]
        rcases Path.trimmed_cases htrim with rfl | ⟨rfl, rfl⟩ | ⟨front, name, rfl, hname⟩
        · -- The root is there already.
          exact makeMissing_start hlimits hpath (.inl hsteps)
            (by simp [Path.segments_build_nil, upward]) hstart (by simp [hplace, names])
        · -- A single dot is the working directory.
          exact makeMissing_start hlimits hpath (.inr hsteps)
            (by rwa [Path.segments_build hshaped (by simp)]) hstart
            (by simp [hplace, names, Path.isIdle])
        · -- Making the parent first is the induction hypothesis.
          have hsegments := Path.segments_build hshaped (by simp)
          have hname' := placeOf_name hsegments hname files
          have htrimmed := hshaped.left.trimmed
          have hsame : files.start (build absolute (trim absolute front)) =
              files.start (build absolute (front ++ [name])) := by
            rw [start_build htrimmed, start_build hshaped]
          have hparent : files.placeOf (build absolute (trim absolute front)) =
              files.start (build absolute (front ++ [name])) ++ names front := by
            rw [placeOf_build htrimmed, hsame, Path.names_trim]
          have hlength := (Path.prefix_trim absolute front).length_le
          have houter := ih (by simp at hfuel; omega) htrimmed (Path.trim_twice absolute front)
            (fun hmem => hup (List.mem_append_left _ (Path.mem_of_trim hmem))) (by rwa [hsame])
            fun above habove => hpassable above (habove.trans (by simp [hparent, hname']))
          rw [Path.parent_build hshaped hname, hname']
          rw [hname'] at hpassable
          rw [hparent] at houter
          exact makeMissing_name hlimits hpath hsteps hup hname hstart hpassable
            (fun hentry => isDirectory_of_entry hlimits (by rwa [hsegments]) hpath
              (by rwa [hname'])) houter

/-- The directory of a file is made with all that it lies in, if no file is in the way. -/
theorem makeDirectories_parent (hpath : Path.NamesEntry path)
    (hsegments : Path.segments path = front ++ [name]) (hname : Path.isIdle name = false)
    (hlimits : files.limits = none) (hstart : files.entryAt? (files.start path) = some .directory)
    (hpassable : files.Passable (files.start path ++ names front)) :
    ∃ parent made, Path.parent? path = some parent ∧
      files.makeDirectories parent = (made, .ok ()) ∧
      files.Made (files.start path ++ names front) made := by
  have hwhole : Path.Shaped (Path.isAbsolute path) (front ++ [name]) :=
    hsegments ▸ Path.shaped_segments hpath.ne_empty
  have hshaped := hwhole.left.trimmed
  have htrim := Path.trim_twice (Path.isAbsolute path) front
  have hstart' := start_build hshaped files
  have hplace := placeOf_build hshaped files
  rw [Path.names_trim, hstart', ← start] at hplace
  have hlength := Path.length_le_build htrim
  have hup : upward ∉ trim (Path.isAbsolute path) front := by
    intro hmem
    refine hpath.level ?_
    rw [hsegments]
    exact List.mem_append_left _ (Path.mem_of_trim hmem)
  obtain ⟨made, hmade, hchanges⟩ := makeMissing_build (Nat.lt_succ_of_le hlength) hshaped htrim hup
    hlimits (by rwa [hstart', ← start]) (by rwa [hplace])
  exact ⟨_, made, Path.parent_of_name hsegments hname, hmade, hplace ▸ hchanges⟩

/-- The file system has a file at the place and directories above it, and is the same as before
elsewhere. -/
structure Written (files : FileSystem) (place : List FileName) (content : Content)
    (written : FileSystem) : Prop where
  working : written.working = files.working
  limits : written.limits = files.limits
  entry : ∀ other, written.entryAt? other =
    if other = place then some (.file content)
    else if other <+: place then some .directory
    else files.entryAt? other

/-- A file is written in a directory that exists, where no directory is. -/
theorem write_file (hpath : Path.NamesEntry path)
    (hsegments : Path.segments path = front ++ [name]) (hname : Path.isIdle name = false)
    (hlimits : files.limits = none)
    (hparent : files.entryAt? (files.start path ++ names front) = some .directory)
    (hhere : files.entryAt? (files.placeOf path) ≠ some .directory) (content : Content) :
    ∃ written, files.write path content = .ok written ∧
      files.Written (files.placeOf path) content written := by
  have hplace := placeOf_name hsegments hname files
  rw [hplace] at hhere ⊢
  have hfree : files.hasDirectory (files.start path ++ names front ++ [name]) = false := by
    rw [Bool.eq_false_iff]
    exact fun hdirectory => hhere (hasDirectory_iff.1 hdirectory)
  refine ⟨files.put (files.start path ++ names front ++ [name]) (.file content), ?_, rfl, rfl, ?_⟩
  · rw [write, hsegments, locateNew_directory hlimits hpath.ne_empty (hsegments ▸ hpath.level) hname
      hparent]
    simp only [bind, Except.bind, hfree]
    rfl
  · intro other
    rw [entry_put hparent (Tree.leaf_file content) hhere]
    split
    · rfl
    · next hother =>
        split
        · next habove =>
            have hle := (List.prefix_concat_iff.1 habove).resolve_left hother
            simpa [hle] using (made_self hparent).entry other
        · rfl

end Stencil.FileSystem
