import Stencil.Proofs.FileSystem.Tree

/-!
# Following a path

Where a path without upward steps leads if no name is too long: to the place that its segments
spell out, `FileSystem.placeOf`. A walk ends there if all directories on the way exist, reports a
missing entry if one is missing and no file is in the way, and otherwise meets a file. What a read
tells about the tree is the other direction: after a read that succeeded or found nothing, no file
is in the way of the place (`clear_of_read`, `clear_of_missing`).
-/

namespace Stencil

/-- The segments that name a step. -/
def Path.names (segments : List FileName) : List FileName :=
  segments.filter (!Path.isIdle ·)

/-- The way up to the directory that a directory is in. -/
def Path.upward : FileName :=
  ['.', '.']

namespace FileSystem

variable {files : FileSystem} {place : List FileName} {segments : List FileName} {path : String}

/-- The place that a path without upward steps names. -/
def placeOf (files : FileSystem) (path : String) : List FileName :=
  files.start path ++ Path.names (Path.segments path)

/-- Where a path starts depends on the working directory alone. -/
theorem start_congr {other : FileSystem} (h : other.working = files.working) (path : String) :
    other.start path = files.start path := by
  rw [start, start, h]

/-- The place that a path names depends on the working directory alone. -/
theorem placeOf_congr {other : FileSystem} (h : other.working = files.working) (path : String) :
    other.placeOf path = files.placeOf path := by
  rw [placeOf, placeOf, start_congr h]

/-- One step, by what the place holds that it starts from. -/
theorem step_eq (hlimits : files.limits = none) {segment : FileName}
    (hup : segment ≠ Path.upward) :
    files.step place segment =
      match files.entryAt? place with
      | none => .error .notFound
      | some (.file _) => .error .notADirectory
      | some .directory =>
          if Path.isIdle segment then .ok place
          else if (files.entryAt? (place ++ [segment])).isSome then .ok (place ++ [segment])
          else .error .notFound := by
  have hshort : files.isLongName segment = false := by simp [isLongName, hlimits]
  have hdifferent : segment ≠ ['.', '.'] := hup
  rw [step]
  cases hfound : files.at? place with
  | none =>
      have hentry : files.entryAt? place = none := by
        rw [at?] at hfound
        rw [entryAt?, Tree.entryAt?, hfound, Option.map_none]
      rw [hentry]
      rfl
  | some found =>
      cases found with
      | file content =>
          rw [at_file_iff.1 hfound]
          rfl
      | directory entries =>
          have hentry : files.entryAt? place = some .directory :=
            hasDirectory_iff.1 (by simp [hasDirectory, hfound])
          have hlookup := Tree.lookup_isSome hfound segment
          simp only [hentry, hshort, if_neg hdifferent, hlookup, Bool.false_eq_true, if_false]
          rfl

/-- A walk through directories that exist ends at the place that the segments spell out. -/
theorem walk_directories (hlimits : files.limits = none) (hup : Path.upward ∉ segments)
    (h : ∀ above, place <+: above → above <+: place ++ Path.names segments →
      files.entryAt? above = some .directory) :
    segments.foldlM files.step place = .ok (place ++ Path.names segments) := by
  induction segments generalizing place with
  | nil => simp [Path.names]; rfl
  | cons segment rest ih =>
      have hplace := h place (List.prefix_refl _) (List.prefix_append _ _)
      have hsegment : segment ≠ Path.upward := fun heq => hup (heq ▸ List.mem_cons_self)
      have hrest : Path.upward ∉ rest := fun hmem => hup (List.mem_cons_of_mem _ hmem)
      rw [List.foldlM_cons, step_eq hlimits hsegment, hplace]
      by_cases hidle : Path.isIdle segment = true
      · simp only [Path.names, List.filter_cons, hidle] at h ⊢
        exact ih hrest h
      · have hnames : place ++ Path.names (segment :: rest) =
            (place ++ [segment]) ++ Path.names rest := by simp [Path.names, hidle]
        rw [hnames] at h ⊢
        have hnext := h (place ++ [segment]) (List.prefix_append _ _) (List.prefix_append _ _)
        simp only [hidle, hnext, Option.isSome_some, if_true, Bool.false_eq_true, if_false]
        exact ih hrest fun above habove =>
          h above ((List.prefix_append _ _).trans habove)

/-- A walk that no file is in the way of stops where an entry is missing. -/
theorem walk_missing (hlimits : files.limits = none) (hup : Path.upward ∉ segments)
    (hplace : files.entryAt? place = some .directory)
    (hmissing : files.entryAt? (place ++ Path.names segments) = none)
    (hclear : ∀ above, place <+: above → above <+: place ++ Path.names segments →
      ∀ content, files.entryAt? above ≠ some (.file content)) :
    segments.foldlM files.step place = .error .notFound := by
  induction segments generalizing place with
  | nil => simp [Path.names, hplace] at hmissing
  | cons segment rest ih =>
      have hsegment : segment ≠ Path.upward := fun heq => hup (heq ▸ List.mem_cons_self)
      have hrest : Path.upward ∉ rest := fun hmem => hup (List.mem_cons_of_mem _ hmem)
      rw [List.foldlM_cons, step_eq hlimits hsegment, hplace]
      by_cases hidle : Path.isIdle segment = true
      · simp only [Path.names, List.filter_cons, hidle] at hmissing hclear ⊢
        exact ih hrest hplace hmissing hclear
      · have hnames : place ++ Path.names (segment :: rest) =
            (place ++ [segment]) ++ Path.names rest := by simp [Path.names, hidle]
        rw [hnames] at hmissing hclear
        have hnext := hclear (place ++ [segment]) (List.prefix_append _ _) (List.prefix_append _ _)
        cases hentry : files.entryAt? (place ++ [segment]) with
        | none => simp [hidle]; rfl
        | some entry =>
            cases entry with
            | file content => exact absurd hentry (hnext content)
            | directory =>
                simp only [hidle, Option.isSome_some, if_true, Bool.false_eq_true, if_false]
                exact ih hrest hentry hmissing fun above habove =>
                  hclear above ((List.prefix_append _ _).trans habove)

/-- A walk that ends, ends at the place that the segments spell out, where something is. -/
theorem walk_found (hlimits : files.limits = none) (hup : Path.upward ∉ segments)
    {found : List FileName} (h : segments.foldlM files.step place = .ok found) :
    found = place ++ Path.names segments ∧
      (files.entryAt? place ≠ none → files.entryAt? found ≠ none) := by
  induction segments generalizing place with
  | nil =>
      obtain rfl : place = found := Except.ok.inj h
      simp [Path.names]
  | cons segment rest ih =>
      have hsegment : segment ≠ Path.upward := fun heq => hup (heq ▸ List.mem_cons_self)
      have hrest : Path.upward ∉ rest := fun hmem => hup (List.mem_cons_of_mem _ hmem)
      rw [List.foldlM_cons, step_eq hlimits hsegment] at h
      cases hplace : files.entryAt? place with
      | none => simp [hplace, bind, Except.bind] at h
      | some entry =>
          cases entry with
          | file content => simp [hplace, bind, Except.bind] at h
          | directory =>
              by_cases hidle : Path.isIdle segment = true
              · simp only [hplace, hidle, if_true, bind, Except.bind] at h
                obtain ⟨hfound, hexists⟩ := ih hrest h
                exact ⟨by simpa [Path.names, hidle] using hfound,
                  fun _ => hexists (by simp [hplace])⟩
              · cases hnext : files.entryAt? (place ++ [segment]) with
                | none => simp [hplace, hidle, hnext, bind, Except.bind] at h
                | some next =>
                    simp only [hplace, hidle, hnext, Option.isSome_some, if_true,
                      Bool.false_eq_true, if_false, bind, Except.bind] at h
                    obtain ⟨hfound, hexists⟩ := ih hrest h
                    exact ⟨by simpa [Path.names, hidle] using hfound,
                      fun _ => hexists (by simp [hnext])⟩

/-- A walk from a file misses no entry. -/
theorem walk_file (hlimits : files.limits = none) (hup : Path.upward ∉ segments)
    {content : Content} (hplace : files.entryAt? place = some (.file content)) :
    segments.foldlM files.step place ≠ .error .notFound := by
  cases segments with
  | nil => exact fun h => by cases h
  | cons segment rest =>
      have hsegment : segment ≠ Path.upward := fun heq => hup (heq ▸ List.mem_cons_self)
      rw [List.foldlM_cons, step_eq hlimits hsegment, hplace]
      exact fun h => by cases h

/-- A walk that misses an entry meets no file, and nothing is at the place that it was to reach. -/
theorem walk_not_found (hlimits : files.limits = none) (hup : Path.upward ∉ segments)
    (hplace : files.entryAt? place = some .directory)
    (h : segments.foldlM files.step place = .error .notFound) :
    files.entryAt? (place ++ Path.names segments) = none ∧
      ∀ above, above <+: place ++ Path.names segments →
        ∀ content, files.entryAt? above ≠ some (.file content) := by
  induction segments generalizing place with
  | nil => cases h
  | cons segment rest ih =>
      have hsegment : segment ≠ Path.upward := fun heq => hup (heq ▸ List.mem_cons_self)
      have hrest : Path.upward ∉ rest := fun hmem => hup (List.mem_cons_of_mem _ hmem)
      rw [List.foldlM_cons, step_eq hlimits hsegment, hplace] at h
      by_cases hidle : Path.isIdle segment = true
      · simp only [hidle, if_true, bind, Except.bind] at h
        simpa [Path.names, hidle] using ih hrest hplace h
      · have hnames : place ++ Path.names (segment :: rest) =
            (place ++ [segment]) ++ Path.names rest := by simp [Path.names, hidle]
        rw [hnames]
        cases hnext : files.entryAt? (place ++ [segment]) with
        | none =>
            -- What is above the missing entry are directories, and below it nothing is.
            have hmissing := entry_below hnext (List.prefix_append _ (Path.names rest))
            refine ⟨hmissing, fun above habove content hfile => ?_⟩
            rcases List.prefix_or_prefix_of_prefix habove (List.prefix_append _ _) with hle | hge
            · rcases List.prefix_concat_iff.1 hle with rfl | hle
              · simp [hnext] at hfile
              · exact not_file_above hplace hle content hfile
            · simp [entry_below hnext hge] at hfile
        | some next =>
            simp only [hidle, hnext, Option.isSome_some, if_true, Bool.false_eq_true, if_false,
              bind, Except.bind] at h
            cases next with
            | file content => exact absurd h (walk_file hlimits hrest hnext)
            | directory => exact ih hrest hnext h

/-- Nothing stands in the way of a file at the place: no file above it and no directory at it. -/
structure Clear (files : FileSystem) (place : List FileName) : Prop where
  above : ∀ above, above <+: place → above ≠ place →
    ∀ content, files.entryAt? above ≠ some (.file content)
  here : files.entryAt? place ≠ some .directory

/-- The path is followed segment by segment. -/
theorem locate_eq (hlimits : files.limits = none) (hpath : path ≠ "") :
    files.locate path = (Path.segments path).foldlM files.step (files.start path) := by
  have hshort : files.isLongPath path = false := by simp [isLongPath, hlimits]
  simp [locate, hpath, hshort]

/-- What is read at a path depends on what the place holds that the path leads to. -/
theorem readText_eq (files : FileSystem) (path : String) :
    files.readText path =
      match files.locate path with
      | .error fault => .error fault
      | .ok found =>
          match files.entryAt? found with
          | none => .error .notFound
          | some .directory => .error .isADirectory
          | some (.file (.binary _)) => .error .invalidData
          | some (.file (.text text)) => .ok text := by
  cases hlocate : files.locate path with
  | error fault => simp [readText, read, find, hlocate, bind, Except.bind]
  | ok found =>
      have hentry : files.entryAt? found = (files.at? found).map Tree.kind := rfl
      simp only [readText, read, find, hlocate, bind, Except.bind, hentry]
      cases files.at? found with
      | none => rfl
      | some tree =>
          cases tree with
          | directory entries => rfl
          | file content => cases content <;> rfl

/-- A file that can be read is at the place that its path names, and nothing stands in its way. -/
theorem clear_of_read (hlimits : files.limits = none) (hup : Path.upward ∉ Path.segments path)
    (hpath : path ≠ "") {text : String} (h : files.readText path = .ok text) :
    files.Clear (files.placeOf path) ∧
      files.entryAt? (files.placeOf path) = some (.file (.text text)) := by
  have hentry : files.entryAt? (files.placeOf path) = some (.file (.text text)) := by
    rw [readText_eq] at h
    cases hlocate : files.locate path with
    | error fault => simp [hlocate] at h
    | ok found =>
        simp only [hlocate] at h
        rw [locate_eq hlimits hpath] at hlocate
        obtain ⟨rfl, -⟩ := walk_found hlimits hup hlocate
        rw [placeOf]
        split at h
        · cases h
        · cases h
        · cases h
        · next heq => rw [heq, Except.ok.inj h]
  refine ⟨⟨fun above habove hne content => ?_, by simp [hentry]⟩, hentry⟩
  have hdirectory := entry_above (by rw [hentry]; exact Option.some_ne_none _) habove hne
  simp [hdirectory]

/-- Where nothing is found, nothing is, and no file is in the way. -/
theorem clear_of_missing (hlimits : files.limits = none)
    (hup : Path.upward ∉ Path.segments path) (hpath : path ≠ "")
    (hstart : files.entryAt? (files.start path) = some .directory)
    (h : files.readText path = .error .notFound) :
    files.Clear (files.placeOf path) ∧ files.entryAt? (files.placeOf path) = none := by
  have hwalk : (Path.segments path).foldlM files.step (files.start path) = .error .notFound := by
    rw [readText_eq] at h
    cases hlocate : files.locate path with
    | error fault =>
        rw [hlocate] at h
        rw [← locate_eq hlimits hpath, hlocate, Except.error.inj h]
    | ok found =>
        -- A walk that ends, ends where something is.
        simp only [hlocate] at h
        rw [locate_eq hlimits hpath] at hlocate
        have hexists := (walk_found hlimits hup hlocate).2 (by simp [hstart])
        split at h
        · next heq => exact absurd heq hexists
        all_goals cases h
  obtain ⟨hmissing, hclear⟩ := walk_not_found hlimits hup hstart hwalk
  exact ⟨⟨fun above habove _ => hclear above habove, by simp [placeOf, hmissing]⟩, hmissing⟩

/-- A file is read at a path that names its place, if the path ends in a name. -/
theorem readText_of_entry (hlimits : files.limits = none)
    (hup : Path.upward ∉ Path.segments path) (hpath : path ≠ "") {front : List FileName}
    {name : FileName} (hsegments : Path.segments path = front ++ [name])
    (hname : Path.isIdle name = false) {text : String}
    (h : files.entryAt? (files.placeOf path) = some (.file (.text text))) :
    files.locate path = .ok (files.placeOf path) ∧ files.readText path = .ok text := by
  have hplace : files.placeOf path = (files.start path ++ Path.names front) ++ [name] := by
    simp [placeOf, hsegments, Path.names, hname]
  have hexists : files.entryAt? (files.placeOf path) ≠ none := by simp [h]
  have hfront : front.foldlM files.step (files.start path) =
      .ok (files.start path ++ Path.names front) := by
    refine walk_directories hlimits (fun hmem => hup (by simp [hsegments, hmem])) ?_
    intro above _ habove
    refine entry_above hexists (hplace ▸ habove.trans (List.prefix_append _ _)) fun heq => ?_
    rw [heq, hplace] at habove
    exact absurd habove.length_le (by simp)
  have hlocate : files.locate path = .ok (files.placeOf path) := by
    have hlast : name ≠ Path.upward := fun heq => hup (by simp [hsegments, heq])
    have hparent : files.entryAt? (files.start path ++ Path.names front) = some .directory :=
      entry_above hexists (hplace ▸ List.prefix_append _ _) (by simp [hplace])
    rw [locate_eq hlimits hpath, hsegments, List.foldlM_append, hfront]
    simp only [bind, Except.bind, List.foldlM_cons, step_eq hlimits hlast, hparent, hname,
      ← hplace, h, Option.isSome_some, if_true, Bool.false_eq_true, if_false]
    rfl
  exact ⟨hlocate, by rw [readText_eq, hlocate]; simp [h]⟩

end FileSystem

end Stencil
