import Stencil.Proofs.FileSystem.Destination

/-!
# The order of listings

File systems that differ at most in the order in which directories list their entries (`Relisted`).
Putting the entries of any directory into another order gives such a pair (`relisted_put`). What a
path leads to and what is read there is the same in both, and directories and files that are made in
both leave such a pair again (`Relisted.makeDirectories`, `Relisted.write`), so no operation but a
listing can tell them apart.
-/

namespace Stencil

namespace Tree

/-- The trees hold the same at every place, and directories list the same names in some order. -/
structure Relisted (tree other : Tree) : Prop where
  entries : ∀ place, other.entryAt? place = tree.entryAt? place
  names : ∀ place names, tree.namesAt? place = some names →
    ∃ others, other.namesAt? place = some others ∧ others.Perm names

/-- A name leads to the entry of a directory that has it, if names differ. -/
theorem lookup_eq_some_iff {entries : List (FileName × Tree)}
    (hnames : (entries.map (·.1)).Nodup) {name : FileName} {tree : Tree} :
    entries.lookup name = some tree ↔ (name, tree) ∈ entries := by
  rw [List.lookup_eq_some_iff]
  constructor
  · rintro ⟨before, after, rfl, -⟩
    simp
  · intro hmem
    obtain ⟨before, after, rfl⟩ := List.append_of_mem hmem
    refine ⟨before, after, rfl, fun entry hentry => ?_⟩
    rw [List.map_append, List.nodup_append] at hnames
    have hdiffers := hnames.2.2 _ (List.mem_map_of_mem hentry) name (by simp)
    simpa using Ne.symm hdiffers

/-- Entries in another order lead to the same. -/
theorem lookup_perm {entries others : List (FileName × Tree)} (h : others.Perm entries)
    (hnames : (entries.map (·.1)).Nodup) (name : FileName) :
    others.lookup name = entries.lookup name := by
  have hothers : (others.map (·.1)).Nodup := (h.map _).nodup_iff.2 hnames
  ext tree
  rw [lookup_eq_some_iff hothers, lookup_eq_some_iff hnames, h.mem_iff]

/-- A directory with its entries in another order. -/
theorem relisted_perm {entries others : List (FileName × Tree)} (h : others.Perm entries)
    (hnames : (entries.map (·.1)).Nodup) :
    Relisted (.directory entries) (.directory others) where
  entries place := by
    cases place with
    | nil => rfl
    | cons name rest => rw [entry_cons, entry_cons, lookup_perm h hnames]
  names place names hplace := by
    cases place with
    | nil =>
        obtain rfl : entries.map (·.1) = names := Option.some.inj hplace
        exact ⟨_, rfl, h.map _⟩
    | cons name rest =>
        rw [names_cons, lookup_perm h hnames, ← names_cons]
        exact ⟨names, hplace, .refl _⟩

/-- Relisting what is at a place of a tree relists the tree. -/
theorem relisted_put {tree old new : Tree} {place : List FileName}
    (hold : tree.at? place = some old) (h : old.Relisted new) :
    tree.Relisted (put new place tree) := by
  induction place generalizing tree with
  | nil =>
      obtain rfl : tree = old := Option.some.inj hold
      exact h
  | cons head rest ih =>
      obtain ⟨entries, below, rfl, hbelow, hrest⟩ := below_of_at hold
      have hinner := ih hrest
      rw [put_below hbelow]
      constructor
      · intro place
        cases place with
        | nil => rfl
        | cons name others =>
            rw [entry_putEntry]
            by_cases hname : name = head
            · simpa [entry_cons, hname, hbelow] using hinner.entries others
            · simp [hname]
      · intro place names hplace
        cases place with
        | nil => exact ⟨names, by simpa [names_putEntry, hbelow] using hplace, .refl _⟩
        | cons name others =>
            rw [names_putEntry_below]
            by_cases hname : name = head
            · subst hname
              rw [names_cons, hbelow] at hplace
              simpa using hinner.names others names hplace
            · exact ⟨names, by simpa [hname] using hplace, .refl _⟩

/-- What has been put into a directory is at its place. -/
theorem at_put {tree : Tree} {place : List FileName} (name : FileName) (new : Tree)
    (hplace : tree.entryAt? place = some .directory) :
    (put new (place ++ [name]) tree).at? (place ++ [name]) = some new := by
  induction place generalizing tree with
  | nil =>
      obtain ⟨entries, rfl⟩ := directory_of_entry hplace
      simp [put, at?, lookup_putEntry]
  | cons head rest ih =>
      obtain ⟨entries, below, rfl, hbelow, hrest⟩ := below_of_entry hplace
      rw [List.cons_append, put_below hbelow]
      simpa [at?, lookup_putEntry] using ih hrest

/-- The same leaf put into both trees, at a place where no directory is. -/
theorem Relisted.put {tree other new : Tree} {place : List FileName} {name : FileName}
    (h : tree.Relisted other) (hplace : tree.entryAt? place = some .directory)
    (hnew : new.IsLeaf) (hold : tree.entryAt? (place ++ [name]) ≠ some .directory) :
    (Tree.put new (place ++ [name]) tree).Relisted (Tree.put new (place ++ [name]) other) := by
  have hplace' : other.entryAt? place = some .directory := by rw [h.entries, hplace]
  have hold' : other.entryAt? (place ++ [name]) ≠ some .directory := by rwa [h.entries]
  constructor
  · intro found
    rw [entry_put hplace' hnew hold', entry_put hplace hnew hold, h.entries]
  · intro found names hnames
    by_cases hfound : found = place ++ [name]
    · subst hfound
      rw [namesAt?, at_put name new hplace] at hnames
      exact ⟨names, by rw [namesAt?, at_put name new hplace', hnames], .refl _⟩
    · have hbefore : tree.entryAt? found = some .directory := by
        have hafter := entry_directory_iff.2 ⟨names, hnames⟩
        rwa [entry_put hplace hnew hold, if_neg hfound] at hafter
      obtain ⟨first, hfirst⟩ := entry_directory_iff.1 hbefore
      obtain ⟨second, hsecond, hperm⟩ := h.names found first hfirst
      have hput := @names_put tree new place name hplace hold found first hfirst
      have hput' := @names_put other new place name hplace' hold' found second hsecond
      rw [h.entries] at hput'
      rw [hput] at hnames
      obtain rfl := Option.some.inj hnames
      refine ⟨_, hput', ?_⟩
      split
      · exact hperm.append_right [name]
      · exact hperm

end Tree

namespace FileSystem

/-- The file systems differ at most in the order in which directories list their entries. -/
structure Relisted (files other : FileSystem) : Prop where
  working : other.working = files.working
  limits : other.limits = files.limits
  tree : files.tree.Relisted other.tree

/-- The file system with the entries of one directory in another order. -/
theorem relisted_put {files : FileSystem} {place : List FileName}
    {entries others : List (FileName × Tree)} (h : files.at? place = some (.directory entries))
    (hnames : (entries.map (·.1)).Nodup) (hperm : others.Perm entries) :
    files.Relisted (files.put place (.directory others)) where
  working := rfl
  limits := rfl
  tree := Tree.relisted_put h (Tree.relisted_perm hperm hnames)

namespace Relisted

variable {files other : FileSystem} {place : List FileName} {name : FileName} {path : String}
  {segments : List FileName}

/-- Both file systems hold the same at every place. -/
theorem entries (h : files.Relisted other) (place : List FileName) :
    other.entryAt? place = files.entryAt? place :=
  h.tree.entries place

/-- Both file systems have nothing at a place, the same file, or directories with the same names. -/
theorem at_cases (h : files.Relisted other) (place : List FileName) :
    (files.at? place = none ∧ other.at? place = none) ∨
      (∃ content, files.at? place = some (.file content) ∧
        other.at? place = some (.file content)) ∨
      ∃ entries others, files.at? place = some (.directory entries) ∧
        other.at? place = some (.directory others) ∧
        (others.map (·.1)).Perm (entries.map (·.1)) := by
  have hentry := h.entries place
  have hnames := h.tree.names place
  rw [entryAt?, entryAt?, Tree.entryAt?, Tree.entryAt?] at hentry
  simp only [at?, Tree.namesAt?] at hnames ⊢
  cases hfiles : files.tree.at? place with
  | none =>
      rw [hfiles] at hentry
      exact .inl ⟨rfl, by simpa using hentry⟩
  | some tree =>
      rw [hfiles] at hentry hnames
      obtain ⟨found, hother, hkind⟩ := Option.map_eq_some_iff.1 hentry
      rw [hother] at hnames ⊢
      cases tree with
      | file content =>
          cases found with
          | file second =>
              obtain rfl : second = content := by simpa [Tree.kind] using hkind
              exact .inr (.inl ⟨_, rfl, rfl⟩)
          | directory others => cases hkind
      | directory entries =>
          cases found with
          | file second => cases hkind
          | directory others =>
              obtain ⟨_, hothers, hperm⟩ := hnames _ rfl
              obtain rfl := Option.some.inj hothers
              exact .inr (.inr ⟨_, _, rfl, rfl, hperm⟩)

/-- The same names are too long. -/
theorem isLongName (h : files.Relisted other) (name : FileName) :
    other.isLongName name = files.isLongName name := by
  rw [FileSystem.isLongName, FileSystem.isLongName, h.limits]

/-- The same paths are too long. -/
theorem isLongPath (h : files.Relisted other) (path : String) :
    other.isLongPath path = files.isLongPath path := by
  rw [FileSystem.isLongPath, FileSystem.isLongPath, h.limits]

/-- The same places hold directories. -/
theorem hasDirectory (h : files.Relisted other) (place : List FileName) :
    other.hasDirectory place = files.hasDirectory place := by
  rw [Bool.eq_iff_iff, hasDirectory_iff, hasDirectory_iff, h.entries]

/-- Each step leads to the same place or is refused for the same reason. -/
theorem step (h : files.Relisted other) : other.step = files.step := by
  funext place segment
  rw [FileSystem.step, FileSystem.step]
  rcases h.at_cases place with ⟨hfiles, hother⟩ | ⟨content, hfiles, hother⟩ |
    ⟨entries, others, hfiles, hother, -⟩
  · rw [hfiles, hother]
  · rw [hfiles, hother]
  · have hlookup : (others.lookup segment).isSome = (entries.lookup segment).isSome := by
      have hentry := h.tree.entries (place ++ [segment])
      rw [Tree.lookup_isSome hfiles, Tree.lookup_isSome hother, hentry]
    simp only [hfiles, hother, hlookup, h.isLongName]

/-- Each path leads to the same place or is refused for the same reason. -/
theorem locate (h : files.Relisted other) (path : String) :
    other.locate path = files.locate path := by
  rw [FileSystem.locate, FileSystem.locate, h.isLongPath, h.step, start_congr h.working]

/-- Each path is refused for the same reason, names the same file, or names directories with the
same names. -/
theorem find_cases (h : files.Relisted other) (path : String) :
    (∃ fault, files.find path = .error fault ∧ other.find path = .error fault) ∨
      (∃ content, files.find path = .ok (.file content) ∧
        other.find path = .ok (.file content)) ∨
      ∃ entries others, files.find path = .ok (.directory entries) ∧
        other.find path = .ok (.directory others) ∧
        (others.map (·.1)).Perm (entries.map (·.1)) := by
  rw [find, find, h.locate]
  cases files.locate path with
  | error fault => exact .inl ⟨fault, rfl, rfl⟩
  | ok place =>
      simp only [bind, Except.bind]
      rcases h.at_cases place with ⟨hfiles, hother⟩ | ⟨content, hfiles, hother⟩ |
        ⟨entries, others, hfiles, hother, hperm⟩
      · exact .inl ⟨.notFound, by rw [hfiles]; rfl, by rw [hother]; rfl⟩
      · exact .inr (.inl ⟨content, by rw [hfiles]; rfl, by rw [hother]; rfl⟩)
      · exact .inr (.inr ⟨entries, others, by rw [hfiles]; rfl, by rw [hother]; rfl, hperm⟩)

/-- The same paths name files. -/
theorem isFile (h : files.Relisted other) (path : String) :
    other.isFile path = files.isFile path := by
  rw [FileSystem.isFile, FileSystem.isFile]
  rcases h.find_cases path with ⟨fault, hfiles, hother⟩ | ⟨content, hfiles, hother⟩ |
    ⟨entries, others, hfiles, hother, -⟩ <;> rw [hfiles, hother]

/-- The same paths name directories. -/
theorem isDirectory (h : files.Relisted other) (path : String) :
    other.isDirectory path = files.isDirectory path := by
  rw [FileSystem.isDirectory, FileSystem.isDirectory]
  rcases h.find_cases path with ⟨fault, hfiles, hother⟩ | ⟨content, hfiles, hother⟩ |
    ⟨entries, others, hfiles, hother, -⟩ <;> rw [hfiles, hother]

/-- The same is read at every path. -/
theorem read (h : files.Relisted other) (path : String) : other.read path = files.read path := by
  rw [FileSystem.read, FileSystem.read]
  rcases h.find_cases path with ⟨fault, hfiles, hother⟩ | ⟨content, hfiles, hother⟩ |
    ⟨entries, others, hfiles, hother, -⟩ <;> simp only [hfiles, hother, bind, Except.bind]

/-- The same text is read at every path. -/
theorem readText (h : files.Relisted other) (path : String) :
    other.readText path = files.readText path := by
  rw [FileSystem.readText, FileSystem.readText, h.read]

/-- Each directory lists the same names in some order, or is refused for the same reason. -/
theorem list_cases (h : files.Relisted other) (path : String) :
    (∃ fault, files.list path = .error fault ∧ other.list path = .error fault) ∨
      ∃ names others, files.list path = .ok names ∧ other.list path = .ok others ∧
        others.Perm names := by
  rw [list, list]
  rcases h.find_cases path with ⟨fault, hfiles, hother⟩ | ⟨content, hfiles, hother⟩ |
    ⟨entries, others, hfiles, hother, hperm⟩ <;> rw [hfiles, hother]
  · exact .inl ⟨fault, rfl, rfl⟩
  · exact .inl ⟨.notADirectory, rfl, rfl⟩
  · exact .inr ⟨_, _, rfl, rfl, hperm⟩

/-- A new entry goes to the same directory under the same name, or is refused for the same
reason. -/
theorem locateNew (h : files.Relisted other) (path : String) (segments : List FileName) :
    other.locateNew path segments = files.locateNew path segments := by
  rw [FileSystem.locateNew, FileSystem.locateNew, h.isLongPath, h.step, start_congr h.working]
  cases segments.dropLast.foldlM files.step (files.start path) with
  | error fault => simp only [bind, Except.bind]
  | ok place =>
      simp only [bind, Except.bind, h.isLongName]
      rcases h.at_cases place with ⟨hfiles, hother⟩ | ⟨content, hfiles, hother⟩ |
        ⟨entries, others, hfiles, hother, -⟩
      · rw [hfiles, hother]
      · rw [hfiles, hother]
      · rw [hfiles, hother]
        cases segments.getLast? <;> rfl

/-- The same leaf put into both file systems, at a place where no directory is. -/
theorem put {new : Tree} (h : files.Relisted other)
    (hplace : files.entryAt? place = some .directory) (hnew : new.IsLeaf) (hold : files.entryAt? (place ++ [name]) ≠ some .directory) :
    (files.put (place ++ [name]) new).Relisted (other.put (place ++ [name]) new) where
  working := h.working
  limits := h.limits
  tree := h.tree.put hplace hnew hold

end Relisted

/-- The outcomes are the same fault, or file systems that differ at most in the order of
listings. -/
def Alike (outcome other : Outcome FileSystem) : Prop :=
  (∃ fault, outcome = .error fault ∧ other = .error fault) ∨
    ∃ made otherMade, outcome = .ok made ∧ other = .ok otherMade ∧ made.Relisted otherMade

namespace Relisted

variable {files other : FileSystem}

/-- Steps with the same result, as pairs of what they leave and that result. -/
theorem exists_result {α : Type} {after otherAfter : FileSystem × α}
    (h : after.1.Relisted otherAfter.1 ∧ otherAfter.2 = after.2) :
    ∃ made otherMade result, after = (made, result) ∧ otherAfter = (otherMade, result) ∧
      made.Relisted otherMade :=
  ⟨after.1, otherAfter.1, after.2, rfl, Prod.ext rfl h.2, h.1⟩

/-- A file is written to both file systems, or to neither. -/
theorem write (h : files.Relisted other) (path : String) (content : Content) :
    Alike (files.write path content) (other.write path content) := by
  rw [FileSystem.write, FileSystem.write, h.locateNew]
  cases hnew : files.locateNew path (Path.segments path) with
  | error fault => exact .inl ⟨fault, rfl, rfl⟩
  | ok found =>
      obtain ⟨place, last⟩ := found
      cases last with
      | none => exact .inl ⟨.isADirectory, rfl, rfl⟩
      | some name =>
          simp only [bind, Except.bind, h.hasDirectory]
          cases hfree : files.hasDirectory (place ++ [name]) with
          | true => exact .inl ⟨.isADirectory, rfl, rfl⟩
          | false =>
              have hold : files.entryAt? (place ++ [name]) ≠ some .directory := by
                rw [ne_eq, ← hasDirectory_iff, hfree]
                exact Bool.false_ne_true
              exact .inr ⟨_, _, rfl, rfl,
                h.put (enters_of_locateNew hnew).directory (Tree.leaf_file content) hold⟩

/-- A directory is made in both file systems, or in neither. -/
theorem makeDirectory (h : files.Relisted other) (path : String) :
    Alike (files.makeDirectory path) (other.makeDirectory path) := by
  rw [FileSystem.makeDirectory, FileSystem.makeDirectory, h.locateNew]
  cases hnew : files.locateNew path (stepSegments path) with
  | error fault => exact .inl ⟨fault, rfl, rfl⟩
  | ok found =>
      obtain ⟨place, last⟩ := found
      cases last with
      | none => exact .inl ⟨.alreadyExists, rfl, rfl⟩
      | some name =>
          simp only [bind, Except.bind]
          rcases h.at_cases (place ++ [name]) with ⟨hfiles, hother⟩ | ⟨content, hfiles, hother⟩ |
            ⟨entries, others, hfiles, hother, -⟩
          · have hold : files.entryAt? (place ++ [name]) ≠ some .directory := by
              rw [ne_eq, ← hasDirectory_iff, FileSystem.hasDirectory, hfiles]
              exact Bool.false_ne_true
            rw [hfiles, hother]
            exact .inr ⟨_, _, rfl, rfl,
              h.put (enters_of_locateNew hnew).directory Tree.leaf_directory hold⟩
          · rw [hfiles, hother]
            exact .inl ⟨.alreadyExists, rfl, rfl⟩
          · rw [hfiles, hother]
            exact .inl ⟨.alreadyExists, rfl, rfl⟩

/-- Missing directories are made in both file systems, with the same outcome. -/
theorem makeMissing (h : files.Relisted other) (paths : List String) :
    (files.makeMissing paths).1.Relisted (other.makeMissing paths).1 ∧
      (other.makeMissing paths).2 = (files.makeMissing paths).2 := by
  induction paths generalizing files other with
  | nil => exact ⟨h, rfl⟩
  | cons path outer ih =>
      rw [FileSystem.makeMissing, FileSystem.makeMissing]
      split
      · exact ⟨h, rfl⟩
      · rcases h.makeDirectory path with ⟨fault, hfiles, hother⟩ |
          ⟨made, otherMade, hfiles, hother, hmade⟩
        · simp only [hfiles, hother, h.isDirectory]
          cases fault with
          | notFound =>
              -- What lies further out is made first.
              obtain ⟨made, otherMade, result, houter, hotherOuter, hmade⟩ := exists_result (ih h)
              rw [houter, hotherOuter]
              cases result with
              | error fault => exact ⟨hmade, rfl⟩
              | ok =>
                  simp only [hmade.isDirectory]
                  rcases hmade.makeDirectory path with ⟨fault, hlast, hlast'⟩ |
                    ⟨last, otherLast, hlast, hlast', hdone⟩
                  · rw [hlast, hlast']
                    exact ⟨hmade, rfl⟩
                  · rw [hlast, hlast']
                    exact ⟨hdone, rfl⟩
          | _ => exact ⟨h, rfl⟩
        · rw [hfiles, hother]
          exact ⟨hmade, rfl⟩

/-- A directory and all that it lies in are made in both file systems, with the same outcome. -/
theorem makeDirectories (h : files.Relisted other) (path : String) :
    (files.makeDirectories path).1.Relisted (other.makeDirectories path).1 ∧
      (other.makeDirectories path).2 = (files.makeDirectories path).2 :=
  h.makeMissing _

end Relisted

end FileSystem

end Stencil
