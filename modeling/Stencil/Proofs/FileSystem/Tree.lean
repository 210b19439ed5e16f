import Mathlib.Data.List.Infix
import Stencil.FileSystem.Basic

/-!
# What a place in a tree holds

A tree seen as a map from places to what they hold: nothing, a file with its content, or a
directory. Whatever is at a place lies in directories (`entry_above`), and `entry_put` says what
putting a leaf at a place changes: that place and no other.
-/

namespace Stencil

/-- What a place holds, without what lies below it. -/
inductive Entry where
  | file (content : Content)
  | directory
deriving DecidableEq

namespace Tree

/-- What the root of a tree is. -/
def kind : Tree → Entry
  | .file content => .file content
  | .directory _ => .directory

/-- What a place of a tree holds, if anything. -/
def entryAt? (tree : Tree) (place : List FileName) : Option Entry :=
  (tree.at? place).map kind

/-- The root holds the root of the tree. -/
@[simp]
theorem entry_nil (tree : Tree) : tree.entryAt? [] = some tree.kind :=
  rfl

/-- A place below a directory is a place of the entry with its first name. -/
theorem entry_cons (entries : List (FileName × Tree)) (name : FileName) (rest : List FileName) :
    (Tree.directory entries).entryAt? (name :: rest) =
      (entries.lookup name).bind (entryAt? · rest) := by
  simp only [entryAt?, at?]
  cases entries.lookup name <;> rfl

/-- A place below another is a place of what is there. -/
theorem at_append (tree : Tree) (place rest : List FileName) :
    tree.at? (place ++ rest) = (tree.at? place).bind (at? rest) := by
  induction place generalizing tree with
  | nil => rfl
  | cons name others ih =>
      cases tree with
      | file content => rfl
      | directory entries =>
          simp only [List.cons_append, at?]
          cases entries.lookup name with
          | none => rfl
          | some below => exact ih below

/-- What is at a place lies in a directory. -/
theorem entry_parent {tree : Tree} {place : List FileName} {name : FileName}
    {rest : List FileName} (h : tree.entryAt? (place ++ name :: rest) ≠ none) :
    tree.entryAt? place = some .directory := by
  rw [entryAt?, at_append] at h
  rw [entryAt?]
  cases hplace : tree.at? place with
  | none => simp [hplace] at h
  | some found =>
      cases found with
      | file content => simp [hplace, at?] at h
      | directory entries => rfl

/-- Nothing lies below a place that does not hold a directory. -/
theorem nothing_below {tree : Tree} {place : List FileName}
    (h : tree.entryAt? place ≠ some .directory) (name : FileName) (rest : List FileName) :
    tree.entryAt? (place ++ name :: rest) = none :=
  not_not.1 (mt entry_parent h)

/-- Every place above one that holds something holds a directory. -/
theorem entry_above {tree : Tree} {place above : List FileName} (h : tree.entryAt? place ≠ none)
    (habove : above <+: place) (hne : above ≠ place) : tree.entryAt? above = some .directory := by
  obtain ⟨rest, rfl⟩ := habove
  cases rest with
  | nil => simp at hne
  | cons name others => exact entry_parent h

/-- A directory holds an entry of a name exactly if the place below it holds something. -/
theorem lookup_isSome {tree : Tree} {place : List FileName} {entries : List (FileName × Tree)}
    (h : tree.at? place = some (.directory entries)) (name : FileName) :
    (entries.lookup name).isSome = (tree.entryAt? (place ++ [name])).isSome := by
  simp only [entryAt?, at_append, h, Option.bind_some, at?]
  cases entries.lookup name <;> rfl

/-- Replacing the entries of a name changes what the name leads to, if it leads anywhere. -/
theorem lookup_replace (name other : FileName) (tree : Tree) (entries : List (FileName × Tree)) :
    (entries.map fun (found, old) =>
        if found = name then (found, tree) else (found, old)).lookup other =
      if other = name then (entries.lookup other).map (fun _ => tree)
      else entries.lookup other := by
  induction entries with
  | nil => simp
  | cons entry rest ih =>
      obtain ⟨found, old⟩ := entry
      rw [List.map_cons]
      by_cases hfound : other = found
      · subst hfound
        by_cases hname : other = name <;> simp [hname]
      · have hdiffers : (other == found) = false := by simpa using hfound
        by_cases hname : found = name
        · simpa [hname ▸ hfound, hname ▸ hdiffers, hname, List.lookup_cons] using ih
        · simpa [hname, List.lookup_cons, hdiffers] using ih

/-- After an entry has been put, its name leads to it and every other name to what it did. -/
theorem lookup_putEntry (name other : FileName) (tree : Tree) (entries : List (FileName × Tree)) :
    (putEntry name tree entries).lookup other =
      if other = name then some tree else entries.lookup other := by
  unfold putEntry
  split
  · next old hold =>
      rw [lookup_replace]
      by_cases hname : other = name
      · simp [hname, hold]
      · simp [hname]
  · next hnone =>
      rw [List.lookup_append]
      by_cases hname : other = name
      · simp [hname, hnone]
      · have hdiffers : (other == name) = false := by simpa using hname
        simp [hname, List.lookup_cons, hdiffers]

/-- The tree has nothing below its root. -/
def IsLeaf (tree : Tree) : Prop :=
  ∀ name rest, tree.entryAt? (name :: rest) = none

/-- A file is a leaf. -/
theorem leaf_file (content : Content) : IsLeaf (.file content) :=
  fun _ _ => rfl

/-- A new directory is a leaf. -/
theorem leaf_directory : IsLeaf (.directory []) :=
  fun _ _ => rfl

/-- A tree with a directory at its root is made of entries. -/
theorem directory_of_entry {tree : Tree} (h : tree.entryAt? [] = some .directory) :
    ∃ entries, tree = .directory entries := by
  cases tree with
  | file content => simp [kind] at h
  | directory entries => exact ⟨entries, rfl⟩

/-- What is at a place below the root is at a place of one of the entries. -/
theorem below_of_at {tree found : Tree} {name : FileName} {rest : List FileName}
    (h : tree.at? (name :: rest) = some found) :
    ∃ entries below, tree = .directory entries ∧ entries.lookup name = some below ∧
      below.at? rest = some found := by
  cases tree with
  | file content => cases h
  | directory entries =>
      obtain ⟨below, hbelow, hrest⟩ := Option.bind_eq_some_iff.1 h
      exact ⟨entries, below, rfl, hbelow, hrest⟩

/-- What a place below the root holds, a place of one of the entries holds. -/
theorem below_of_entry {tree : Tree} {name : FileName} {rest : List FileName} {entry : Entry}
    (h : tree.entryAt? (name :: rest) = some entry) :
    ∃ entries below, tree = .directory entries ∧ entries.lookup name = some below ∧
      below.entryAt? rest = some entry := by
  obtain ⟨found, hfound, rfl⟩ := Option.map_eq_some_iff.1 h
  obtain ⟨entries, below, htree, hbelow, hrest⟩ := below_of_at hfound
  exact ⟨entries, below, htree, hbelow, by rw [entryAt?, hrest, Option.map_some]⟩

/-- Putting something below an entry, or in its place, changes that entry. -/
theorem put_below {new below : Tree} {name : FileName} {rest : List FileName}
    {entries : List (FileName × Tree)} (hbelow : entries.lookup name = some below) :
    put new (name :: rest) (.directory entries) =
      .directory (putEntry name (put new rest below) entries) := by
  cases rest with
  | nil => rfl
  | cons second others => simp [put, hbelow]

/-- Putting an entry changes what the places below its name hold. -/
theorem entry_putEntry (name first : FileName) (tree : Tree) (entries : List (FileName × Tree))
    (rest : List FileName) :
    (Tree.directory (putEntry name tree entries)).entryAt? (first :: rest) =
      if first = name then tree.entryAt? rest
      else (Tree.directory entries).entryAt? (first :: rest) := by
  rw [entry_cons, entry_cons, lookup_putEntry]
  split <;> rfl

/-- Putting a leaf into a directory, at a place where no directory is, changes what is at that place
and nothing else. -/
theorem entry_put {tree new : Tree} {place : List FileName} {name : FileName}
    (hplace : tree.entryAt? place = some .directory) (hnew : new.IsLeaf)
    (hold : tree.entryAt? (place ++ [name]) ≠ some .directory) (other : List FileName) :
    (put new (place ++ [name]) tree).entryAt? other =
      if other = place ++ [name] then some new.kind else tree.entryAt? other := by
  induction place generalizing tree other with
  | nil =>
      obtain ⟨entries, rfl⟩ := directory_of_entry hplace
      rw [List.nil_append] at hold ⊢
      rw [put]
      cases other with
      | nil => simp [kind]
      | cons first rest =>
          rw [entry_putEntry]
          by_cases hfirst : first = name
          · subst hfirst
            cases rest with
            | nil => simp
            | cons second others =>
                -- What was at the place is missing or a file, so nothing was below it.
                have hnone : (Tree.directory entries).entryAt? (first :: second :: others) = none :=
                  nothing_below hold second others
                simp [hnew second others, hnone]
          · simp [hfirst]
  | cons head rest ih =>
      obtain ⟨entries, below, rfl, hbelow, hrest⟩ := below_of_entry hplace
      simp only [List.cons_append, entry_cons, hbelow, Option.bind_some] at hold ⊢
      rw [put_below hbelow]
      cases other with
      | nil => simp [kind]
      | cons first others =>
          rw [entry_putEntry]
          by_cases hfirst : first = head
          · subst hfirst
            simpa [entry_cons, hbelow] using ih hrest hold others
          · simp [hfirst]

end Tree

namespace FileSystem

/-- What a place holds, if anything. -/
def entryAt? (files : FileSystem) (place : List FileName) : Option Entry :=
  files.tree.entryAt? place

variable {files : FileSystem} {place : List FileName}

/-- A file is at a place exactly if the place holds it. -/
theorem at_file_iff {content : Content} :
    files.at? place = some (.file content) ↔ files.entryAt? place = some (.file content) := by
  rw [at?, entryAt?, Tree.entryAt?]
  cases files.tree.at? place with
  | none => simp
  | some found => cases found <;> simp [Tree.kind]

/-- A directory is at a place exactly if the place holds one. -/
theorem hasDirectory_iff :
    files.hasDirectory place = true ↔ files.entryAt? place = some .directory := by
  rw [hasDirectory, at?, entryAt?, Tree.entryAt?]
  cases files.tree.at? place with
  | none => simp
  | some found => cases found <;> simp [Tree.kind]

/-- A place that holds a directory has its entries. -/
theorem exists_entries (h : files.entryAt? place = some .directory) :
    ∃ entries, files.at? place = some (.directory entries) := by
  rw [entryAt?, Tree.entryAt?] at h
  rw [at?]
  cases hfound : files.tree.at? place with
  | none => simp [hfound] at h
  | some found =>
      cases found with
      | file content => simp [hfound, Tree.kind] at h
      | directory entries => exact ⟨entries, rfl⟩

/-- Every place above one that holds something holds a directory. -/
theorem entry_above {above : List FileName} (h : files.entryAt? place ≠ none)
    (habove : above <+: place) (hne : above ≠ place) : files.entryAt? above = some .directory :=
  Tree.entry_above h habove hne

/-- Nothing is below a place that holds nothing. -/
theorem entry_below {below : List FileName} (h : files.entryAt? place = none)
    (hbelow : place <+: below) : files.entryAt? below = none := by
  by_contra hsome
  by_cases heq : place = below
  · exact hsome (heq ▸ h)
  · have hdirectory := entry_above hsome hbelow heq
    simp [h] at hdirectory

/-- No file is at a place above one that holds a directory, or at that place. -/
theorem not_file_above {above : List FileName} (h : files.entryAt? place = some .directory)
    (habove : above <+: place) (content : Content) :
    files.entryAt? above ≠ some (.file content) := by
  have hdirectory : files.entryAt? above = some .directory := by
    by_cases heq : above = place
    · rw [heq, h]
    · exact entry_above (by rw [h]; exact Option.some_ne_none _) habove heq
  simp [hdirectory]

/-- Putting a leaf into a directory, at a place where no directory is, changes what is at that place
and nothing else. -/
theorem entry_put {new : Tree} {name : FileName} (hplace : files.entryAt? place = some .directory)
    (hnew : new.IsLeaf) (hold : files.entryAt? (place ++ [name]) ≠ some .directory)
    (other : List FileName) :
    (files.put (place ++ [name]) new).entryAt? other =
      if other = place ++ [name] then some new.kind else files.entryAt? other :=
  Tree.entry_put hplace hnew hold other

end FileSystem

end Stencil
