/-!
# Directory trees

Files and directories as a tree, and places in it as the names on the way from its root. A file
holds a text, or bytes that are no text. The entries of a directory come in the order in which the
directory lists them.
-/

namespace Stencil

/-- The name of an entry in its directory. -/
abbrev FileName := List Char

/-- What a file holds. -/
inductive Content where
  | text (text : String)
  /-- Bytes that are no text. -/
  | binary (bytes : List UInt8)
deriving DecidableEq

/-- A file or a directory with its entries. -/
inductive Tree where
  | file (content : Content)
  | directory (entries : List (FileName × Tree))

namespace Tree

/-- What is at a place. -/
def at? : (place : List FileName) → Tree → Option Tree
  | [], tree => some tree
  | name :: rest, .directory entries => (entries.lookup name).bind (at? rest)
  | _ :: _, .file _ => none

/-- Entries with one more, which replaces one with the same name. -/
def putEntry (name : FileName) (tree : Tree) (entries : List (FileName × Tree)) :
    List (FileName × Tree) :=
  match entries.lookup name with
  | some _ => entries.map fun (found, old) => if found = name then (found, tree) else (found, old)
  | none => entries ++ [(name, tree)]

/-- A tree with something else at a place. Nothing changes where the directory of the place is
missing. -/
def put (new : Tree) : (place : List FileName) → Tree → Tree
  | [], _ => new
  | [name], .directory entries => .directory (putEntry name new entries)
  | name :: rest, .directory entries =>
    match entries.lookup name with
    | some below => .directory (putEntry name (put new rest below) entries)
    | none => .directory entries
  | _ :: _, .file content => .file content

/-- A tree without what is at a place. -/
def remove : (place : List FileName) → Tree → Tree
  | [], tree => tree
  | [name], .directory entries => .directory (entries.filter (·.1 ≠ name))
  | name :: rest, .directory entries =>
    match entries.lookup name with
    | some below => .directory (putEntry name (remove rest below) entries)
    | none => .directory entries
  | _ :: _, .file content => .file content

mutual

/-- The files of a tree with their places. -/
def files : Tree → List (List FileName × Content)
  | .file content => [([], content)]
  | .directory entries => filesOf entries

/-- The files of entries with their places. -/
def filesOf : List (FileName × Tree) → List (List FileName × Content)
  | [] => []
  | (name, tree) :: rest =>
    (tree.files.map fun (place, content) => (name :: place, content)) ++ filesOf rest

end

end Tree

end Stencil
