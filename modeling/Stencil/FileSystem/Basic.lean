import Stencil.FileSystem.Path
import Stencil.FileSystem.Tree

/-!
# File systems

A directory tree with a working directory, and the operations on it by path. A path is followed step
by step through directories that exist; a step upwards leads to the directory that holds the one
reached so far. An operation is refused for a reason in the tree, or because a name or a path is too
long where there are such limits.
-/

namespace Stencil

/-- Why an operation on files is refused. -/
inductive FileFault where
  | notFound
  | isADirectory
  | notADirectory
  | alreadyExists
  | invalidFilename
  | invalidData
deriving DecidableEq, Repr

/-- How many bytes names and paths may have. -/
structure NameLimits where
  name : Nat
  path : Nat

/-- A directory tree, the place of the working directory in it, and the limits on names. -/
structure FileSystem where
  tree : Tree
  working : List FileName
  limits : Option NameLimits

namespace FileSystem

/-- What an operation yields. -/
abbrev Outcome := Except FileFault

/-- How many bytes a text has. -/
def byteCount (text : List Char) : Nat :=
  (String.ofList text).utf8ByteSize

/-- A name is too long. -/
def isLongName (files : FileSystem) (name : FileName) : Bool :=
  files.limits.any (·.name < byteCount name)

/-- A path is too long. -/
def isLongPath (files : FileSystem) (path : String) : Bool :=
  files.limits.any (·.path ≤ path.utf8ByteSize)

/-- What is at a place. -/
def at? (files : FileSystem) (place : List FileName) : Option Tree :=
  files.tree.at? place

/-- A directory is at the place. -/
def hasDirectory (files : FileSystem) (place : List FileName) : Bool :=
  match files.at? place with
  | some (.directory _) => true
  | _ => false

/-- The place that one step leads to from the place of a directory. -/
def step (files : FileSystem) (place : List FileName) (segment : FileName) :
    Outcome (List FileName) :=
  match files.at? place with
  | none => throw .notFound
  | some (.file _) => throw .notADirectory
  | some (.directory entries) =>
    if Path.isIdle segment then pure place
    else if segment = ['.', '.'] then pure place.dropLast
    else if files.isLongName segment then throw .invalidFilename
    else if (entries.lookup segment).isSome then pure (place ++ [segment])
    else throw .notFound

/-- The place where a path starts. -/
def start (files : FileSystem) (path : String) : List FileName :=
  if Path.isAbsolute path then [] else files.working

/-- The place of what a path names. -/
def locate (files : FileSystem) (path : String) : Outcome (List FileName) :=
  if path = "" then throw .notFound
  else if files.isLongPath path then throw .invalidFilename
  else (Path.segments path).foldlM files.step (files.start path)

/-- What a path names. -/
def find (files : FileSystem) (path : String) : Outcome Tree := do
  let place ← files.locate path
  match files.at? place with
  | some tree => pure tree
  | none => throw .notFound

/-- A path names something. -/
def exists? (files : FileSystem) (path : String) : Bool :=
  (files.find path).toOption.isSome

/-- A path names a file. -/
def isFile (files : FileSystem) (path : String) : Bool :=
  match files.find path with
  | .ok (.file _) => true
  | _ => false

/-- A path names a directory. -/
def isDirectory (files : FileSystem) (path : String) : Bool :=
  match files.find path with
  | .ok (.directory _) => true
  | _ => false

/-- What a file holds. -/
def read (files : FileSystem) (path : String) : Outcome Content := do
  match ← files.find path with
  | .file content => pure content
  | .directory _ => throw .isADirectory

/-- The text that a file holds. -/
def readText (files : FileSystem) (path : String) : Outcome String := do
  match ← files.read path with
  | .text text => pure text
  | .binary _ => throw .invalidData

/-- The names of the entries of a directory, in the order in which it lists them. -/
def list (files : FileSystem) (path : String) : Outcome (List FileName) := do
  match ← files.find path with
  | .directory entries => pure (entries.map (·.1))
  | .file _ => throw .notADirectory

/-- The directory that a new entry goes to, and its name. There is no name if the path ends in a
step that goes nowhere new. -/
def locateNew (files : FileSystem) (path : String) (segments : List FileName) :
    Outcome (List FileName × Option FileName) := do
  if path = "" then throw .notFound
  if files.isLongPath path then throw .invalidFilename
  let place ← segments.dropLast.foldlM files.step (files.start path)
  match files.at? place, segments.getLast? with
  | none, _ => throw .notFound
  | some (.file _), _ => throw .notADirectory
  | some (.directory _), some name =>
    if Path.isIdle name || name = ['.', '.'] then pure (place, none)
    else if files.isLongName name then throw .invalidFilename
    else pure (place, some name)
  | some (.directory _), none => pure (place, none)

/-- The file system with something else at a place. -/
def put (files : FileSystem) (place : List FileName) (tree : Tree) : FileSystem :=
  { files with tree := Tree.put tree place files.tree }

/-- The file system after a file has been written as a whole. -/
def write (files : FileSystem) (path : String) (content : Content) : Outcome FileSystem := do
  let (place, name) ← files.locateNew path (Path.segments path)
  match name with
  | none => throw .isADirectory
  | some name =>
    let place := place ++ [name]
    if files.hasDirectory place then throw .isADirectory
    else pure (files.put place (.file content))

/-- The segments of a path up to its last step. -/
def stepSegments (path : String) : List FileName :=
  (Path.fromLastStep (Path.isAbsolute path) (Path.segments path).reverse).reverse

/-- The file system with a new directory. -/
def makeDirectory (files : FileSystem) (path : String) : Outcome FileSystem := do
  let (place, name) ← files.locateNew path (stepSegments path)
  match name with
  | none => throw .alreadyExists
  | some name =>
    let place := place ++ [name]
    if (files.at? place).isSome then throw .alreadyExists
    else pure (files.put place (.directory []))

/-- A path and the directories that it lies in, innermost first. The path has fewer than `fuel`
steps. -/
def ancestors : (fuel : Nat) → String → List String
  | 0, _ => []
  | fuel + 1, path =>
    match Path.parent? path with
    | some parent => path :: ancestors fuel parent
    | none => [path]

/-- Directories made, innermost first. What is there already needs no work, and what lacks its own
directory waits for that. Those that were made stay even if a later one is refused. -/
def makeMissing (files : FileSystem) : List String → FileSystem × Outcome Unit
  | [] => (files, throw .notFound)
  | path :: outer =>
    if path = "" then (files, pure ())
    else
      match files.makeDirectory path with
      | .ok made => (made, pure ())
      | .error .notFound =>
        match files.makeMissing outer with
        | (made, .error fault) => (made, throw fault)
        | (made, .ok ()) =>
          match made.makeDirectory path with
          | .ok made => (made, pure ())
          | .error fault => (made, if made.isDirectory path then pure () else throw fault)
      | .error fault => (files, if files.isDirectory path then pure () else throw fault)

/-- A directory and all that it lies in made. -/
def makeDirectories (files : FileSystem) (path : String) : FileSystem × Outcome Unit :=
  files.makeMissing (ancestors (path.length + 1) path)

/-- The file system without what a path names. -/
def remove (files : FileSystem) (path : String) : Outcome FileSystem := do
  let place ← files.locate path
  pure { files with tree := files.tree.remove place }

end FileSystem

end Stencil
