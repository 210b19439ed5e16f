import Stencil.Project.Trace

/-!
# Schema files

Which files of a directory hold schemas, in the order of their names, and the schemas in them. The
order in which the directory lists its entries does not matter.
-/

namespace Stencil.Project

/-- The ending of the name of a schema file. -/
def isDefinitionName (name : FileName) : Bool :=
  match Path.extension? name with
  | some ending => ending = "yaml".toList || ending = "yml".toList
  | none => false

/-- The names of the schema files in a directory with these entries, in order. -/
def definitionNames (files : FileSystem) (directory : String) (names : List FileName) :
    List FileName :=
  (names.filter fun name =>
    isDefinitionName name && files.isFile (Path.join directory (.ofList name))).mergeSort
      fun left right => decide (String.ofList left ≤ String.ofList right)

/-- The paths of the schema files in a directory. -/
def listDefinitions (files : FileSystem) (directory : String) : Except Fault (List String) := do
  let names ← (files.list directory).mapError (.files .list directory)
  pure ((definitionNames files directory names).map fun name =>
    Path.join directory (.ofList name))

/-- The schema in a file. -/
def loadSchema (files : FileSystem) (path : String) : Except Fault Schema := do
  match ← (files.read path).mapError (.files .read path) with
  | .text text => (Schema.load text).mapError (.ofLoad path)
  | .binary bytes => (Schema.loadBytes bytes).mapError (.ofLoad path)

/-- The schema in a file, reported. -/
def loadReported (files : FileSystem) (path : String) : Traced (String × Schema) := do
  let schema ← Traced.of (loadSchema files path)
  Traced.report (.loadedSchema path schema.header.name)
  pure (path, schema)

/-- The schemas of a directory with their paths. The first fault ends the reading. -/
def loadSchemas (files : FileSystem) (directory : String) : Traced (List (String × Schema)) := do
  let paths ← Traced.of (listDefinitions files directory)
  paths.mapM (loadReported files)

end Stencil.Project
