import Stencil.Command.Program
import Stencil.Command.Reach
import Stencil.Log.Json

/-!
# The command

The program in its surroundings. It copies what the command line reads into a file system value, runs
the program on it, and writes what has changed.
-/

open Stencil

namespace Stencil.Main

/-- The path of a place. -/
def pathOf (place : List FileName) : String :=
  "/" ++ "/".intercalate (place.map String.ofList)

/-- What a file holds. -/
def contentOf (bytes : ByteArray) : Content :=
  match String.fromUTF8? bytes with
  | some text => .text text
  | none => .binary bytes.toList

/-- The names in a directory, or nothing if the place is none. -/
def namesAt? (place : List FileName) : IO (Option (List FileName)) := do
  try
    let directory := (← IO.currentDir) / pathOf place
    let entries ← directory.readDir
    pure (some (entries.toList.map (·.fileName.toList)))
  catch _ => pure none

/-- The file system with a copy of what is at a place. Directories are copied without entries. -/
def copyPlace (files : FileSystem) (place : List FileName) : IO FileSystem := do
  if (files.at? place).isSome then return files
  if (← namesAt? place).isSome then return files.put place (.directory [])
  try
    let bytes ← IO.FS.readBinFile (pathOf place)
    pure (files.put place (.file (contentOf bytes)))
  catch _ => pure files

/-- The file system with a copy of what the segments of a path lead to, as far as they do. -/
def copySegments (files : FileSystem) (place : List FileName) : List FileName → IO FileSystem
  | [] => pure files
  | segment :: rest =>
    if Path.isIdle segment then copySegments files place rest
    else if segment = ['.', '.'] then copySegments files place.dropLast rest
    else do
      let files ← copyPlace files (place ++ [segment])
      copySegments files (place ++ [segment]) rest

/-- The file system with a copy of what is at a path. -/
def copyPath (files : FileSystem) (path : String) : IO FileSystem :=
  copySegments files (files.start path) (Path.segments path)

/-- The file system with a copy of a directory and of the files in it. -/
def copyDirectory (files : FileSystem) (path : String) : IO FileSystem := do
  let files ← copyPath files path
  match files.locate path with
  | .error _ => pure files
  | .ok place =>
    let names := (← namesAt? place).getD []
    names.foldlM (fun files name => copyPlace files (place ++ [name])) files

/-- The file system with the working directory in it and nothing else. -/
def surroundings : IO FileSystem := do
  let working := Path.steps true (Path.segments (← IO.currentDir).toString)
  let blank : FileSystem := ⟨.directory [], working, some ⟨255, 4096⟩⟩
  copySegments blank [] working

/-- The file system with all that a command line reads. -/
def copyFor (line : Command.Line) : IO FileSystem := do
  let files ← surroundings
  let files ← line.configPaths.foldlM copyPath files
  let files ← (line.definitionDirs files).foldlM copyDirectory files
  (line.runPaths files).foldlM copyPath files

/-- The files that are new or have changed written out. -/
def writeChanges (before after : FileSystem) : IO Unit := do
  let old := before.tree.files
  for (place, content) in after.tree.files do
    if old.lookup place != some content then
      IO.FS.createDirAll (pathOf place.dropLast)
      match content with
      | .text text => IO.FS.writeFile (pathOf place) text
      | .binary bytes => IO.FS.writeBinFile (pathOf place) ⟨bytes.toArray⟩

/-- The variables that the program looks at. -/
def variableNames : List String :=
  ["PROVIDER_GEN_CONFIG", "PROVIDER_GEN_OUTPUT", "PROVIDER_GEN_LOG_LEVEL",
    "PROVIDER_GEN_LOG_FORMAT", "PROVIDER_GEN_LOG_TARGET_FILTER",
    "PROVIDER_GEN_LOG_INCLUDE_LOCATION", "RUST_LOG"]

/-- The variables with their values. -/
def readEnvironment : IO (List (String × String)) :=
  variableNames.filterMapM fun name => do
    pure ((← IO.getEnv name).map fun value => (name, value))

/-- What is shown at the end of the program. -/
def showEnding (settings : Log.Settings) (ending : Command.Ending) : IO Unit := do
  for event in ending.log do
    IO.eprintln (if settings.format = .json then event.json else event.line)
  for notice in ending.notices do
    IO.eprintln notice
  IO.print ending.output

/-- The program. -/
def run (words : List String) : IO UInt32 := do
  let environment ← readEnvironment
  let before ←
    match Command.Line.read environment words with
    | .ok line => copyFor line
    | .error _ => surroundings
  let (after, ending) := Command.runProgram environment words before
  writeChanges before after
  showEnding (.ofVariables environment) ending
  pure ending.code.toUInt32

end Stencil.Main

/-- The program. -/
def main (words : List String) : IO UInt32 :=
  Stencil.Main.run words
