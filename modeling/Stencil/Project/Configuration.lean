import Stencil.Config
import Stencil.Project.Trace

/-!
# The configuration of a run

Where the configuration is looked for and how it is read. A named file must exist; without a name a
file in the working directory counts if there is one, and else the defaults hold. Paths in a file
that lies elsewhere are taken from its directory.
-/

namespace Stencil.Project

/-- The configuration in a file, if there is one. -/
def readConfig (files : FileSystem) (path : String) : Except Fault (Option Config) :=
  if files.exists? path then do
    let text ← (files.readText path).mapError (.files .read path)
    let config ← (Config.ofText text).mapError (.unreadableConfig path)
    pure (some config)
  else pure none

/-- The file that holds the configuration: the one that is named, or the usual one if it exists. -/
def configPath? (files : FileSystem) (named : Option String) : Option String :=
  match named with
  | some path => some path
  | none => if files.exists? Config.fileName then some Config.fileName else none

/-- A configuration from a file, with its paths. -/
def relocate (config : Config) (path : String) : Config :=
  match Path.parent? path with
  | some root => if root = "" then config else config.rootedAt root
  | none => config

/-- The configuration that holds, unless a named file is missing. -/
def configuration (files : FileSystem) (named : Option String) : Traced Config :=
  match configPath? files named with
  | none => do
    Traced.report .noConfiguration
    pure .default
  | some path => do
    let found ← Traced.of (readConfig files path)
    Traced.report (.loadedConfiguration path)
    pure (relocate (found.getD .default) path)

end Stencil.Project
