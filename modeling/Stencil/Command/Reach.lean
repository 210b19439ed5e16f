import Stencil.Command.Perform

/-!
# What a command line reads

The paths that a command line reads, found out step by step: the configuration says where the
schemas are, and the schemas say which outputs there are. A copy of the file system that has what
stands at these paths is all that performing the command line needs.
-/

namespace Stencil.Command

/-- The paths at which the configuration may lie. -/
def Line.configPaths (line : Line) : List String :=
  line.config.toList ++ [Config.fileName]

/-- The configuration that holds for a command line, if it can be read. -/
def Line.config? (line : Line) (files : FileSystem) : Option Config :=
  (loadConfig files line.config).result.toOption.map fun config =>
    match line.action with
    | some (.generate (some output) _) => { config with outputDir := output }
    | _ => config

/-- The directories whose files may be schemas. -/
def Line.definitionDirs (line : Line) (files : FileSystem) : List String :=
  (line.config? files).toList.map (·.definitionsDir)

/-- The paths of all inputs and outputs of a run with a configuration and these schemas. -/
def runPaths (config : Config) (schemas : List Schema) : List String :=
  let templates := Artifact.all.map (·.template) ++
    [providerArtifact.template, changelogArtifact.template]
  let places := schemas.flatMap fun schema =>
    (Artifact.applicable schema.header).map (·.place schema.header)
  config.changelog :: templates.map (Path.join config.templatesDir) ++
    (places ++ [providerArtifact.place, changelogArtifact.place]).map (Path.join config.outputDir)

/-- The paths that a run reads besides the configuration and the schemas. -/
def Line.runPaths (line : Line) (files : FileSystem) : List String :=
  match line.config? files, line.action.getD .default with
  | some config, .generate .. =>
    match (Project.loadSchemas files config.definitionsDir).result with
    | .ok schemas => Command.runPaths config (schemas.map (·.2))
    | .error _ => []
  | _, _ => []

end Stencil.Command
