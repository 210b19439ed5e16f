import Stencil.Artifact
import Stencil.Config
import Stencil.Project.Definitions
import Stencil.Schema.Codec
import Stencil.Section.Block
import Stencil.Section.Reconcile

/-!
# The plan of a run

Every output with its content, worked out in memory. Code is merged section by section into the file
that is there; a document replaces it. Two outputs may not have one place. Nothing is written, so a
fault in any schema or template leaves all files as they are.
-/

namespace Stencil.Project

/-- An output that is to be made: its place, for whom it is made, and how. -/
structure Output where
  path : String
  owner : String
  template : Template.Source
  context : List (String × Template.Value)

/-- An output with its content. -/
structure PlannedFile where
  path : String
  owner : String
  content : String
  /-- The file does not hold this content already. -/
  changed : Bool
deriving DecidableEq, Repr

/-- All outputs of a run. -/
structure Plan where
  /-- How many schemas there are. -/
  schemas : Nat
  files : List PlannedFile
deriving DecidableEq, Repr

/-- A template of a directory. -/
def loadTemplate (files : FileSystem) (directory name : String) (kind : Template.OutputKind) :
    Except Fault Template.Source := do
  let path := Path.join directory name
  let text ← (files.readText path).mapError (.files .read path)
  pure ⟨name, kind, text⟩

/-- The text of the file at the place of an output, if there is one. -/
def readExisting (files : FileSystem) (path : String) : Except Fault (Option String) :=
  match files.readText path with
  | .ok text => pure (some text)
  | .error .notFound => pure none
  | .error fault => throw (.files .read path fault)

/-- The variables of a template for one schema. -/
def schemaContext (config : Config) (schema : Schema) : List (String × Template.Value) :=
  ("provider", .text config.provider) :: schema.toFields

/-- The variables of the template for all schemas. -/
def providerContext (config : Config) (schemas : List Schema) : List (String × Template.Value) :=
  [("provider", .text config.provider),
    ("schemas", .list (schemas.map fun schema => .ofFields schema.toFields))]

/-- The variables of the template for the changelog. -/
def changelogContext (config : Config) (content : String) : List (String × Template.Value) :=
  [("content", .text content), ("provider", .text config.provider)]

/-- The outputs for one schema, given the templates of all artifacts. -/
def schemaOutputs (config : Config) (templates : List Template.Source) (schema : Schema) :
    List Output :=
  ((Artifact.all.zip templates).filter (·.1.family.appliesTo schema.header)).map
    fun (artifact, template) =>
      { path := Path.join config.outputDir (artifact.place schema.header)
        owner := schema.header.name
        template := template
        context := schemaContext config schema }

/-- An output that is made once. -/
def sharedOutput (config : Config) (artifact : SharedArtifact) (template : Template.Source)
    (context : List (String × Template.Value)) : Output :=
  { path := Path.join config.outputDir artifact.place
    owner := artifact.owner
    template := template
    context := context }

/-- The functions of the templates of a run. -/
def library (config : Config) : Template.Library := ⟨config.maxNestingDepth⟩

/-- The text that an output's template yields. -/
def Output.fresh (config : Config) (output : Output) : Except Fault String :=
  (output.template.render (library config) output.context).mapError
    (.ofRender output.template.name output.owner)

/-- The content of an output, given what is in its place and what its template yields. -/
def Output.content (output : Output) (existing : Option String) (fresh : String) : String :=
  match output.template.kind with
  | .code => Section.reconcile existing fresh
  | .document => fresh

/-- The output that has the same place as a path. -/
def owner? (planned : List PlannedFile) (path : String) : Option PlannedFile :=
  planned.find? fun file => Path.identity file.path == Path.identity path

/-- One more output planned. -/
def planOutput (config : Config) (files : FileSystem) (planned : List PlannedFile)
    (output : Output) : Traced (List PlannedFile) := do
  let fresh ← Traced.of (output.fresh config)
  match owner? planned output.path with
  | some first => Traced.of (throw (.duplicateOutput output.path first.owner output.owner))
  | none =>
    let existing ← Traced.of (readExisting files output.path)
    match output.template.kind, existing with
    | .code, some text => Traced.report (.reconciling output.path (Section.names text))
    | _, _ => pure ()
    let content := output.content existing fresh
    pure (planned ++ [⟨output.path, output.owner, content, existing != some content⟩])

/-- All outputs of a run: those for the schemas in order, then the two that are made once. -/
def plan (config : Config) (files : FileSystem) : Traced Plan := do
  let schemas := (← loadSchemas files config.definitionsDir).map (·.2)
  let templates ← Artifact.all.mapM fun artifact =>
    Traced.of (loadTemplate files config.templatesDir artifact.template artifact.kind)
  let planned ← (schemas.flatMap (schemaOutputs config templates)).foldlM
    (planOutput config files) []
  let provider ← Traced.of
    (loadTemplate files config.templatesDir providerArtifact.template providerArtifact.kind)
  let planned ← planOutput config files planned
    (sharedOutput config providerArtifact provider (providerContext config schemas))
  let content ← Traced.onFile .read config.changelog (files.readText config.changelog)
  let changelog ← Traced.of
    (loadTemplate files config.templatesDir changelogArtifact.template changelogArtifact.kind)
  let planned ← planOutput config files planned
    (sharedOutput config changelogArtifact changelog (changelogContext config content))
  pure ⟨schemas.length, planned⟩

end Stencil.Project
