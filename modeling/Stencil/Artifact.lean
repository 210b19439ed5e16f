import Stencil.Schema.Basic
import Stencil.Template.Source

/-!
# Artifacts

The outputs that are made for every schema, in order, each from a template of its own, and the two
that are made once for all schemas. A schema says which families of artifacts it has no part in.
-/

namespace Stencil

/-- The families of artifacts. -/
inductive Family where
  | model
  | dataSource
  | resource
deriving DecidableEq, Repr

/-- The schema has a part in a family. -/
def Family.appliesTo (header : Schema.Header) : Family → Bool
  | .model => true
  | .dataSource => !header.noDataSource
  | .resource => !header.noResource

/-- An output for each schema. Its place is given by what stands around the schema's short name. -/
structure Artifact where
  template : String
  beforeName : String
  afterName : String
  kind : Template.OutputKind
  family : Family

/-- The output that holds the data model. -/
def modelArtifact : Artifact :=
  ⟨"model.rs", "src/provider/model_", ".rs", .code, .model⟩

namespace Artifact

/-- The place of the artifact for a schema. -/
def place (artifact : Artifact) (header : Schema.Header) : String :=
  artifact.beforeName ++ header.tfName ++ artifact.afterName

/-- The outputs for each schema, in the order in which they are made. -/
def all : List Artifact :=
  [modelArtifact,
    ⟨"data_source.rs", "src/provider/data_source_", ".rs", .code, .dataSource⟩,
    ⟨"data_source_test.rs", "tests/data_source_", ".rs", .code, .dataSource⟩,
    ⟨"resource.rs", "src/provider/resource_", ".rs", .code, .resource⟩,
    ⟨"resource_test.rs", "tests/resource_", ".rs", .code, .resource⟩,
    ⟨"data-source.tf", "examples/data-sources/", "/data-source.tf", .document, .dataSource⟩,
    ⟨"resource.tf", "examples/resources/", "/resource.tf", .document, .resource⟩,
    ⟨"import.sh", "examples/resources/", "/import.sh", .document, .resource⟩]

/-- The artifacts of a schema. -/
def applicable (header : Schema.Header) : List Artifact :=
  all.filter (·.family.appliesTo header)

end Artifact

/-- An output that is made once. -/
structure SharedArtifact where
  template : String
  place : String
  kind : Template.OutputKind
  /-- What stands for the name of a schema in messages. -/
  owner : String

/-- The output that registers all schemas. -/
def providerArtifact : SharedArtifact :=
  ⟨"provider.rs", "src/provider/mod.rs", .code, "<aggregate>"⟩

/-- The output that shows the changelog. -/
def changelogArtifact : SharedArtifact :=
  ⟨"changelog.md", "docs/guides/changelog.md", .document, "<changelog>"⟩

end Stencil
