import Stencil.Artifact
import Stencil.Command.Line
import Stencil.Command.Perform
import Stencil.Command.Program
import Stencil.Command.Reach
import Stencil.Command.Usage
import Stencil.Config
import Stencil.FileSystem.Basic
import Stencil.FileSystem.Path
import Stencil.FileSystem.Tree
import Stencil.Log.Event
import Stencil.Log.Filter
import Stencil.Log.Json
import Stencil.Log.Settings
import Stencil.Main
import Stencil.Name
import Stencil.Number.Literal
import Stencil.Number.Shortest
import Stencil.Number.Width
import Stencil.Project.Configuration
import Stencil.Project.Definitions
import Stencil.Project.Fault
import Stencil.Project.Plan
import Stencil.Project.Run
import Stencil.Project.Trace
import Stencil.Proofs.Command.Lint
import Stencil.Proofs.FileSystem.Destination
import Stencil.Proofs.FileSystem.Directory
import Stencil.Proofs.FileSystem.Growth
import Stencil.Proofs.FileSystem.Path
import Stencil.Proofs.FileSystem.Tree
import Stencil.Proofs.FileSystem.Walk
import Stencil.Proofs.Name
import Stencil.Proofs.Outcome
import Stencil.Proofs.Project.Collision
import Stencil.Proofs.Project.Layout
import Stencil.Proofs.Project.Outputs
import Stencil.Proofs.Project.Place
import Stencil.Proofs.Project.Plan
import Stencil.Proofs.Project.Registration
import Stencil.Proofs.Project.Repeat
import Stencil.Proofs.Project.Reread
import Stencil.Proofs.Project.Run
import Stencil.Proofs.Project.Write
import Stencil.Proofs.Schema.Bounds
import Stencil.Proofs.Schema.Codec
import Stencil.Proofs.Schema.Lint
import Stencil.Proofs.Schema.Loaded
import Stencil.Proofs.Schema.Naming
import Stencil.Proofs.Schema.Nested
import Stencil.Proofs.Schema.Position
import Stencil.Proofs.Schema.Preorder
import Stencil.Proofs.Schema.Siblings
import Stencil.Proofs.Schema.TypeName
import Stencil.Proofs.Schema.Validation
import Stencil.Proofs.Section.Block
import Stencil.Proofs.Section.Closing
import Stencil.Proofs.Section.Enclosed
import Stencil.Proofs.Section.Grammar
import Stencil.Proofs.Section.Idempotence
import Stencil.Proofs.Section.Layout
import Stencil.Proofs.Section.Marker
import Stencil.Proofs.Section.Merge
import Stencil.Proofs.Section.Outline
import Stencil.Proofs.Section.Preservation
import Stencil.Proofs.Section.Regeneration
import Stencil.Proofs.Standard.Containment
import Stencil.Proofs.Standard.Declared
import Stencil.Proofs.Standard.Depth
import Stencil.Proofs.Standard.Example
import Stencil.Proofs.Standard.Import
import Stencil.Proofs.Standard.Model
import Stencil.Proofs.Standard.Provider
import Stencil.Proofs.Standard.Sectioned
import Stencil.Proofs.Standard.Sections.DataSource
import Stencil.Proofs.Standard.Sections.Model
import Stencil.Proofs.Standard.Sections.Resource
import Stencil.Proofs.Standard.Source
import Stencil.Proofs.Standard.Test
import Stencil.Proofs.Template.About
import Stencil.Proofs.Template.Check
import Stencil.Proofs.Template.Flow
import Stencil.Proofs.Template.Kind
import Stencil.Proofs.Template.Nesting
import Stencil.Proofs.Template.Question
import Stencil.Proofs.Template.Rule
import Stencil.Proofs.Template.Scope
import Stencil.Proofs.Template.Silent
import Stencil.Proofs.Template.Typing
import Stencil.Proofs.Text.Line
import Stencil.Proofs.Text.Piece
import Stencil.Schema.Basic
import Stencil.Schema.Codec
import Stencil.Schema.Derive
import Stencil.Schema.Document
import Stencil.Schema.Key
import Stencil.Schema.Lint
import Stencil.Schema.Nested
import Stencil.Schema.Path
import Stencil.Schema.Predicate
import Stencil.Schema.Reading
import Stencil.Schema.Rule
import Stencil.Section.Block
import Stencil.Section.Marker
import Stencil.Section.Reconcile
import Stencil.Standard
import Stencil.Template.Builtin
import Stencil.Template.Fault
import Stencil.Template.Grammar
import Stencil.Template.Library
import Stencil.Template.Node
import Stencil.Template.Operator
import Stencil.Template.Order
import Stencil.Template.Print
import Stencil.Template.Render
import Stencil.Template.Scope
import Stencil.Template.Source
import Stencil.Template.Token
import Stencil.Template.Value
import Stencil.Text.Blank
import Stencil.Text.Case
import Stencil.Text.CaseTable
import Stencil.Text.InvisibleTable
import Stencil.Text.Line
import Stencil.Text.Piece
import Stencil.Text.Placeholder
import Stencil.Text.Quoted
import Stencil.Toml.Document
import Stencil.Toml.Item
import Stencil.Toml.Literal
import Stencil.Yaml.Core
import Stencil.Yaml.Cursor
import Stencil.Yaml.Encoding
import Stencil.Yaml.Label
import Stencil.Yaml.Node
import Stencil.Yaml.Scalar
import Stencil.Yaml.Token
import Stencil.Proofs.Section.Extraction
import Stencil.Proofs.FileSystem.Relisting
import Stencil.Proofs.Project.Definitions
import Stencil.Proofs.Template.Message
import Stencil.Proofs.Project.Listing
