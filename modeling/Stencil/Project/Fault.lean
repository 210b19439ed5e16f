import Stencil.FileSystem.Basic
import Stencil.Schema.Document
import Stencil.Template.Source

/-!
# Faults of a run

Why a run stops. A fault says which schema, template, output or file it is about.
-/

namespace Stencil.Project

/-- What was attempted with a file. -/
inductive FileAction where
  | read
  | write
  | list
  | create
deriving DecidableEq, Repr

/-- An action in one word. -/
def FileAction.label : FileAction → String
  | .read => "read"
  | .write => "write"
  | .list => "list"
  | .create => "create"

/-- Why a run stops. -/
inductive Fault where
  | unreadableSchema (path : String) (fault : Schema.DecodeFault)
  | invalidSchema (path : String) (violation : Schema.Violation)
  | malformedTemplate (template : String)
  | failedTemplate (template owner : String) (fault : Template.Fault)
  | files (action : FileAction) (path : String) (fault : FileFault)
  /-- Two outputs have one place. -/
  | duplicateOutput (path first second : String)
  | unreadableConfig (path : String) (fault : Schema.DecodeFault)
deriving DecidableEq, Repr

/-- The fault in words. What a document, a template or a file has to say about it would follow. -/
def Fault.message : Fault → String
  | .unreadableSchema path _ => s!"failed to parse schema {path}: "
  | .invalidSchema path violation => s!"invalid schema {path}: {violation.message}"
  | .malformedTemplate template => s!"failed to parse template '{template}': "
  | .failedTemplate template owner _ => s!"failed to render template '{template}' for '{owner}': "
  | .files action path _ => s!"failed to {action.label} {path}: "
  | .duplicateOutput path first second =>
    s!"output {path} is produced by both '{first}' and '{second}'"
  | .unreadableConfig path _ => s!"failed to parse generator config {path}: "

/-- The fault of a template in a run. -/
def Fault.ofRender (template owner : String) : Template.RenderFault → Fault
  | .malformed => .malformedTemplate template
  | .failed fault => .failedTemplate template owner fault

/-- The fault of a schema document in a run. -/
def Fault.ofLoad (path : String) : Schema.LoadFault → Fault
  | .unreadable fault => .unreadableSchema path fault
  | .invalid violation => .invalidSchema path violation

end Stencil.Project
