import Stencil.Template.Grammar
import Stencil.Template.Render

/-!
# Template files

A template as it lies in its file, with the kind of output it makes. The first line of a template
for code keeps other tools from taking the template for code, and is not part of what is rendered.
-/

namespace Stencil.Template

/-- What a template makes. Code shares its file with text written by hand; a document is generated
as a whole. -/
inductive OutputKind where
  | code
  | document
deriving DecidableEq, Repr

/-- A template: its name, what it makes, and its text. -/
structure Source where
  name : String
  kind : OutputKind
  text : String

/-- What follows the first line end of a text, or nothing if it has none. -/
def afterFirstLine (text : List Char) : List Char :=
  match Text.cutAt '\n' text with
  | some (_, rest) => rest
  | none => []

/-- The characters that are rendered. -/
def Source.letters (source : Source) : List Char :=
  match source.kind with
  | .code => afterFirstLine source.text.toList
  | .document => source.text.toList

/-- The part of the text that is rendered. -/
def Source.body (source : Source) : String := .ofList source.letters

/-- Why a template yields no text. -/
inductive RenderFault where
  /-- The template is not well formed. -/
  | malformed
  /-- The rendering failed. -/
  | failed (fault : Fault)
deriving DecidableEq, Repr

/-- The text that a template yields in a context. -/
def Source.render (library : Library) (source : Source) (context : List (String × Value)) :
    Except RenderFault String :=
  match parse? source.letters with
  | none => .error .malformed
  | some template => (renderStmts library template context).mapError .failed

end Stencil.Template
