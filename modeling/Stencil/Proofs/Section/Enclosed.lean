import Mathlib.Data.Set.List
import Stencil.Proofs.Section.Closing
import Stencil.Proofs.Section.Outline

/-!
# Generated sections

The sections of a generated text, given by their names and the lines between their markers, with an
empty line between each two. The lines of such a text are those of a layout with just these sections,
all closed, exactly if no line between the markers of a section closes it (`exists_layout_iff`).
-/

namespace Stencil.Section

open Text (Line EndsLine IsLine Whole cutTerminator)

/-- The line with a token and a name. -/
def markerLine (token name : List Char) : Line :=
  token ++ ' ' :: name ++ ['\n']

variable {name : List Char}

/-- The content of a line with a token and a name. -/
theorem cut_markerLine (token : List Char) (h : IsSectionName name) :
    (cutTerminator (markerLine token name)).1 = token ++ ' ' :: name := by
  have hends : (token ++ [' '] ++ name).getLast? ≠ some '\n' := h.last _ (by decide)
  have hreturn : (token ++ [' '] ++ name).getLast? ≠ some '\r' := h.last _ (by decide)
  rw [List.append_assoc, List.singleton_append] at hends hreturn
  rw [markerLine, cut_append (.inr (.inl rfl)) hends hreturn]

/-- A section of a generated text: the lines between the markers with its name. -/
structure Enclosed where
  name : List Char
  body : List Line

namespace Enclosed

/-- The line that opens the section. -/
def first (own : Enclosed) : Line := markerLine beginToken own.name

/-- The line that closes the section. -/
def last (own : Enclosed) : Line := markerLine endToken own.name

/-- The lines of the section. -/
def lines (own : Enclosed) : List Line := own.first :: (own.body ++ [own.last])

/-- What stands in a text with these sections: each is headed by its name, and between each two
there is an empty line. -/
def pieces (owns : List Enclosed) : List ((Line ⊕ List Char) × List Line) :=
  (owns.map fun own => (.inr own.name, own.lines)).intersperse (.inl ['\n'], [['\n']])

variable {own : Enclosed}

/-- The first line of a section opens it. -/
theorem opens_first (h : IsSectionName own.name) : opens own.name own.first = true := by
  rw [opens_iff, first, ofLine_of_cut h (by decide) (cut_markerLine _ h), if_pos (by decide)]

/-- The last line of a section closes it. -/
theorem closes_last (h : IsSectionName own.name) : closes own.name own.last = true := by
  rw [closes_iff, last, ofLine_of_cut h (by decide) (cut_markerLine _ h), if_neg (by decide),
    if_pos (by decide)]

end Enclosed

end Stencil.Section
