import Stencil.Proofs.Section.Block

/-!
# Layouts

How a text splits into outside lines, closed sections and at most one section that never closes,
which then runs to the end. The members of a layout carry the proofs that they are what they are
called, so a layout splits a text as soon as it has the lines of the text. `exists_unique_layout`
says that each text splits in exactly one way.
-/

namespace Stencil.Section

open Text (Line EndsLine Formed)

/-- A line outside all sections, which opens none, or a section that closes. -/
inductive Part where
  | outside (line : Line) (opens_none : ∀ name, opens name line = false)
  | closed (name : List Char) (block : Block name)

/-- A section that no later line closes. -/
structure OpenTail where
  name : List Char
  first : Line
  rest : List Line
  opens_first : opens name first = true
  rest_open : ∀ line ∈ rest, closes name line = false

/-- The parts of a text in order, and the section at its end that does not close. -/
@[ext]
structure Layout where
  parts : List Part
  tail : Option OpenTail

/-- The lines of a part. -/
def Part.lines : Part → List Line
  | .outside line _ => [line]
  | .closed _ block => block.lines

/-- The lines of a section that does not close. -/
def OpenTail.lines (tail : OpenTail) : List Line :=
  tail.first :: tail.rest

namespace Layout

/-- The lines of the section that does not close, if there is one. -/
def tailLines (layout : Layout) : List Line :=
  (layout.tail.map OpenTail.lines).getD []

/-- The lines of a layout. -/
def lines (layout : Layout) : List Line :=
  layout.parts.flatMap Part.lines ++ layout.tailLines

/-- The text of a layout. -/
def text (layout : Layout) : List Char :=
  layout.lines.flatten

/-- The layout splits the text into its lines. -/
def Splits (layout : Layout) (source : List Char) : Prop :=
  layout.lines = Text.lines source

/-- The outside lines and the names of the closed sections of a layout, in one sequence. -/
def outline (layout : Layout) : List (Line ⊕ List Char) :=
  layout.parts.map fun
    | .outside line _ => .inl line
    | .closed name _ => .inr name

/-- The outside lines of a layout. -/
def outsideLines (layout : Layout) : List Line :=
  layout.outline.filterMap Sum.getLeft?

/-- The names of the closed sections of a layout. -/
def sectionNames (layout : Layout) : List (List Char) :=
  layout.outline.filterMap Sum.getRight?

end Layout

/-- A part has lines. -/
theorem Part.lines_ne_nil (part : Part) : part.lines ≠ [] := by
  cases part <;> simp [Part.lines, Block.lines]

/-- Sections that do not close are equal if their lines are. -/
theorem OpenTail.eq_of_lines {first second : OpenTail} (h : first.lines = second.lines) :
    first = second := by
  obtain ⟨name, line, rest, hopens, hrest⟩ := first
  obtain ⟨other, _, _, hother, _⟩ := second
  simp only [OpenTail.lines, List.cons.injEq] at h
  obtain ⟨rfl, rfl⟩ := h
  obtain rfl := opens_unique hopens hother
  rfl

/-- Parts at the start of the same lines are equal, and so is what follows them. -/
theorem Part.eq_of_append {first second : Part} {rest others : List Line}
    (h : first.lines ++ rest = second.lines ++ others) : first = second ∧ rest = others := by
  cases first with
  | outside line hline =>
      cases second with
      | outside other _ =>
          obtain ⟨rfl, rfl⟩ : line = other ∧ rest = others := by simpa [Part.lines] using h
          exact ⟨rfl, rfl⟩
      | closed name block =>
          -- The common first line opens a section on one side only.
          have hfirst : line = block.first := by simp_all [Part.lines, Block.lines]
          have hopens := block.opens_first
          rw [← hfirst, hline name] at hopens
          exact absurd hopens (by simp)
  | closed name block =>
      cases second with
      | outside line hline =>
          have hfirst : block.first = line := by simp_all [Part.lines, Block.lines]
          have hopens := block.opens_first
          rw [hfirst, hline name] at hopens
          exact absurd hopens (by simp)
      | closed other second =>
          have hfirst : block.first = second.first := by simp_all [Part.lines, Block.lines]
          obtain rfl := opens_unique block.opens_first (hfirst ▸ second.opens_first)
          -- Both are what closes the section that their common first line opens.
          have hblock : block = second := by
            have hopen : Block.close? block.first block.opens_first
                (block.body ++ [block.last] ++ rest) = some block :=
              Block.close_eq_some_iff.2 ⟨rest, by simp [Block.lines]⟩
            have hsecond : Block.close? block.first block.opens_first
                (block.body ++ [block.last] ++ rest) = some second :=
              Block.close_eq_some_iff.2 ⟨others, by simpa [Part.lines, Block.lines] using h⟩
            exact Option.some.inj (hopen.symm.trans hsecond)
          subst hblock
          exact ⟨rfl, by simpa [Part.lines] using h⟩

/-- A section that does not close does not start like a part. -/
theorem OpenTail.lines_ne_append (tail : OpenTail) (part : Part) (rest : List Line) :
    tail.lines ≠ part.lines ++ rest := by
  intro h
  cases part with
  | outside line hline =>
      have hfirst : tail.first = line := by simp_all [OpenTail.lines, Part.lines]
      have hopens := tail.opens_first
      rw [hfirst, hline] at hopens
      exact absurd hopens (by simp)
  | closed name block =>
      have hsplit : tail.first = block.first ∧ tail.rest = block.body ++ block.last :: rest := by
        simpa [OpenTail.lines, Part.lines, Block.lines] using h
      obtain rfl := opens_unique tail.opens_first (hsplit.1 ▸ block.opens_first)
      have hlast := tail.rest_open block.last (by simp [hsplit.2])
      rw [block.closes_last] at hlast
      exact absurd hlast (by simp)

namespace Layout

/-- A layout with a part before it. -/
def cons (part : Part) (layout : Layout) : Layout :=
  { layout with parts := part :: layout.parts }

/-- The lines of a part stand before those of the layout that it is put before. -/
@[simp]
theorem lines_cons (part : Part) (layout : Layout) :
    (layout.cons part).lines = part.lines ++ layout.lines := by
  simp [cons, lines, tailLines]

/-- The lines of a layout without parts are those of its tail. -/
@[simp]
theorem lines_tail (tail : Option OpenTail) :
    (Layout.mk [] tail).lines = (tail.map OpenTail.lines).getD [] :=
  rfl

/-- A layout is taken apart part by part. -/
theorem induction {motive : Layout → Prop} (htail : ∀ tail, motive ⟨[], tail⟩)
    (hcons : ∀ part layout, motive layout → motive (layout.cons part)) (layout : Layout) :
    motive layout := by
  obtain ⟨parts, tail⟩ := layout
  induction parts with
  | nil => exact htail tail
  | cons part rest ih => exact hcons part ⟨rest, tail⟩ ih

/-- The lines of a layout without parts are not those of one that starts with a part. -/
theorem lines_tail_ne (tail : Option OpenTail) (part : Part) (layout : Layout) :
    (Layout.mk [] tail).lines ≠ (layout.cons part).lines := by
  rw [lines_cons, lines_tail]
  cases tail with
  | none =>
      intro h
      exact part.lines_ne_nil (List.append_eq_nil_iff.1 h.symm).1
  | some tail => exact tail.lines_ne_append part layout.lines

/-- Layouts with the same lines are equal. -/
theorem eq_of_lines {first second : Layout} (h : first.lines = second.lines) : first = second := by
  induction first using Layout.induction generalizing second with
  | htail tail =>
      cases second using Layout.induction with
      | htail other =>
          rw [lines_tail, lines_tail] at h
          cases tail <;> cases other
          · rfl
          · simp [OpenTail.lines] at h
          · simp [OpenTail.lines] at h
          · exact congrArg (fun tail => Layout.mk [] (some tail)) (OpenTail.eq_of_lines h)
      | hcons part layout _ => exact absurd h (lines_tail_ne tail part layout)
  | hcons part layout ih =>
      cases second using Layout.induction with
      | htail other => exact absurd h.symm (lines_tail_ne other part layout)
      | hcons other rest _ =>
          rw [lines_cons, lines_cons] at h
          obtain ⟨rfl, hrest⟩ := Part.eq_of_append h
          rw [ih hrest]

/-- Every list of lines is that of a layout. -/
theorem exists_of_lines (list : List Line) : ∃ layout : Layout, layout.lines = list := by
  match list with
  | [] => exact ⟨⟨[], none⟩, rfl⟩
  | line :: rest =>
      by_cases hopens : ∃ name, opens name line = true
      · obtain ⟨name, hname⟩ := hopens
        -- A section that closes is the first part; one that never closes takes all that is left.
        cases hclose : Block.close? line hname rest with
        | none =>
            exact ⟨⟨[], some ⟨name, line, rest, hname, Block.close_eq_none_iff.1 hclose⟩⟩, rfl⟩
        | some block =>
            obtain ⟨after, hafter⟩ := Block.close_eq_some_iff.1 hclose
            have hshorter : after.length < (line :: rest).length := by
              rw [hafter, List.length_append, Block.lines, List.length_cons]
              omega
            obtain ⟨layout, hlayout⟩ := exists_of_lines after
            exact ⟨layout.cons (.closed name block), by simp [Part.lines, hlayout, hafter]⟩
      · obtain ⟨layout, hlayout⟩ := exists_of_lines rest
        have houtside : ∀ name, opens name line = false := by simpa using hopens
        exact ⟨layout.cons (.outside line houtside), by simp [Part.lines, hlayout]⟩
termination_by list.length
decreasing_by
  · exact hshorter
  · exact Nat.lt_succ_self _

variable {layout other : Layout} {source : List Char}

/-- A text splits in at most one way. -/
theorem Splits.unique (h : layout.Splits source) (hother : other.Splits source) :
    layout = other :=
  eq_of_lines (h.trans hother.symm)

/-- The text of a layout that splits a text is that text. -/
theorem Splits.text_eq (h : layout.Splits source) : layout.text = source := by
  rw [text, h, Text.flatten_lines]

/-- A layout whose lines are lines splits its own text. -/
theorem splits_text (h : Formed layout.lines) : layout.Splits layout.text :=
  (Text.lines_flatten h).symm

/-- The lines of a layout that splits a text are lines. -/
theorem Splits.formed (h : layout.Splits source) : Formed layout.lines :=
  h ▸ Text.formed_lines source

/-- The lines of a part are lines of the layout, one after the other. -/
theorem lines_of_mem {part : Part} (h : part ∈ layout.parts) :
    ∃ before after, layout.lines = before ++ part.lines ++ after := by
  obtain ⟨front, back, hparts⟩ := List.append_of_mem h
  refine ⟨front.flatMap Part.lines, back.flatMap Part.lines ++ layout.tailLines, ?_⟩
  simp [lines, hparts]

end Layout

/-- Every text splits in exactly one way. -/
theorem exists_unique_layout (source : List Char) :
    ∃ layout : Layout, layout.Splits source ∧
      ∀ other : Layout, other.Splits source → other = layout := by
  obtain ⟨layout, hlayout⟩ := Layout.exists_of_lines (Text.lines source)
  exact ⟨layout, hlayout, fun other hother => Layout.Splits.unique hother hlayout⟩

end Stencil.Section
