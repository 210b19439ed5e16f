import Stencil.Proofs.Section.Layout

/-!
# What a merge does to a layout

Merging a fresh text into an existing one acts part by part on the layout of the existing text:
outside lines and the section that does not close stay, and a closed section becomes the first fresh
section of its name or goes. `reconcile_toList` says that the merged text is the text of the
refreshed layout, and `splits_reconcile` that the merged text splits in exactly that way, so that a
second merge can be described by the same step.
-/

namespace Stencil.Section

open Text (Line EndsLine IsLine Formed)

/-- What becomes of a part. A closed section turns into the first fresh one of its name, which takes
the terminator of the old one where it has none. -/
def Part.refreshed (fresh : List Char) : Part → Option Part
  | .outside line opens_none => some (.outside line opens_none)
  | .closed name block =>
      (Block.find? name (Text.lines fresh)).map fun found =>
        .closed name (found.terminatedLike block.last)

namespace Layout

/-- A layout with all its parts refreshed. -/
def refreshed (fresh : List Char) (layout : Layout) : Layout :=
  { layout with parts := layout.parts.filterMap (Part.refreshed fresh) }

variable {fresh : List Char}

/-- The text of a part stands before that of the layout that it is put before. -/
theorem text_cons (part : Part) (layout : Layout) :
    (layout.cons part).text = part.lines.flatten ++ layout.text := by
  simp [text]

/-- A part is refreshed on its own. -/
theorem refreshed_cons (part : Part) (layout : Layout) :
    (layout.cons part).refreshed fresh =
      match part.refreshed fresh with
      | none => layout.refreshed fresh
      | some next => (layout.refreshed fresh).cons next := by
  simp only [refreshed, cons, List.filterMap_cons]
  cases part.refreshed fresh <;> rfl

end Layout

/-- Once a section closes, the merge goes on outside. -/
theorem merge_closed {name : List Char} {body : List Line} {last : Line} (fresh : List Char)
    (held rest : List Line) (hbody : ∀ line ∈ body, closes name line = false)
    (hlast : closes name last = true) :
    mergeLines fresh (some ⟨name, held⟩) (body ++ last :: rest) =
      replacement fresh name last ++ mergeLines fresh none rest := by
  induction body generalizing held with
  | nil => simp [mergeLines, hlast]
  | cons line others ih =>
      have hline := hbody line List.mem_cons_self
      have hothers := fun other hother => hbody other (List.mem_cons_of_mem line hother)
      simpa [mergeLines, hline] using ih (held ++ [line]) hothers

/-- A section that does not close is kept. -/
theorem merge_open {name : List Char} {rest : List Line} (fresh : List Char) (held : List Line)
    (hrest : ∀ line ∈ rest, closes name line = false) :
    mergeLines fresh (some ⟨name, held⟩) rest = (held ++ rest).flatten := by
  induction rest generalizing held with
  | nil => simp [mergeLines]
  | cons line others ih =>
      have hline := hrest line List.mem_cons_self
      have hothers := fun other hother => hrest other (List.mem_cons_of_mem line hother)
      simpa [mergeLines, hline] using ih (held ++ [line]) hothers

/-- A line that opens no section is copied. -/
theorem merge_outside {line : Line} (fresh : List Char) (rest : List Line)
    (hline : ∀ name, opens name line = false) :
    mergeLines fresh none (line :: rest) = line ++ mergeLines fresh none rest := by
  rw [mergeLines]
  split
  · next name hmarker =>
      have hopens := hline name
      rw [opens_iff.2 hmarker] at hopens
      exact absurd hopens (by simp)
  · rfl

/-- A line that opens a section is held back. -/
theorem merge_opening {name : List Char} {line : Line} (fresh : List Char) (rest : List Line)
    (hline : opens name line = true) :
    mergeLines fresh none (line :: rest) = mergeLines fresh (some ⟨name, [line]⟩) rest := by
  simp [mergeLines, opens_iff.1 hline]

/-- Merging the lines of a layout gives the text of the refreshed layout. -/
theorem merge_lines (fresh : List Char) (layout : Layout) :
    mergeLines fresh none layout.lines = (layout.refreshed fresh).text := by
  induction layout using Layout.induction with
  | htail tail =>
      cases tail with
      | none => simp [mergeLines, Layout.refreshed, Layout.text]
      | some tail =>
          rw [Layout.lines_tail, Option.map_some, Option.getD_some, OpenTail.lines,
            merge_opening fresh _ tail.opens_first, merge_open fresh _ tail.rest_open]
          simp [Layout.refreshed, Layout.text, OpenTail.lines]
  | hcons part layout ih =>
      rw [Layout.lines_cons, Layout.refreshed_cons]
      cases part with
      | outside line hline =>
          simp [Part.refreshed, Part.lines, Layout.text_cons, merge_outside fresh _ hline, ih]
      | closed name block =>
          simp only [Part.lines, Block.lines, List.cons_append, List.append_assoc,
            List.nil_append]
          rw [merge_opening fresh _ block.opens_first,
            merge_closed fresh _ _ block.body_open block.closes_last, Block.replacement_eq, ih]
          cases hfind : Block.find? name (Text.lines fresh) with
          | none => simp [Part.refreshed, hfind]
          | some found =>
              simp [Part.refreshed, hfind, Layout.text_cons, Part.lines, Block.text]

/-- A refreshed part of lines has lines, and ends them if the part did. -/
theorem Part.formed_refreshed {part next : Part} {fresh : List Char} (hpart : Formed part.lines)
    (h : part.refreshed fresh = some next) :
    Formed next.lines ∧
      ((∀ line ∈ part.lines, EndsLine line) → ∀ line ∈ next.lines, EndsLine line) := by
  cases part with
  | outside line hline =>
      obtain rfl : Part.outside line hline = next := by simpa [Part.refreshed] using h
      exact ⟨hpart, id⟩
  | closed name block =>
      obtain ⟨found, hfound, rfl⟩ := Option.map_eq_some_iff.1 h
      have hformed := Block.formed_of_find (Text.formed_lines fresh) hfound
      refine ⟨Block.formed_terminated hformed _, fun hends => ?_⟩
      exact Block.ends_terminated hformed (hends block.last (by simp [Part.lines, Block.lines]))

namespace Layout

variable {layout : Layout} {existing : List Char}

/-- The lines of a refreshed layout are lines: no line is glued to the next. -/
theorem formed_refreshed (fresh : List Char) (h : Formed layout.lines) :
    Formed (layout.refreshed fresh).lines := by
  induction layout using Layout.induction with
  | htail tail => exact h
  | hcons part layout ih =>
      rw [lines_cons] at h
      have hrest := ih h.right
      rw [refreshed_cons]
      cases hpart : part.refreshed fresh with
      | none => exact hrest
      | some next =>
          obtain ⟨hnext, hends⟩ := Part.formed_refreshed h.left hpart
          rw [lines_cons]
          by_cases hnil : layout.lines = []
          · -- Only the last line of a text may lack a terminator, and this is the last part.
            obtain rfl : layout = ⟨[], none⟩ := eq_of_lines hnil
            simpa [refreshed] using hnext
          · exact hnext.append hrest (hends (h.ends_left hnil))

/-- A refreshed layout splits its own text. -/
theorem Splits.refreshed (h : layout.Splits existing) (fresh : List Char) :
    (layout.refreshed fresh).Splits (layout.refreshed fresh).text :=
  splits_text (formed_refreshed fresh h.formed)

/-- Merging into a text that is not empty refreshes its layout. -/
theorem Splits.merge_eq (h : layout.Splits existing) (hne : existing ≠ []) (fresh : List Char) :
    merge existing fresh = (layout.refreshed fresh).text := by
  rw [merge, if_neg (by simpa using hne), ← h, merge_lines]

end Layout

variable {layout : Layout} {existing : String}

/-- A text that is not empty has characters. -/
theorem toList_ne_nil (h : existing ≠ "") : existing.toList ≠ [] := by
  simpa using h

/-- The merged text is that of the refreshed layout. -/
theorem reconcile_toList (h : layout.Splits existing.toList) (hne : existing ≠ "")
    (fresh : String) :
    (reconcile (some existing) fresh).toList = (layout.refreshed fresh.toList).text := by
  simp only [reconcile, String.toList_ofList]
  exact h.merge_eq (toList_ne_nil hne) fresh.toList

/-- The merged text splits into the refreshed layout. -/
theorem splits_reconcile (h : layout.Splits existing.toList) (hne : existing ≠ "")
    (fresh : String) :
    (layout.refreshed fresh.toList).Splits (reconcile (some existing) fresh).toList := by
  rw [reconcile_toList h hne]
  exact h.refreshed fresh.toList

end Stencil.Section
