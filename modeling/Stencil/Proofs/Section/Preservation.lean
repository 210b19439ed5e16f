import Stencil.Proofs.Section.Merge

/-!
# What a merge leaves alone

The text that belongs to whoever edits a file survives a merge. `reconcile_preserves` says what the
merged text is, part by part of the one way in which the existing text splits, and that the merged
text splits into the same outside lines and the same tail, with the same sections in between except
those that the fresh text lacks.
-/

namespace Stencil.Section

open Text (Line cutTerminator)

/-- The fresh text holds a complete section of that name. -/
def provides (fresh : String) (name : List Char) : Bool :=
  (extract? fresh (.ofList name)).isSome

/-- What a merge writes for a part: an outside line as it is, and the fresh section of its name for
a closed section, with the old terminator if it does not end in a line feed. -/
def Part.merged (fresh : String) : Part → List Char
  | .outside line _ => line
  | .closed name block =>
      match extract? fresh (.ofList name) with
      | none => []
      | some found =>
          if found.toList.getLast? = some '\n' then found.toList
          else found.toList ++ (cutTerminator block.last).2

/-- Extraction from a text is that of the first section of a name. -/
theorem extract_eq (fresh : String) (name : List Char) :
    extract? fresh (.ofList name) =
      (Block.find? name (Text.lines fresh.toList)).map fun block => .ofList block.text := by
  rw [extract?, String.toList_ofList, Block.blockText_eq, Option.map_map]
  rfl

/-- A text provides a section exactly if the first one of its name closes. -/
theorem provides_eq (fresh : String) (name : List Char) :
    provides fresh name = (Block.find? name (Text.lines fresh.toList)).isSome := by
  rw [provides, extract_eq, Option.isSome_map]

/-- What a merge writes for a part is the text of the refreshed part. -/
theorem Part.merged_eq (fresh : String) (part : Part) :
    part.merged fresh = ((part.refreshed fresh.toList).map (·.lines.flatten)).getD [] := by
  cases part with
  | outside line hline => simp [Part.merged, Part.refreshed, Part.lines]
  | closed name block =>
      have hreplacement : replacement fresh.toList name block.last = _ :=
        Block.replacement_eq fresh.toList block.last
      rw [replacement, Block.blockText_eq] at hreplacement
      rw [Part.merged, Part.refreshed, extract_eq]
      cases hfind : Block.find? name (Text.lines fresh.toList) with
      | none => rfl
      | some found => simpa [hfind, Part.lines, Block.text] using hreplacement

/-- The text of a layout whose parts are changed one by one is the text of the changed parts, and
the tail. -/
theorem Layout.text_filterMap (change : Part → Option Part) (layout : Layout) :
    (Layout.mk (layout.parts.filterMap change) layout.tail).text =
      layout.parts.flatMap (fun part => ((change part).map (·.lines.flatten)).getD []) ++
        layout.tailLines.flatten := by
  obtain ⟨parts, tail⟩ := layout
  simp only [text, lines, tailLines, List.flatten_append]
  congr 1
  induction parts with
  | nil => rfl
  | cons part rest ih => cases hpart : change part <;> simp_all

/-- The text of a refreshed layout is what a merge writes for the parts, and the tail. -/
theorem Layout.text_refreshed (fresh : String) (layout : Layout) :
    (layout.refreshed fresh.toList).text =
      layout.parts.flatMap (Part.merged fresh) ++ layout.tailLines.flatten := by
  rw [funext (Part.merged_eq fresh)]
  exact layout.text_filterMap (Part.refreshed fresh.toList)

/-- A refreshed layout has the outline of the layout without the sections that the text lacks. -/
theorem Layout.outline_refreshed (fresh : String) (layout : Layout) :
    (layout.refreshed fresh.toList).outline =
      layout.outline.filter (Sum.elim (fun _ => true) (provides fresh)) := by
  rw [outline, outline, refreshed, List.map_filterMap, List.filter_map, ← List.filterMap_eq_map,
    List.filterMap_filter]
  congr 1
  funext part
  cases part with
  | outside line hline => rfl
  | closed name block => cases hfind : Block.find? name (Text.lines fresh.toList) <;>
      simp [Part.refreshed, provides_eq, hfind]

/-- A refreshed layout has the outside lines of the layout. -/
theorem Layout.outside_refreshed (fresh : String) (layout : Layout) :
    (layout.refreshed fresh.toList).outsideLines = layout.outsideLines := by
  rw [outsideLines, outsideLines, outline_refreshed, List.filterMap_filter]
  congr 1
  funext entry
  cases entry with
  | inl line => simp
  | inr name => cases hname : provides fresh name <;> simp [hname]

/-- A refreshed layout has the sections of the layout that the text provides. -/
theorem Layout.names_refreshed (fresh : String) (layout : Layout) :
    (layout.refreshed fresh.toList).sectionNames = layout.sectionNames.filter (provides fresh) := by
  rw [sectionNames, sectionNames, outline_refreshed, List.filterMap_filter, List.filter_filterMap]
  congr 1
  funext entry
  cases entry with
  | inl line => rfl
  | inr name => rw [Sum.getRight?_inr, Option.filter_some, Sum.elim_inr]

/-- A merge keeps the text outside the sections that close. An existing text splits in exactly one
way; the merged text is its outside lines and its tail as they are with the fresh sections in the
places of the old ones; and the merged text again splits in exactly one way, into the same outside
lines, the same tail, and in the same order the sections that the fresh text provides. -/
theorem reconcile_preserves (existing fresh : String) (hexisting : existing ≠ "") :
    ∃ layout : Layout, layout.Splits existing.toList ∧
      (∀ other : Layout, other.Splits existing.toList → other = layout) ∧
      (reconcile (some existing) fresh).toList =
        layout.parts.flatMap (Part.merged fresh) ++ layout.tailLines.flatten ∧
      ∃ merged : Layout, merged.Splits (reconcile (some existing) fresh).toList ∧
        (∀ other : Layout, other.Splits (reconcile (some existing) fresh).toList →
          other = merged) ∧
        merged.outsideLines = layout.outsideLines ∧
        merged.tail = layout.tail ∧
        merged.sectionNames = layout.sectionNames.filter (provides fresh) ∧
        merged.outline = layout.outline.filter (Sum.elim (fun _ => true) (provides fresh)) := by
  obtain ⟨layout, hsplits, hunique⟩ := exists_unique_layout existing.toList
  have hmerged := splits_reconcile hsplits hexisting fresh
  refine ⟨layout, hsplits, hunique, ?_, layout.refreshed fresh.toList, hmerged, ?_, ?_⟩
  · rw [reconcile_toList hsplits hexisting, Layout.text_refreshed]
  · intro other hother
    exact hother.unique hmerged
  · exact ⟨layout.outside_refreshed fresh, rfl, layout.names_refreshed fresh,
      layout.outline_refreshed fresh⟩

/-- A file with hand-written lines, a section that holds a marker of another one, a section that the
fresh text lacks, and a section that never closes. -/
theorem reconcile_preserves_open_section :
    let existing := "top\r\n//template:begin a\r\n//template:end b\r\n//template:end a\r\n" ++
      "mid\n//template:begin b\n//template:end b\n//template:begin c\nlast"
    let fresh := "//template:begin c\n//template:end c\n//template:begin a\nnew\n//template:end a"
    existing ≠ "" ∧
      ∃ layout : Layout, layout.Splits existing.toList ∧
        (∀ other : Layout, other.Splits existing.toList → other = layout) ∧
        (reconcile (some existing) fresh).toList =
          layout.parts.flatMap (Part.merged fresh) ++ layout.tailLines.flatten ∧
        ∃ merged : Layout, merged.Splits (reconcile (some existing) fresh).toList ∧
          (∀ other : Layout, other.Splits (reconcile (some existing) fresh).toList →
            other = merged) ∧
          merged.outsideLines = layout.outsideLines ∧
          merged.tail = layout.tail ∧
          merged.sectionNames = layout.sectionNames.filter (provides fresh) ∧
          merged.outline = layout.outline.filter (Sum.elim (fun _ => true) (provides fresh)) :=
  ⟨by decide, reconcile_preserves _ _ (by decide)⟩

example :
    reconcile (some "top\r\n//template:begin a\r\n//template:end a\r\nend")
        "//template:begin a\nnew\n//template:end a" =
      "top\r\n//template:begin a\nnew\n//template:end a\r\nend" := by
  decide +kernel

end Stencil.Section
