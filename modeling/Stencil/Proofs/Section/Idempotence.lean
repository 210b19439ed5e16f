import Stencil.Proofs.Section.Preservation

/-!
# When a second merge changes nothing

A merge followed by a merge with the same fresh text. From an existing text the second merge changes
nothing unless the first one has removed everything. A fresh text that is taken over as it is, on
the other hand, is merged with itself the second time, and that changes nothing exactly if each of
its closed sections is the first section of its name. `reconcile_idempotent_iff` states both.
-/

namespace Stencil.Section

open Text (Line EndsLine Formed)

/-- Every closed section of the text is the first section of its name. -/
def FirstOfName (source : String) : Prop :=
  ∀ layout : Layout, layout.Splits source.toList → ∀ name (block : Block name),
    .closed name block ∈ layout.parts →
      extract? source (.ofList name) = some (.ofList block.text)

/-- Refreshing twice with one text is refreshing once. -/
theorem Part.refreshed_twice {part next : Part} {fresh : List Char}
    (h : part.refreshed fresh = some next) : next.refreshed fresh = some next := by
  cases part with
  | outside line hline =>
      obtain rfl : Part.outside line hline = next := by simpa [Part.refreshed] using h
      rfl
  | closed name block =>
      obtain ⟨found, hfound, rfl⟩ := Option.map_eq_some_iff.1 h
      simp [Part.refreshed, hfound, Block.terminated_twice]

/-- A layout does not change if its parts do not. -/
theorem Layout.refreshed_eq_self_iff {layout : Layout} {fresh : List Char} :
    layout.refreshed fresh = layout ↔
      ∀ part ∈ layout.parts, part.refreshed fresh = some part := by
  have hparts : layout.refreshed fresh = layout ↔
      layout.parts.filterMap (Part.refreshed fresh) = layout.parts.map id := by
    rw [List.map_id, Layout.ext_iff, refreshed]
    simp
  rw [hparts, List.filterMap_eq_map_iff_forall_eq_some]
  rfl

/-- Refreshing a layout twice with one text is refreshing it once. -/
theorem Layout.refreshed_twice (layout : Layout) (fresh : List Char) :
    (layout.refreshed fresh).refreshed fresh = layout.refreshed fresh := by
  refine Layout.refreshed_eq_self_iff.2 fun next hnext => ?_
  obtain ⟨part, -, hpart⟩ := List.mem_filterMap.1 hnext
  exact Part.refreshed_twice hpart

/-- A section of a text keeps its terminator when it takes the place of a later one. -/
theorem Block.terminated_found {name : List Char} {block found : Block name}
    {before after : List Line} (hlines : Formed (before ++ block.lines ++ after))
    (hfound : Block.find? name (before ++ block.lines ++ after) = some found) :
    found.terminatedLike block.last = found := by
  by_cases hends : EndsLine block.last
  · -- The section found closes where `block` closes at the latest, and up to there all lines end.
    obtain ⟨first, hfirst⟩ := Block.exists_find before block []
    rw [List.append_nil] at hfirst
    obtain rfl : first = found :=
      Option.some.inj ((Block.find_append hfirst after).symm.trans hfound)
    have hall : ∀ line ∈ before ++ block.lines, EndsLine line := by
      have hleft := hlines.left
      rw [Block.lines_concat, ← List.append_assoc] at hleft ⊢
      exact hleft.ends_all hends
    have hlast := Block.lines_subset hfirst first.last (by simp [Block.lines])
    exact Block.terminated_of_ends (hall _ hlast) block.last
  · exact Block.terminated_unended found hends

/-- A closed section of a text is refreshed to itself exactly if it is the first of its name. -/
theorem Part.refreshed_self_iff {layout : Layout} {source : List Char} {name : List Char}
    {block : Block name} (h : layout.Splits source) (hmem : .closed name block ∈ layout.parts) :
    (Part.closed name block).refreshed source = some (.closed name block) ↔
      Block.find? name (Text.lines source) = some block := by
  obtain ⟨before, after, hlines⟩ := Layout.lines_of_mem hmem
  have hsource : Text.lines source = before ++ block.lines ++ after := h.symm.trans hlines
  rw [Part.refreshed, hsource]
  constructor
  · intro hrefreshed
    obtain ⟨found, hfound, heq⟩ := Option.map_eq_some_iff.1 hrefreshed
    rw [Block.terminated_found (hsource ▸ Text.formed_lines source) hfound] at heq
    rw [hfound, eq_of_heq (Part.closed.inj heq).2]
  · intro hfound
    rw [hfound, Option.map_some, Block.terminated_self]

/-- The text that is extracted is that of a closed section exactly if it is the section found. -/
theorem extract_eq_text_iff {layout : Layout} {source : String} {name : List Char}
    {block : Block name} (h : layout.Splits source.toList)
    (hmem : .closed name block ∈ layout.parts) :
    extract? source (.ofList name) = some (.ofList block.text) ↔
      Block.find? name (Text.lines source.toList) = some block := by
  obtain ⟨before, after, hlines⟩ := Layout.lines_of_mem hmem
  have hblock : Formed block.lines := (hlines ▸ h.formed).left.right
  rw [extract_eq]
  constructor
  · intro hextract
    obtain ⟨found, hfound, htext⟩ := Option.map_eq_some_iff.1 hextract
    have hformed := Block.formed_of_find (Text.formed_lines _) hfound
    have hequal := hformed.eq_of_flatten hblock (String.ofList_injective htext)
    rw [hfound, Block.eq_of_lines hequal]
  · intro hfound
    rw [hfound, Option.map_some]

/-- An empty text is taken over by the fresh text. -/
theorem reconcile_empty (fresh : String) : reconcile (some "") fresh = fresh := by
  simp [reconcile, merge]

/-- Merging a text with itself changes nothing exactly if its sections are the first of their
names. -/
theorem reconcile_self_iff (source : String) :
    reconcile (some source) source = source ↔ FirstOfName source := by
  obtain ⟨layout, hsplits, hunique⟩ := exists_unique_layout source.toList
  have hfirst : FirstOfName source ↔ layout.refreshed source.toList = layout := by
    rw [Layout.refreshed_eq_self_iff]
    constructor
    · intro hsource part hpart
      cases part with
      | outside line hline => rfl
      | closed name block =>
          have hextract := hsource layout hsplits name block hpart
          exact (Part.refreshed_self_iff hsplits hpart).2
            ((extract_eq_text_iff hsplits hpart).1 hextract)
    · intro hrefreshed other hother name block hblock
      obtain rfl := hunique other hother
      exact (extract_eq_text_iff hsplits hblock).2
        ((Part.refreshed_self_iff hsplits hblock).1 (hrefreshed _ hblock))
  rw [hfirst]
  by_cases hsource : source = ""
  · subst hsource
    have hnil : layout = ⟨[], none⟩ :=
      (hunique ⟨[], none⟩ (by simp [Layout.Splits, Text.lines])).symm
    simp [hnil, Layout.refreshed, reconcile_empty]
  · rw [← String.toList_inj, reconcile_toList hsplits hsource]
    constructor
    · -- A text has one layout, so equal texts have equal layouts.
      intro htext
      have hrefreshed := hsplits.refreshed source.toList
      rw [htext] at hrefreshed
      exact hunique _ hrefreshed
    · intro hrefreshed
      rw [hrefreshed, hsplits.text_eq]

/-- Where something of a text is left, merging the fresh text again changes nothing. -/
theorem reconcile_merged {existing fresh : String} (hexisting : existing ≠ "")
    (hleft : reconcile (some existing) fresh ≠ "") :
    reconcile (some (reconcile (some existing) fresh)) fresh =
      reconcile (some existing) fresh := by
  obtain ⟨layout, hsplits, -⟩ := exists_unique_layout existing.toList
  have hmerged := splits_reconcile hsplits hexisting fresh
  rw [← String.toList_inj, reconcile_toList hmerged hleft, Layout.refreshed_twice,
    reconcile_toList hsplits hexisting]

/-- Where no section is opened twice, each is the first of its name. -/
theorem firstOfName_of_nodup {source : String} (h : (names source).Nodup) :
    FirstOfName source := by
  have hopened : (openedNames source.toList).Nodup :=
    List.Pairwise.of_map _ (fun _ _ => mt (congrArg _)) h
  intro layout hsplits name block hmem
  obtain ⟨before, after, hlines⟩ := Layout.lines_of_mem hmem
  exact (extract_eq_text_iff hsplits hmem).2
    (Block.find_of_nodup hopened (hsplits.symm.trans hlines))

/-- Merging a fresh text that opens no section twice, whatever there is, leaves a text that merging
it again does not change, unless all of the text goes. -/
theorem reconcile_settles {existing : Option String} {fresh : String}
    (hnames : (names fresh).Nodup) (hleft : reconcile existing fresh = "" → fresh = "") :
    reconcile (some (reconcile existing fresh)) fresh = reconcile existing fresh := by
  by_cases hnil : reconcile existing fresh = ""
  · rw [hnil, hleft hnil, reconcile_empty]
  · have htaken := (reconcile_self_iff fresh).2 (firstOfName_of_nodup hnames)
    cases existing with
    | none => exact htaken
    | some text =>
        by_cases htext : text = ""
        · rwa [htext, reconcile_empty]
        · exact reconcile_merged htext hnil

/-- A second merge with the same fresh text changes nothing exactly in these cases. A fresh text
that was taken over must hold no closed section but the first of its name, and where a text existed,
the first merge must have left some of it, unless the fresh text is empty too. -/
theorem reconcile_idempotent_iff (existing : Option String) (fresh : String) :
    reconcile (some (reconcile existing fresh)) fresh = reconcile existing fresh ↔
      if existing.getD "" = "" then FirstOfName fresh
      else reconcile existing fresh = "" → fresh = "" := by
  split
  · next hempty =>
      have htaken : reconcile existing fresh = fresh := by
        cases existing with
        | none => rfl
        | some text =>
            obtain rfl : text = "" := hempty
            exact reconcile_empty fresh
      rw [htaken, reconcile_self_iff]
  · next hexisting =>
      obtain ⟨text, rfl⟩ : ∃ text, existing = some text := by
        cases existing with
        | none => exact absurd rfl hexisting
        | some text => exact ⟨text, rfl⟩
      by_cases hnil : reconcile (some text) fresh = ""
      · -- Nothing is left, so the second merge takes over the fresh text.
        simp [hnil, reconcile_empty]
      · simp only [hnil, false_implies, iff_true]
        exact reconcile_merged hexisting hnil

/-- A text that repeats a section is not taken over for good: the second merge writes the first
section in both places. -/
theorem repeated_section_not_idempotent :
    ¬ ∀ (existing : Option String) (fresh : String),
      reconcile (some (reconcile existing fresh)) fresh = reconcile existing fresh := by
  intro h
  exact absurd (h none ("//template:begin a\n1\n//template:end a\n" ++
    "//template:begin a\n2\n//template:end a\n")) (by decide +kernel)

end Stencil.Section
