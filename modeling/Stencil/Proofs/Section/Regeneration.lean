import Stencil.Proofs.Section.Preservation

/-!
# Merging again and again

A text that fresh texts are merged into one after the other. Each merge refreshes the layout that
the one before has left, so a part of the first text goes through all of them on its own:
`splits_regenerate` carries the layout along the whole chain. `regenerate_eq` says that the outcome
depends on the first text, the last fresh text and the sections that were missing at some time.
-/

namespace Stencil.Section

open Text (Line EndsLine)

/-- The text after fresh texts have been merged into it one after the other. -/
def regenerate (existing : String) (renders : List String) : String :=
  renders.foldl (fun text fresh => reconcile (some text) fresh) existing

/-- What becomes of a part when it is refreshed again and again. -/
def Part.refreshedAll (renders : List String) (part : Part) : Option Part :=
  renders.foldlM (fun part fresh => part.refreshed fresh.toList) part

/-- A layout with all its parts refreshed again and again. -/
def Layout.refreshedAll (renders : List String) (layout : Layout) : Layout :=
  { layout with parts := layout.parts.filterMap (Part.refreshedAll renders) }

/-- What is left of a part after all merges: an outside line as it is, and for a closed section the
last fresh one of its name, if the section was never missing. -/
def Part.settled (renders : List String) (last : String) : Part → List Char
  | .outside line _ => line
  | .closed name _ =>
      if renders.all (provides · name) then ((extract? last (.ofList name)).getD "").toList else []

/-- A part goes through the first text and then through the others. -/
theorem Part.refreshedAll_cons (fresh : String) (renders : List String) (part : Part) :
    part.refreshedAll (fresh :: renders) =
      (part.refreshed fresh.toList).bind (Part.refreshedAll renders) :=
  rfl

/-- Without texts nothing changes. -/
theorem Layout.refreshedAll_nil (layout : Layout) : layout.refreshedAll [] = layout := by
  have hparts : layout.parts.filterMap (Part.refreshedAll []) = layout.parts.filterMap some := rfl
  rw [refreshedAll, hparts, List.filterMap_some]

/-- Refreshing again and again starts with the first text. -/
theorem Layout.refreshedAll_cons (fresh : String) (renders : List String) (layout : Layout) :
    layout.refreshedAll (fresh :: renders) =
      (layout.refreshed fresh.toList).refreshedAll renders := by
  simp only [refreshedAll, refreshed, List.filterMap_filterMap]
  rfl

/-- The layout of the text at the end of a chain of merges is that of the first text, refreshed
again and again. Only an empty text would break the chain, since the next fresh text takes it
over. -/
theorem splits_regenerate {layout : Layout} {existing : String} {renders : List String}
    (h : layout.Splits existing.toList)
    (hleft : ∀ count < renders.length, regenerate existing (renders.take count) ≠ "") :
    (layout.refreshedAll renders).Splits (regenerate existing renders).toList := by
  induction renders generalizing existing layout with
  | nil => rwa [Layout.refreshedAll_nil]
  | cons fresh rest ih =>
      have hexisting : existing ≠ "" := hleft 0 (by simp)
      rw [Layout.refreshedAll_cons]
      exact ih (splits_reconcile h hexisting fresh) fun count hcount =>
        hleft (count + 1) (by simpa using hcount)

/-- A layout refreshed again and again has the outline of the layout without the sections that were
missing at some time. -/
theorem Layout.outline_refreshedAll (renders : List String) (layout : Layout) :
    (layout.refreshedAll renders).outline =
      layout.outline.filter
        (Sum.elim (fun _ => true) fun name => renders.all (provides · name)) := by
  induction renders generalizing layout with
  | nil => simp [refreshedAll_nil]
  | cons fresh rest ih =>
      rw [refreshedAll_cons, ih, outline_refreshed, List.filter_filter]
      congr 1
      funext entry
      cases entry <;> simp [Bool.and_comm]

/-- An outside line stays when it is refreshed again and again. -/
theorem Part.refreshedAll_outside {line : Line} (hline : ∀ name, opens name line = false)
    (renders : List String) :
    (Part.outside line hline).refreshedAll renders = some (.outside line hline) := by
  induction renders with
  | nil => rfl
  | cons fresh rest ih => exact ih

/-- A closed section stays one of its name if it is never missing, and is gone otherwise. -/
theorem Part.refreshedAll_closed {name : List Char} (block : Block name) (renders : List String) :
    if renders.all (provides · name) then
      ∃ next, (Part.closed name block).refreshedAll renders = some (.closed name next)
    else (Part.closed name block).refreshedAll renders = none := by
  induction renders generalizing block with
  | nil => exact ⟨block, rfl⟩
  | cons fresh rest ih =>
      have hfresh := provides_eq fresh name
      rw [refreshedAll_cons, Part.refreshed, List.all_cons]
      cases hfind : Block.find? name (Text.lines fresh.toList) with
      | none =>
          rw [hfind] at hfresh
          simp [hfresh]
      | some found =>
          rw [hfind] at hfresh
          simpa [hfresh] using ih (found.terminatedLike block.last)

/-- From a text that ends in a line feed, or is empty, a section is copied without a terminator of
the old one. -/
theorem Part.merged_closed {fresh : String}
    (hfresh : fresh = "" ∨ fresh.toList.getLast? = some '\n') {name : List Char}
    (block : Block name) :
    (Part.closed name block).merged fresh = ((extract? fresh (.ofList name)).getD "").toList := by
  rw [Part.merged]
  cases hextract : extract? fresh (.ofList name) with
  | none => rfl
  | some found =>
      rw [extract_eq] at hextract
      obtain ⟨inner, hinner, rfl⟩ := Option.map_eq_some_iff.1 hextract
      have hends : ∀ line ∈ Text.lines fresh.toList, EndsLine line := by
        rcases hfresh with rfl | hfresh
        · simp [Text.lines]
        · exact Text.ends_lines hfresh
      have hlast := hends inner.last (Block.lines_subset hinner _ (by simp [Block.lines]))
      have htext : inner.text.getLast? = some '\n' := inner.ends_text.2 hlast
      simp [htext]

/-- What is left of a part after all merges is the text of the part refreshed again and again. -/
theorem Part.settled_eq {last : String} (hlast : last = "" ∨ last.toList.getLast? = some '\n')
    (earlier : List String) (part : Part) :
    part.settled (earlier ++ [last]) last =
      ((part.refreshedAll (earlier ++ [last])).map (·.lines.flatten)).getD [] := by
  cases part with
  | outside line hline => simp [Part.settled, Part.refreshedAll_outside, Part.lines]
  | closed name block =>
      have hearlier := Part.refreshedAll_closed block earlier
      have hchain : (Part.closed name block).refreshedAll (earlier ++ [last]) =
          ((Part.closed name block).refreshedAll earlier).bind (·.refreshed last.toList) := by
        simp [Part.refreshedAll, List.foldlM_append]
      rw [hchain, Part.settled, List.all_append]
      split at hearlier
      · next hall =>
          obtain ⟨next, hnext⟩ := hearlier
          rw [hnext, Option.bind_some, ← Part.merged_eq, Part.merged_closed hlast]
          by_cases hprovides : provides last name = true
          · simp [hall, hprovides]
          · have hnone : extract? last (.ofList name) = none := by
              simpa [provides] using hprovides
            simp [hnone]
      · next hmissing => simp [hmissing, hearlier]

/-- The outcome of a chain of merges, of which no text but the last may be empty and the last fresh
text ends in a line feed or is empty. Outside lines and the tail are as at first, and a closed
section is the last fresh one of its name if no fresh text lacked it; a section that was missing
once does not come back. If none was ever missing, the last merge alone has the same outcome. -/
theorem regenerate_eq (existing : String) (renders : List String) (hrenders : renders ≠ [])
    (hlast : renders.getLast hrenders = "" ∨
      (renders.getLast hrenders).toList.getLast? = some '\n')
    (hleft : ∀ count < renders.length, regenerate existing (renders.take count) ≠ "") :
    ∃ layout : Layout, layout.Splits existing.toList ∧
      (∀ other : Layout, other.Splits existing.toList → other = layout) ∧
      (regenerate existing renders).toList =
        layout.parts.flatMap (Part.settled renders (renders.getLast hrenders)) ++
          layout.tailLines.flatten ∧
      ((∀ name ∈ layout.sectionNames, ∀ fresh ∈ renders, provides fresh name = true) →
        regenerate existing renders = reconcile (some existing) (renders.getLast hrenders)) ∧
      ∃ final : Layout, final.Splits (regenerate existing renders).toList ∧
        final.tail = layout.tail ∧
        final.outline = layout.outline.filter
          (Sum.elim (fun _ => true) fun name => renders.all (provides · name)) := by
  obtain ⟨layout, hsplits, hunique⟩ := exists_unique_layout existing.toList
  have hexisting : existing ≠ "" := hleft 0 (List.length_pos_of_ne_nil hrenders)
  have hfinal := splits_regenerate hsplits hleft
  obtain ⟨earlier, last, rfl⟩ : ∃ earlier last, renders = earlier ++ [last] :=
    ⟨_, _, (List.dropLast_concat_getLast hrenders).symm⟩
  simp only [List.getLast_append_singleton] at hlast ⊢
  have htext : (regenerate existing (earlier ++ [last])).toList =
      layout.parts.flatMap (Part.settled (earlier ++ [last]) last) ++
        layout.tailLines.flatten := by
    rw [← hfinal.text_eq, funext (Part.settled_eq hlast earlier)]
    exact layout.text_filterMap _
  refine ⟨layout, hsplits, hunique, htext, fun hprovided => ?_, _, hfinal, rfl,
    layout.outline_refreshedAll _⟩
  rw [← String.toList_inj, htext, reconcile_toList hsplits hexisting, Layout.text_refreshed]
  congr 1
  refine List.flatMap_congr fun part hpart => ?_
  cases part with
  | outside line hline => rfl
  | closed name block =>
      have hname : name ∈ layout.sectionNames := by
        rw [Layout.sectionNames, Layout.outline, List.filterMap_map]
        exact List.mem_filterMap.2 ⟨_, hpart, rfl⟩
      have hall : (earlier ++ [last]).all (provides · name) = true :=
        List.all_eq_true.2 (hprovided name hname)
      rw [Part.settled, if_pos hall, Part.merged_closed hlast]

/-- Two merges, the first with a section at the end of its text that takes the old terminator. -/
theorem regenerate_eq_twice :
    let existing := "top\n//template:begin a\n//template:end a\r\n//template:begin b\n"
    let renders := ["//template:begin a\n1\n//template:end a",
      "//template:begin a\n2\n//template:end a\n"]
    (renders ≠ [] ∧ "//template:begin a\n2\n//template:end a\n".toList.getLast? = some '\n' ∧
      ∀ count < renders.length, regenerate existing (renders.take count) ≠ "") ∧
    ∃ layout : Layout, layout.Splits existing.toList ∧
      (∀ other : Layout, other.Splits existing.toList → other = layout) ∧
      (regenerate existing renders).toList =
        layout.parts.flatMap
            (Part.settled renders "//template:begin a\n2\n//template:end a\n") ++
          layout.tailLines.flatten ∧
      ((∀ name ∈ layout.sectionNames, ∀ fresh ∈ renders, provides fresh name = true) →
        regenerate existing renders =
          reconcile (some existing) "//template:begin a\n2\n//template:end a\n") ∧
      ∃ final : Layout, final.Splits (regenerate existing renders).toList ∧
        final.tail = layout.tail ∧
        final.outline = layout.outline.filter
          (Sum.elim (fun _ => true) fun name => renders.all (provides · name)) := by
  intro existing renders
  have hrenders : renders ≠ [] := List.cons_ne_nil _ _
  have hlast : "//template:begin a\n2\n//template:end a\n".toList.getLast? = some '\n' := by
    decide +kernel
  have hleft : ∀ count < renders.length, regenerate existing (renders.take count) ≠ "" := by
    decide +kernel
  exact ⟨⟨hrenders, hlast, hleft⟩, regenerate_eq existing renders hrenders (.inr hlast) hleft⟩

end Stencil.Section
