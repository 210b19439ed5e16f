import Stencil.Proofs.Section.Merge

/-!
# Texts with one outline

A text in which no section is opened twice has each of its closed sections as the first of its name
(`Block.find_of_nodup`), whatever markers the sections hold. So a merge with such a text puts the
right section in every place: merging it into a text with the same outside lines and section names
gives the text itself (`reconcile_same_outline`), as if there had been no file.
-/

namespace Stencil.Section

open Text (Line EndsLine)

/-- What a part has in an outline: its line, or the name of its section. -/
def Part.heading : Part → Line ⊕ List Char
  | .outside line _ => .inl line
  | .closed name _ => .inr name

/-- A part with the heading of a part of a text is refreshed to that one, if the text opens no
section twice and ends in a line feed. -/
theorem Part.refreshed_heading {layout : Layout} {source : List Char} (h : layout.Splits source)
    (hends : source.getLast? = some '\n') (hnames : (openedNames source).Nodup) {old new : Part}
    (hmem : new ∈ layout.parts) (hheading : old.heading = new.heading) :
    old.refreshed source = some new := by
  cases old with
  | outside line hline =>
      cases new with
      | outside other hother =>
          obtain rfl : line = other := Sum.inl.inj hheading
          rfl
      | closed name block => cases hheading
  | closed name block =>
      cases new with
      | outside other hother => cases hheading
      | closed other found =>
          obtain rfl : name = other := Sum.inr.inj hheading
          obtain ⟨before, after, hlines⟩ := Layout.lines_of_mem hmem
          have hfound := Block.find_of_nodup hnames (h.symm.trans hlines)
          have hlast : EndsLine found.last := by
            refine Text.ends_lines hends _ (Block.lines_subset hfound _ ?_)
            simp [Block.lines]
          rw [Part.refreshed, hfound, Option.map_some, Block.terminated_of_ends hlast]

/-- Parts with the headings of parts of a text are refreshed to those. -/
theorem Part.refreshed_headings {layout : Layout} {source : List Char} (h : layout.Splits source)
    (hends : source.getLast? = some '\n') (hnames : (openedNames source).Nodup)
    {olds news : List Part} (hmem : news ⊆ layout.parts)
    (hheadings : olds.map Part.heading = news.map Part.heading) :
    olds.filterMap (Part.refreshed source) = news := by
  induction olds generalizing news with
  | nil => simpa [eq_comm] using hheadings
  | cons old rest ih =>
      cases news with
      | nil => cases hheadings
      | cons new others =>
          obtain ⟨hheading, hrest⟩ := List.cons.inj hheadings
          have hnew := Part.refreshed_heading h hends hnames (hmem List.mem_cons_self) hheading
          rw [List.filterMap_cons_some hnew, ih (List.subset_of_cons_subset hmem) hrest]

/-- Without hand edits a merge is as good as a new start. If a text splits into the same outside
lines and section names as the fresh text, every section of both closes, and the fresh text ends in
a line feed and opens no section twice, then merging the fresh text gives the fresh text, and so
does taking it over where there is no text. -/
theorem reconcile_same_outline {existing fresh : String} {old new : Layout}
    (hexisting : existing ≠ "") (hends : fresh.toList.getLast? = some '\n')
    (hnames : (names fresh).Nodup) (hold : old.Splits existing.toList)
    (hnew : new.Splits fresh.toList) (holdTail : old.tail = none) (hnewTail : new.tail = none)
    (houtline : old.outline = new.outline) :
    reconcile (some existing) fresh = fresh ∧ reconcile none fresh = fresh := by
  have hopened : (openedNames fresh.toList).Nodup :=
    List.Pairwise.of_map _ (fun _ _ => mt (congrArg _)) hnames
  have hparts : old.parts.filterMap (Part.refreshed fresh.toList) = new.parts :=
    Part.refreshed_headings hnew hends hopened (List.Subset.refl _) houtline
  have hrefreshed : old.refreshed fresh.toList = new :=
    Layout.ext hparts (holdTail.trans hnewTail.symm)
  refine ⟨?_, rfl⟩
  rw [← String.toList_inj, reconcile_toList hold hexisting, hrefreshed, hnew.text_eq]

/-- Two renders of one file. The old section holds what would close another section and the new one
what would open it. -/
theorem reconcile_same_outline_bodies :
    let existing := "top\r\n//template:begin a\nold\n//template:end b\n//template:end a"
    let fresh := "top\r\n//template:begin a\n//template:begin b\nnew\n//template:end a\n"
    ∃ old new : Layout,
      (existing ≠ "" ∧ fresh.toList.getLast? = some '\n' ∧ (names fresh).Nodup ∧
        old.Splits existing.toList ∧ new.Splits fresh.toList ∧ old.tail = none ∧
        new.tail = none ∧ old.outline = new.outline) ∧
      reconcile (some existing) fresh = fresh ∧ reconcile none fresh = fresh := by
  intro existing fresh
  have hexisting : existing ≠ "" := by decide
  have hends : fresh.toList.getLast? = some '\n' := by decide +kernel
  have hnames : (names fresh).Nodup := by decide +kernel
  have hmarker : Marker.ofLine? "top\r\n".toList = none := by decide
  have htop : ∀ name, opens name "top\r\n".toList = false := fun name => by
    rw [opens, hmarker]
    rfl
  have hold : (Layout.mk [.outside _ htop, .closed "a".toList
      ⟨"//template:begin a\n".toList, ["old\n".toList, "//template:end b\n".toList],
        "//template:end a".toList, by decide, by decide, by decide⟩] none).Splits
      ("top\r\n//template:begin a\nold\n//template:end b\n//template:end a").toList := by
    rfl
  have hnew : (Layout.mk [.outside _ htop, .closed "a".toList
      ⟨"//template:begin a\n".toList, ["//template:begin b\n".toList, "new\n".toList],
        "//template:end a\n".toList, by decide, by decide, by decide⟩] none).Splits
      ("top\r\n//template:begin a\n//template:begin b\nnew\n//template:end a\n").toList := by
    rfl
  exact ⟨_, _, ⟨hexisting, hends, hnames, hold, hnew, rfl, rfl, rfl⟩,
    reconcile_same_outline hexisting hends hnames hold hnew rfl rfl rfl⟩

end Stencil.Section
