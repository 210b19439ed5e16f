import Stencil.Proofs.Section.Preservation

/-!
# What is extracted

The section that is extracted from a text is the stretch of whole lines from the first line that
opens it through the first later line that closes it. `extract_exact` says when there is one and
which stretch it is, and that the section, taken as a text of its own, is extracted as a whole,
splits into itself and nothing else, and becomes the fresh section of its name in a merge.
-/

namespace Stencil.Section

open Text (Line Formed cutTerminator)

namespace Block

variable {name : List Char}

/-- A section is the one that is found in its own lines. -/
theorem find_lines (block : Block name) : find? name block.lines = some block :=
  find_eq_some_iff.2 ⟨[], [], by simp, by simp⟩

/-- The lines of a section are those of a layout that has nothing else. -/
theorem lines_layout (block : Block name) :
    (Layout.mk [.closed name block] none).lines = block.lines := by
  simp [Layout.lines, Layout.tailLines, Part.lines]

/-- A section has text. -/
theorem text_ne_nil (block : Block name) : block.text ≠ [] := by
  intro hnil
  have hfirst : block.first = [] := by simp_all [text, lines]
  have hmarker := opens_iff.1 block.opens_first
  simp [hfirst, Marker.ofLine?, cutTerminator] at hmarker

end Block

/-- Extraction is that of the first section of a name. -/
theorem extract_eq_find (text name : String) :
    extract? text name =
      (Block.find? name.toList (Text.lines text.toList)).map fun block => .ofList block.text := by
  simpa using extract_eq text name.toList

/-- What is extracted is the text of a section, and stands between the lines before it, none of
which opens it, and the lines after it. -/
theorem exists_block {text name found : String} (h : extract? text name = some found) :
    ∃ block : Block name.toList, found.toList = block.text ∧
      Text.lines found.toList = block.lines ∧
      ∃ before after : String, text = before ++ found ++ after ∧
        Text.lines text.toList =
          Text.lines before.toList ++ Text.lines found.toList ++ Text.lines after.toList ∧
        ∀ line ∈ Text.lines before.toList, opens name.toList line = false := by
  rw [extract_eq_find] at h
  obtain ⟨block, hblock, rfl⟩ := Option.map_eq_some_iff.1 h
  obtain ⟨before, after, hlines, hbefore⟩ := Block.find_eq_some_iff.1 hblock
  have hformed : Formed (before ++ block.lines ++ after) := hlines ▸ Text.formed_lines text.toList
  have hfront := Text.lines_flatten hformed.left.left
  have hfound : Text.lines block.text = block.lines := Text.lines_flatten hformed.left.right
  have hback := Text.lines_flatten hformed.right
  refine ⟨block, String.toList_ofList, by rw [String.toList_ofList, hfound],
    .ofList before.flatten, .ofList after.flatten, ?_, ?_, ?_⟩
  · rw [← String.toList_inj, ← Text.flatten_lines text.toList, hlines]
    simp [Block.text]
  · simp only [String.toList_ofList, hfront, hfound, hback, hlines]
  · simpa only [String.toList_ofList, hfront] using hbefore

/-- A section is extracted from its own text as a whole. -/
theorem extract_self {found name : String} {block : Block name.toList}
    (hlines : Text.lines found.toList = block.lines) (htext : found.toList = block.text) :
    extract? found name = some found := by
  rw [extract_eq_find, hlines, Block.find_lines, Option.map_some, ← htext, String.ofList_toList]

/-- The text of a section merges into the fresh section of its name, which takes the terminator of
the old one where it has none, or goes if there is none. -/
theorem reconcile_section {found name : String} {block : Block name.toList}
    (hlines : Text.lines found.toList = block.lines) (htext : found.toList = block.text)
    (fresh : String) :
    reconcile (some found) fresh =
      match extract? fresh name with
      | none => ""
      | some piece =>
          if piece.toList.getLast? = some '\n' then piece
          else piece ++ .ofList (cutTerminator block.last).2 := by
  have hsplits : (Layout.mk [.closed name.toList block] none).Splits found.toList :=
    block.lines_layout.trans hlines.symm
  have hne : found ≠ "" := by
    rintro rfl
    exact block.text_ne_nil htext.symm
  rw [← String.toList_inj, reconcile_toList hsplits hne, Layout.text_refreshed]
  simp only [List.flatMap_cons, List.flatMap_nil, Part.merged, String.ofList_toList,
    Layout.tailLines]
  cases extract? fresh name with
  | none => rfl
  | some piece => by_cases hends : piece.toList.getLast? = some '\n' <;> simp [hends]

/-- Extraction is exact. There is a section exactly if some line that opens it has a later line that
closes it. What is extracted is then a stretch of whole lines of the text, from the first line that
opens the section through the first later one that closes it. As a text of its own, it is extracted
as it is, splits into this one closed section with nothing before or after it, and merges into the
fresh section of its name, followed by the terminator of its last line where the fresh one does not
end in a line feed. -/
theorem extract_exact (text name : String) :
    ((∃ found, extract? text name = some found) ↔
        ∃ before opening between closing after,
          Text.lines text.toList = before ++ opening :: (between ++ closing :: after) ∧
            opens name.toList opening = true ∧ closes name.toList closing = true) ∧
      ∀ found, extract? text name = some found →
        ∃ block : Block name.toList, found.toList = block.text ∧
          Text.lines found.toList = block.lines ∧
          (∃ before after : String, text = before ++ found ++ after ∧
            Text.lines text.toList =
              Text.lines before.toList ++ Text.lines found.toList ++ Text.lines after.toList ∧
            ∀ line ∈ Text.lines before.toList, opens name.toList line = false) ∧
          extract? found name = some found ∧
          (∀ layout : Layout, layout.Splits found.toList ↔
            layout = ⟨[.closed name.toList block], none⟩) ∧
          ∀ fresh, reconcile (some found) fresh =
            match extract? fresh name with
            | none => ""
            | some piece =>
                if piece.toList.getLast? = some '\n' then piece
                else piece ++ .ofList (cutTerminator block.last).2 := by
  constructor
  · rw [← Block.find_isSome_iff, extract_eq_find, ← Option.isSome_iff_exists, Option.isSome_map]
  · intro found hfound
    obtain ⟨block, htext, hlines, hstretch⟩ := exists_block hfound
    have hsplits : (Layout.mk [.closed name.toList block] none).Splits found.toList :=
      block.lines_layout.trans hlines.symm
    refine ⟨block, htext, hlines, hstretch, extract_self hlines htext, fun layout => ?_,
      reconcile_section hlines htext⟩
    constructor
    · exact fun hlayout => hlayout.unique hsplits
    · rintro rfl
      exact hsplits

/-- A section that opens itself once more, closes another one and ends in a carriage return and a
line feed, which the fresh section at the end of its text takes. -/
theorem extract_exact_reopened :
    let text := "ö\r\n//template:begin a\n//template:begin a\r\n//template:end ä\n" ++
      "é //template:end a\r\n//template:end a\n"
    let found := "//template:begin a\n//template:begin a\r\n//template:end ä\n" ++
      "é //template:end a\r\n"
    let fresh := "//template:begin a\nnew\n//template:end a"
    extract? text "a" = some found ∧
      ∃ block : Block "a".toList, found.toList = block.text ∧
        (∃ before after : String, text = before ++ found ++ after) ∧
        extract? found "a" = some found ∧
        (Layout.mk [.closed "a".toList block] none).Splits found.toList ∧
        (cutTerminator block.last).2 = ['\r', '\n'] ∧
        reconcile (some found) fresh = fresh ++ "\r\n" := by
  intro text found fresh
  have hfound : extract? text "a" = some found := by decide +kernel
  have hfresh : extract? fresh "a" = some fresh := by decide +kernel
  obtain ⟨block, htext, hlines, ⟨before, after, hstretch, -, -⟩, hself, hsplits, hmerge⟩ :=
    (extract_exact text "a").2 found hfound
  have hlast : block.last = "é //template:end a\r\n".toList := by
    have hconcat : block.lines.getLast? = some block.last := by
      rw [Block.lines_concat, List.getLast?_concat]
    rw [← hlines] at hconcat
    have hline : (Text.lines found.toList).getLast? = some "é //template:end a\r\n".toList := by
      decide +kernel
    exact Option.some.inj (hconcat.symm.trans hline)
  refine ⟨hfound, block, htext, ⟨before, after, hstretch⟩, hself, (hsplits _).2 rfl, ?_, ?_⟩
  · rw [hlast]
    decide
  · rw [hmerge, hfresh, hlast]
    decide

end Stencil.Section
