import Mathlib.Data.List.TakeWhile
import Stencil.Proofs.Section.Marker
import Stencil.Section.Reconcile

/-!
# Closed sections

A closed section as a value that cannot be ill-formed: the line that opens it, lines that do not
close it, and the line that does. `find_eq_some_iff` characterises the first section of a name in a
list of lines, and `blockText_eq` says that this is what extraction copies. A section of a fresh
text may stand at the end of that text without a terminator; `Block.terminatedLike` is the section
with the terminator of another line, which is what a merge puts in its place.
-/

namespace Stencil.Section

open Text (Line EndsLine IsLine Formed cutTerminator)

/-- A line that opens a section is counted among the names that are opened. -/
theorem mem_openedNames {name : List Char} {line : Line} {list : List Line} (hline : line ∈ list)
    (h : opens name line = true) :
    name ∈ list.filterMap fun line =>
      match Marker.ofLine? line with
      | some (.opening name) => some name
      | _ => none :=
  List.mem_filterMap.2 ⟨line, hline, by simp [opens_iff.1 h]⟩

/-- A section that closes, from the line that opens it to the first later line that closes it. -/
@[ext]
structure Block (name : List Char) where
  first : Line
  body : List Line
  last : Line
  opens_first : opens name first = true
  body_open : ∀ line ∈ body, closes name line = false
  closes_last : closes name last = true

namespace Block

variable {name : List Char}

/-- The lines of a section, marker lines included. -/
def lines (block : Block name) : List Line :=
  block.first :: (block.body ++ [block.last])

/-- The text of a section. -/
def text (block : Block name) : List Char :=
  block.lines.flatten

/-- A section with one more line after the line that opens it. -/
def push (line : Line) (hline : closes name line = false) (block : Block name) : Block name :=
  { block with
    body := line :: block.body
    body_open := by simpa [hline] using block.body_open }

/-- The section that a line opens, up to the first of the lines after it that closes it. -/
def close? (first : Line) (hfirst : opens name first = true) : List Line → Option (Block name)
  | [] => none
  | line :: rest =>
      if hline : closes name line = true then
        some ⟨first, [], line, hfirst, by simp, hline⟩
      else (close? first hfirst rest).map (push line (by simpa using hline))

/-- The first section of a name, if a later line closes it. -/
def find? (name : List Char) : List Line → Option (Block name)
  | [] => none
  | line :: rest =>
    if hline : opens name line = true then close? line hline rest else find? name rest

/-- The lines up to the one that closes a section are those of the section. -/
theorem close_lines {first : Line} (hfirst : opens name first = true) (list : List Line) :
    (close? first hfirst list).map lines =
      match list.dropWhile (!closes name ·) with
      | [] => none
      | last :: _ => some (first :: list.takeWhile (!closes name ·) ++ [last]) := by
  induction list with
  | nil => rfl
  | cons line rest ih =>
      by_cases hline : closes name line = true
      · simp [close?, hline, lines]
      · simp only [Bool.not_eq_true] at hline
        cases hclose : close? first hfirst rest with
        | none =>
            rw [hclose] at ih
            cases hdrop : rest.dropWhile (!closes name ·) with
            | nil => simp [close?, hline, hclose, hdrop]
            | cons last after => simp [hdrop] at ih
        | some block =>
            rw [hclose] at ih
            cases hdrop : rest.dropWhile (!closes name ·) with
            | nil => simp [hdrop] at ih
            | cons last after => simp_all [close?, lines, push]

/-- Extraction copies the lines of the first section. -/
theorem blockLines_eq (list : List Line) :
    blockLines? name list = (find? name list).map lines := by
  induction list with
  | nil => rfl
  | cons line rest ih =>
      by_cases hline : opens name line = true
      · simp only [find?, hline, dite_true, blockLines?, close_lines, List.dropWhile_cons]
        cases hdrop : rest.dropWhile (!closes name ·) <;> simp [hdrop]
      · simp only [Bool.not_eq_true] at hline
        simpa [find?, hline, blockLines?] using ih

/-- Extraction copies the text of the first section. -/
theorem blockText_eq (source : List Char) :
    blockText? name source = (find? name (Text.lines source)).map text := by
  rw [blockText?, blockLines_eq, Option.map_map]
  rfl

/-- A section closes at the first line after its opening line that closes it. -/
theorem close_eq_some_iff {first : Line} {hfirst : opens name first = true} {list : List Line}
    {block : Block name} :
    close? first hfirst list = some block ↔
      ∃ after, first :: list = block.lines ++ after := by
  induction list generalizing block with
  | nil => simp [close?, lines]
  | cons line rest ih =>
      by_cases hline : closes name line = true
      · simp only [close?, hline, dite_true, Option.some.injEq]
        constructor
        · rintro rfl
          exact ⟨rest, rfl⟩
        · rintro ⟨after, heq⟩
          cases hbody : block.body with
          | nil =>
              simp only [lines, hbody, List.nil_append, List.cons_append, List.cons.injEq] at heq
              exact Block.ext heq.1 hbody.symm heq.2.1
          | cons second others =>
              have hsecond : line = second := by simp_all [lines]
              have hopen := block.body_open second (by simp [hbody])
              rw [← hsecond, hline] at hopen
              exact absurd hopen (by simp)
      · have hopen : closes name line = false := by simpa using hline
        simp only [close?, hline, Bool.false_eq_true, dite_false, Option.map_eq_some_iff]
        constructor
        · rintro ⟨inner, hinner, rfl⟩
          obtain ⟨after, heq⟩ := ih.1 hinner
          exact ⟨after, by simp_all [lines, push]⟩
        · rintro ⟨after, heq⟩
          cases hbody : block.body with
          | nil =>
              have hlast : line = block.last := by simp_all [lines]
              rw [hlast, block.closes_last] at hopen
              exact absurd hopen (by simp)
          | cons second others =>
              simp only [lines, hbody, List.cons_append, List.cons.injEq] at heq
              obtain ⟨rfl, rfl, hrest⟩ := heq
              have hothers : ∀ other ∈ others, closes name other = false :=
                fun other hother => block.body_open other (by simp [hbody, hother])
              refine ⟨⟨block.first, others, block.last, hfirst, hothers, block.closes_last⟩, ?_, ?_⟩
              · exact ih.2 ⟨after, by simp [lines, hrest]⟩
              · exact Block.ext rfl hbody.symm rfl

/-- A section does not close if no line after its opening line closes it. -/
theorem close_eq_none_iff {first : Line} {hfirst : opens name first = true} {list : List Line} :
    close? first hfirst list = none ↔ ∀ line ∈ list, closes name line = false := by
  induction list with
  | nil => simp [close?]
  | cons line rest ih =>
      by_cases hline : closes name line = true
      · simp [close?, hline]
      · simp only [Bool.not_eq_true] at hline
        simp [close?, hline, ih]

/-- The first section of a name stands after lines that do not open it. -/
theorem find_eq_some_iff {list : List Line} {block : Block name} :
    find? name list = some block ↔
      ∃ before after, list = before ++ block.lines ++ after ∧
        ∀ line ∈ before, opens name line = false := by
  induction list with
  | nil => simp [find?, lines]
  | cons line rest ih =>
      by_cases hline : opens name line = true
      · simp only [find?, hline, dite_true, close_eq_some_iff]
        constructor
        · rintro ⟨after, heq⟩
          exact ⟨[], after, by simpa using heq, by simp⟩
        · rintro ⟨before, after, heq, hbefore⟩
          cases before with
          | nil => exact ⟨after, by simpa using heq⟩
          | cons head others =>
              obtain rfl : line = head := by simp_all
              have hhead := hbefore line List.mem_cons_self
              rw [hline] at hhead
              exact absurd hhead (by simp)
      · simp only [find?, hline, dite_false, ih, Bool.false_eq_true]
        constructor
        · rintro ⟨before, after, rfl, hbefore⟩
          exact ⟨line :: before, after, by simp, by simpa [hline] using hbefore⟩
        · rintro ⟨before, after, heq, hbefore⟩
          cases before with
          | nil =>
              have hfirst : line = block.first := by simp_all [lines]
              exact absurd (hfirst ▸ block.opens_first) hline
          | cons head others =>
              refine ⟨others, after, by simp_all, fun other hother => ?_⟩
              exact hbefore other (List.mem_cons_of_mem _ hother)

/-- Where no section is opened twice, a section that stands in the text is the one found. -/
theorem find_of_nodup {source : List Char} (hnames : (openedNames source).Nodup)
    {name : List Char} {block : Block name} {before after : List Line}
    (hlines : Text.lines source = before ++ block.lines ++ after) :
    find? name (Text.lines source) = some block := by
  refine find_eq_some_iff.2 ⟨before, after, hlines, fun line hline => ?_⟩
  by_contra hopens
  rw [Bool.not_eq_false] at hopens
  -- The name would be opened by this line and once more by the first line of the section.
  rw [openedNames, hlines, List.append_assoc, List.filterMap_append] at hnames
  have hsecond : block.first ∈ block.lines ++ after := by simp [lines]
  exact (List.nodup_append.1 hnames).2.2 _ (mem_openedNames hline hopens) _
    (mem_openedNames hsecond block.opens_first) rfl

/-- A section found in a list is found in every longer list. -/
theorem find_append {list : List Line} {block : Block name} (h : find? name list = some block)
    (more : List Line) : find? name (list ++ more) = some block := by
  obtain ⟨before, after, rfl, hbefore⟩ := find_eq_some_iff.1 h
  exact find_eq_some_iff.2 ⟨before, after ++ more, by simp, hbefore⟩

/-- A line that opens a section and has a later line that closes it starts a section. -/
theorem exists_close {first last : Line} (hfirst : opens name first = true) {list : List Line}
    (hmem : last ∈ list) (hlast : closes name last = true) :
    ∃ block, close? first hfirst list = some block := by
  rw [← Option.isSome_iff_exists, Option.isSome_iff_ne_none]
  intro hclose
  have hopen := close_eq_none_iff.1 hclose last hmem
  rw [hlast] at hopen
  cases hopen

/-- A section is found exactly if some line that opens it has a later line that closes it. -/
theorem find_isSome_iff {list : List Line} :
    (find? name list).isSome = true ↔
      ∃ before opening between closing after,
        list = before ++ opening :: (between ++ closing :: after) ∧
          opens name opening = true ∧ closes name closing = true := by
  rw [Option.isSome_iff_exists]
  constructor
  · rintro ⟨block, hblock⟩
    obtain ⟨before, after, rfl, -⟩ := find_eq_some_iff.1 hblock
    exact ⟨before, block.first, block.body, block.last, after, by simp [lines],
      block.opens_first, block.closes_last⟩
  · rintro ⟨before, opening, between, closing, after, rfl, hopening, hclosing⟩
    induction before with
    | nil =>
        obtain ⟨block, hblock⟩ := exists_close hopening
          (List.mem_append_right between List.mem_cons_self) hclosing
        exact ⟨block, by simpa [find?, hopening] using hblock⟩
    | cons line rest ih =>
        by_cases hline : opens name line = true
        · -- The section found starts here, and the same line closes it at the latest.
          have hmem : closing ∈ rest ++ opening :: (between ++ closing :: after) := by simp
          obtain ⟨block, hblock⟩ := exists_close hline hmem hclosing
          exact ⟨block, by simpa [find?, hline] using hblock⟩
        · obtain ⟨block, hblock⟩ := ih
          exact ⟨block, by simpa [find?, hline] using hblock⟩

/-- Some section of a name is found wherever one stands. -/
theorem exists_find (before : List Line) (block : Block name) (after : List Line) :
    ∃ found, find? name (before ++ block.lines ++ after) = some found := by
  rw [← Option.isSome_iff_exists, find_isSome_iff]
  exact ⟨before, block.first, block.body, block.last, after, by simp [lines], block.opens_first,
    block.closes_last⟩

/-- The lines of a section that is found are lines of the list. -/
theorem lines_subset {list : List Line} {block : Block name} (h : find? name list = some block) :
    ∀ line ∈ block.lines, line ∈ list := by
  intro line hline
  obtain ⟨before, after, rfl, -⟩ := find_eq_some_iff.1 h
  exact List.mem_append_left _ (List.mem_append_right _ hline)

/-- A section found in a text consists of lines. -/
theorem formed_of_find {list : List Line} {block : Block name} (hlist : Formed list)
    (h : find? name list = some block) : Formed block.lines := by
  obtain ⟨before, after, rfl, -⟩ := find_eq_some_iff.1 h
  exact hlist.left.right

/-- Sections with the same lines are equal. -/
theorem eq_of_lines {first second : Block name} (h : first.lines = second.lines) :
    first = second := by
  simp only [lines, List.cons.injEq] at h
  obtain ⟨hfirst, hrest⟩ := h
  obtain ⟨hbody, hlast⟩ := List.append_inj' hrest rfl
  exact Block.ext hfirst hbody (by simpa using hlast)

/-- A section with the terminator of another line, unless its last line has one. -/
def terminatedLike (other : Line) (block : Block name) : Block name :=
  if hends : EndsLine block.last then block
  else
    { block with
      last := block.last ++ (cutTerminator other).2
      closes_last := closes_iff.2 (marker_terminated (closes_iff.1 block.closes_last) hends
        (cut_is_terminator other)) }

variable {block : Block name}

/-- A section that ends its last line needs no terminator. -/
theorem terminated_of_ends (h : EndsLine block.last) (other : Line) :
    block.terminatedLike other = block := by
  simp [terminatedLike, h]

/-- A section takes nothing from a line that has no terminator. -/
theorem terminated_unended (block : Block name) {other : Line} (h : ¬ EndsLine other) :
    block.terminatedLike other = block := by
  simp [terminatedLike, cut_unended h]

/-- A section has the terminator of its own last line. -/
theorem terminated_self (block : Block name) : block.terminatedLike block.last = block := by
  by_cases hends : EndsLine block.last
  · exact terminated_of_ends hends block.last
  · exact terminated_unended block hends

/-- The last line of a section takes the terminator. -/
theorem terminated_last (h : ¬ EndsLine block.last) (other : Line) :
    (block.terminatedLike other).last = block.last ++ (cutTerminator other).2 := by
  simp [terminatedLike, h]

/-- A section that takes a terminator is followed by it. -/
theorem terminated_text (h : ¬ EndsLine block.last) (other : Line) :
    (block.terminatedLike other).text = block.text ++ (cutTerminator other).2 := by
  simp [terminatedLike, h, text, lines]

/-- The text of a section ends as its last line does. -/
theorem ends_text (block : Block name) : EndsLine block.text ↔ EndsLine block.last := by
  have hne : block.last ≠ [] := by
    intro hnil
    have hmarker := closes_iff.1 block.closes_last
    simp [hnil, Marker.ofLine?, cutTerminator] at hmarker
  have htext : block.text = (block.first ++ block.body.flatten) ++ block.last := by
    simp [text, lines]
  rw [htext, EndsLine, EndsLine, List.getLast?_append_of_ne_nil _ hne]

/-- The text that a merge puts in the place of a section is that of the fresh section of its name
with the terminator of the old one. -/
theorem replacement_eq (fresh : List Char) (other : Line) :
    replacement fresh name other =
      ((find? name (Text.lines fresh)).map (text ∘ terminatedLike other)).getD [] := by
  rw [replacement, blockText_eq]
  cases hfind : find? name (Text.lines fresh) with
  | none => rfl
  | some block =>
      by_cases hends : EndsLine block.last
      · have htext : block.text.getLast? = some '\n' := block.ends_text.2 hends
        simp [terminated_of_ends hends, htext]
      · have htext : block.text.getLast? ≠ some '\n' := mt block.ends_text.1 hends
        simp only [Option.map_some, Function.comp_apply, Option.getD_some, terminated_text hends]
        rw [if_neg (by simpa using htext)]

/-- Taking the terminator of a line that took it from another line is taking it from that. -/
theorem terminated_twice (block : Block name) (other : Line) :
    block.terminatedLike (block.terminatedLike other).last = block.terminatedLike other := by
  by_cases hends : EndsLine block.last
  · simp [terminated_of_ends hends]
  · have hcut := cut_terminated (closes_iff.1 block.closes_last) hends (cut_is_terminator other)
    simp [terminatedLike, hends, hcut]

/-- The lines of a section are those before its last line and its last line. -/
theorem lines_concat (block : Block name) :
    block.lines = (block.first :: block.body) ++ [block.last] :=
  rfl

/-- With a terminator, the lines of a section are still lines. -/
theorem formed_terminated (h : Formed block.lines) (other : Line) :
    Formed (block.terminatedLike other).lines := by
  by_cases hends : EndsLine block.last
  · rwa [terminated_of_ends hends]
  · rw [lines_concat] at h ⊢
    have hlast : IsLine block.last := h.isLine _ (by simp)
    have hinner := hlast.not_mem hends
    have hterminated : IsLine (block.last ++ (cutTerminator other).2) := by
      refine ⟨by simp [hlast.ne_nil], fun hmem => ?_⟩
      rcases cut_is_terminator other with hcut | hcut | hcut <;> rw [hcut] at hmem
      · exact hlast.inner (by simpa using hmem)
      · exact hinner (by simpa using hmem)
      · rw [List.dropLast_append_of_ne_nil (by simp)] at hmem
        exact hinner (by simpa using hmem)
    rw [terminated_last hends]
    simpa [terminatedLike, hends] using
      h.left.append (.single hterminated) (h.ends_left (by simp))

/-- A section that takes the terminator of a line that ends, ends all its lines. -/
theorem ends_terminated (h : Formed block.lines) {other : Line} (hother : EndsLine other) :
    ∀ line ∈ (block.terminatedLike other).lines, EndsLine line := by
  have hlast : EndsLine (block.terminatedLike other).last := by
    by_cases hends : EndsLine block.last
    · rwa [terminated_of_ends hends]
    · rw [terminated_last hends]
      rcases ends_cut hother with hcut | hcut <;> simp [hcut, EndsLine]
  have hlines := formed_terminated h other
  rw [lines_concat] at hlines ⊢
  exact hlines.ends_all hlast

end Block

end Stencil.Section
