import Mathlib.Data.List.Basic
import Stencil.Text.Line

/-!
# Lists of lines

Which lists of lines are the lines of a text. Each member is a line, and only the last one may lack
its line feed. `lines_flatten` says that joining such a list and cutting the result gives the list
back, and `formed_lines` says that cutting yields nothing else, so the two facts together let a
text be taken apart and put together line by line.
-/

namespace Stencil.Text

/-- The line ends in a line feed. -/
def EndsLine (line : Line) : Prop :=
  line.getLast? = some '\n'

instance (line : Line) : Decidable (EndsLine line) :=
  inferInstanceAs (Decidable (_ = _))

/-- The text is one line: it is not empty, and a line feed stands at most at its end. -/
structure IsLine (line : Line) : Prop where
  ne_nil : line ≠ []
  inner : '\n' ∉ line.dropLast

/-- The list holds lines of which only the last may lack its line feed. -/
structure Formed (list : List Line) : Prop where
  isLine : ∀ line ∈ list, IsLine line
  ends : ∀ line ∈ list.dropLast, EndsLine line

/-- A line without a line feed at its end has none. -/
theorem IsLine.not_mem {line : Line} (h : IsLine line) (hends : ¬ EndsLine line) :
    '\n' ∉ line := by
  intro hmem
  have hsplit := List.dropLast_concat_getLast h.ne_nil
  rw [← hsplit, List.mem_append, List.mem_singleton] at hmem
  rcases hmem with hinner | hlast
  · exact h.inner hinner
  · exact hends (by rw [EndsLine, List.getLast?_eq_some_getLast h.ne_nil, hlast])

/-- A line that ends is the first line of the text that it starts. -/
theorem lines_append {line : Line} (h : IsLine line) (hends : EndsLine line) (rest : List Char) :
    lines (line ++ rest) = line :: lines rest := by
  induction line with
  | nil => exact absurd rfl h.ne_nil
  | cons letter others ih =>
      cases others with
      | nil =>
          obtain rfl : letter = '\n' := by simpa [EndsLine] using hends
          rfl
      | cons second later =>
          have hletter : letter ≠ '\n' := by
            rintro rfl
            exact h.inner (by simp)
          have hlater : IsLine (second :: later) :=
            ⟨by simp, fun hmem => h.inner (by simpa using Or.inr hmem)⟩
          have htail := ih hlater (by simpa [EndsLine] using hends)
          simp only [List.cons_append] at htail ⊢
          rw [lines, if_neg (by simpa using hletter), htail]

/-- A text without a line feed is one line. -/
theorem lines_of_not_mem {line : Line} (hne : line ≠ []) (h : '\n' ∉ line) :
    lines line = [line] := by
  induction line with
  | nil => exact absurd rfl hne
  | cons letter others ih =>
      have hletter : letter ≠ '\n' := fun heq => h (heq ▸ List.mem_cons_self)
      cases others with
      | nil => simp [lines, hletter]
      | cons second later =>
          have htail := ih (by simp) (fun hmem => h (List.mem_cons_of_mem _ hmem))
          rw [lines, if_neg (by simpa using hletter), htail]

/-- No lines are the lines of the empty text. -/
theorem Formed.nil : Formed [] :=
  ⟨by simp, by simp⟩

/-- A line alone is the only line of a text. -/
theorem Formed.single {line : Line} (h : IsLine line) : Formed [line] :=
  ⟨by simpa using h, by simp⟩

/-- Lists of lines are joined where the first one ends its last line. -/
theorem Formed.append {first second : List Line} (h : Formed first) (hsecond : Formed second)
    (hends : ∀ line ∈ first, EndsLine line) : Formed (first ++ second) := by
  constructor
  · intro line hmem
    rcases List.mem_append.1 hmem with hmem | hmem
    · exact h.isLine line hmem
    · exact hsecond.isLine line hmem
  · intro line hmem
    rcases List.eq_nil_or_concat second with rfl | ⟨front, last, rfl⟩
    · exact hends line (List.dropLast_subset _ (by simpa using hmem))
    · rw [List.concat_eq_append, ← List.append_assoc, List.dropLast_concat] at hmem
      rcases List.mem_append.1 hmem with hmem | hmem
      · exact hends line hmem
      · exact hsecond.ends line (by simpa using hmem)

/-- The second part of a list of lines is a list of lines. -/
theorem Formed.right {first second : List Line} (h : Formed (first ++ second)) :
    Formed second := by
  constructor
  · exact fun line hmem => h.isLine line (List.mem_append_right _ hmem)
  · intro line hmem
    have hne : second ≠ [] := by
      rintro rfl
      simp at hmem
    exact h.ends line (by
      rw [List.dropLast_append_of_ne_nil hne]
      exact List.mem_append_right _ hmem)

/-- The lines before others all end. -/
theorem Formed.ends_left {first second : List Line} (h : Formed (first ++ second))
    (hne : second ≠ []) : ∀ line ∈ first, EndsLine line := by
  intro line hmem
  exact h.ends line (by
    rw [List.dropLast_append_of_ne_nil hne]
    exact List.mem_append_left _ hmem)

/-- The first part of a list of lines is a list of lines. -/
theorem Formed.left {first second : List Line} (h : Formed (first ++ second)) : Formed first := by
  constructor
  · exact fun line hmem => h.isLine line (List.mem_append_left _ hmem)
  · intro line hmem
    by_cases hne : second = []
    · subst hne
      exact h.ends line (by simpa using hmem)
    · exact h.ends_left hne line (List.dropLast_subset _ hmem)

/-- All lines end if the last one does. -/
theorem Formed.ends_all {front : List Line} {last : Line} (h : Formed (front ++ [last]))
    (hlast : EndsLine last) : ∀ line ∈ front ++ [last], EndsLine line := by
  intro line hline
  rcases List.mem_append.1 hline with hline | hline
  · exact h.ends_left (by simp) line hline
  · rwa [List.mem_singleton.1 hline]

/-- The lines of a text joined to a list of lines are that list. -/
theorem lines_flatten {list : List Line} (h : Formed list) : lines list.flatten = list := by
  induction list with
  | nil => rfl
  | cons line rest ih =>
      have hsplit : Formed ([line] ++ rest) := h
      have hline := h.isLine line List.mem_cons_self
      by_cases hends : EndsLine line
      · rw [List.flatten_cons, lines_append hline hends, ih hsplit.right]
      · -- Only the last line may lack its line feed, so nothing follows.
        obtain rfl : rest = [] := by
          by_contra hne
          exact hends (hsplit.ends_left hne line List.mem_cons_self)
        simpa using lines_of_not_mem hline.ne_nil (hline.not_mem hends)

/-- The lines of a text are a list of lines. -/
theorem formed_lines (text : List Char) : Formed (lines text) := by
  induction text with
  | nil => exact .nil
  | cons letter rest ih =>
      rw [lines]
      split
      · next hletter =>
          obtain rfl : letter = '\n' := by simpa using hletter
          have hfeed : Formed [['\n']] := .single ⟨by simp, by simp⟩
          exact hfeed.append ih (by simp [EndsLine])
      · next hletter =>
          have hletter : letter ≠ '\n' := by simpa using hletter
          split
          · next line others hlines =>
              rw [hlines] at ih
              have hsplit : Formed ([line] ++ others) := ih
              have hline := ih.isLine line List.mem_cons_self
              have hlonger : IsLine (letter :: line) :=
                ⟨by simp, by
                  rw [List.dropLast_cons_of_ne_nil hline.ne_nil]
                  simpa [Ne.symm hletter] using hline.inner⟩
              by_cases hothers : others = []
              · subst hothers
                exact .single hlonger
              · have hends := hsplit.ends_left hothers line List.mem_cons_self
                refine (Formed.single hlonger).append hsplit.right ?_
                simpa [EndsLine, List.getLast?_cons, Option.getD_eq_iff] using
                  (by rw [hends]; rfl : line.getLast?.getD letter = '\n')
          · exact .single ⟨by simp, by simp⟩

/-- All lines of a text that ends in a line feed end. -/
theorem ends_lines {text : List Char} (h : text.getLast? = some '\n') :
    ∀ line ∈ lines text, EndsLine line := by
  have hformed := formed_lines text
  rcases List.eq_nil_or_concat (lines text) with hnil | ⟨front, last, hlines⟩
  · simp [hnil]
  · rw [List.concat_eq_append] at hlines
    rw [hlines] at hformed ⊢
    have hne : last ≠ [] := (hformed.isLine last (by simp)).ne_nil
    refine hformed.ends_all ?_
    rwa [← flatten_lines text, hlines, List.flatten_concat, List.getLast?_append_of_ne_nil _ hne]
      at h

/-- Lists of lines with one text are equal. -/
theorem Formed.eq_of_flatten {first second : List Line} (h : Formed first)
    (hsecond : Formed second) (htext : first.flatten = second.flatten) : first = second := by
  rw [← lines_flatten h, htext, lines_flatten hsecond]

/-- The text ends where a line ends. -/
def Whole (text : List Char) : Prop :=
  ∀ line ∈ lines text, EndsLine line

instance (text : List Char) : Decidable (Whole text) :=
  inferInstanceAs (Decidable (∀ line ∈ lines text, EndsLine line))

/-- No text ends where a line ends. -/
theorem Whole.nil : Whole [] := by
  intro line hline
  cases hline

/-- A line with its line feed ends where a line ends. -/
theorem lines_line {content : List Char} (h : '\n' ∉ content) :
    lines (content ++ ['\n']) = [content ++ ['\n']] ∧ Whole (content ++ ['\n']) := by
  have hline : IsLine (content ++ ['\n']) := ⟨by simp, by simpa using h⟩
  have hends : EndsLine (content ++ ['\n']) := List.getLast?_concat
  have hlines : lines (content ++ ['\n']) = [content ++ ['\n']] := by
    have happend := lines_append hline hends []
    rwa [List.append_nil] at happend
  refine ⟨hlines, ?_⟩
  intro other hother
  rw [hlines, List.mem_singleton] at hother
  rwa [hother]

/-- Where a text ends where a line ends, the lines of another come after its own. -/
theorem Whole.lines_append {first : List Char} (h : Whole first) (second : List Char) :
    lines (first ++ second) = lines first ++ lines second := by
  refine (formed_lines _).eq_of_flatten ((formed_lines first).append (formed_lines second) h) ?_
  rw [List.flatten_append, flatten_lines, flatten_lines, flatten_lines]

/-- Texts that end where lines end do so together. -/
theorem Whole.append {first second : List Char} (h : Whole first) (hsecond : Whole second) :
    Whole (first ++ second) := by
  intro line hline
  rw [h.lines_append, List.mem_append] at hline
  rcases hline with hline | hline
  · exact h line hline
  · exact hsecond line hline

end Stencil.Text
