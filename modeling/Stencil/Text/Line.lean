/-!
# Lines

A text as the list of its lines, each with its terminator, so that nothing is lost: joining the
lines of a text gives the text back.
-/

namespace Stencil.Text

/-- A line together with its terminator, if it has one. -/
abbrev Line := List Char

/-- The lines of a text, terminators attached. -/
def lines : List Char → List Line
  | [] => []
  | letter :: rest =>
    if letter == '\n' then [letter] :: lines rest
    else
      match lines rest with
      | line :: others => (letter :: line) :: others
      | [] => [[letter]]

/-- A line cut into its content and its terminator: a line feed, the carriage return before it
included. -/
def cutTerminator (line : Line) : List Char × List Char :=
  match line.reverse with
  | '\n' :: '\r' :: rest => (rest.reverse, ['\r', '\n'])
  | '\n' :: rest => (rest.reverse, ['\n'])
  | _ => (line, [])

/-- The lines of a text joined are the text. -/
theorem flatten_lines (text : List Char) : (lines text).flatten = text := by
  induction text with
  | nil => rfl
  | cons letter rest ih =>
    simp only [lines]
    split
    · simp [ih]
    · split
      · next line others hlines => simpa [hlines] using ih
      · next hlines => simpa [hlines] using ih

end Stencil.Text
