/-!
# Pieces of a text

Cutting a text at separators and joining pieces again. `pieces` keeps empty pieces, so there is
always one piece more than there are separators, and joining with the separator gives the text
back.
-/

namespace Stencil.Text

/-- The pieces of a text between the characters that separate. -/
def pieces (separates : Char → Bool) : List Char → List (List Char)
  | [] => [[]]
  | letter :: rest =>
    if separates letter then [] :: pieces separates rest
    else
      match pieces separates rest with
      | first :: others => (letter :: first) :: others
      | [] => [[letter]]

/-- Pieces joined with a separator between each two. -/
def join (separator : List Char) : List (List Char) → List Char
  | [] => []
  | [piece] => piece
  | piece :: others => piece ++ separator ++ join separator others

/-- The part before the first occurrence of a character and the part after it. -/
def cutAt (mark : Char) : List Char → Option (List Char × List Char)
  | [] => none
  | letter :: rest =>
    if letter == mark then some ([], rest)
    else (cutAt mark rest).map fun (before, after) => (letter :: before, after)

/-- What follows `start`, if the text begins with it. -/
def dropStart? : (start text : List Char) → Option (List Char)
  | [], text => some text
  | _ :: _, [] => none
  | letter :: start, first :: rest => if letter == first then dropStart? start rest else none

/-- What precedes `ending`, if the text ends with it. -/
def dropEnd? (ending text : List Char) : Option (List Char) :=
  (dropStart? ending.reverse text.reverse).map List.reverse

end Stencil.Text
