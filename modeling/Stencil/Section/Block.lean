import Stencil.Section.Marker

/-!
# Blocks

The block of a section is the stretch of lines from the marker that opens it through the first
later marker that closes it. Markers of other sections in between are ordinary lines of the block.
-/

namespace Stencil.Section

/-- The line opens the section of that name. -/
def opens (name : List Char) (line : Text.Line) : Bool :=
  Marker.ofLine? line == some (.opening name)

/-- The line closes the section of that name. -/
def closes (name : List Char) (line : Text.Line) : Bool :=
  Marker.ofLine? line == some (.closing name)

/-- The lines of the first block of that name, marker lines included. -/
def blockLines? (name : List Char) (lines : List Text.Line) : Option (List Text.Line) :=
  match lines.dropWhile (!opens name ·) with
  | [] => none
  | first :: later =>
    match later.dropWhile (!closes name ·) with
    | [] => none
    | last :: _ => some (first :: later.takeWhile (!closes name ·) ++ [last])

/-- The first block of that name in a text, byte for byte. -/
def blockText? (name text : List Char) : Option (List Char) :=
  (blockLines? name (Text.lines text)).map List.flatten

/-- The names of the sections that a text opens, in order. -/
def openedNames (text : List Char) : List (List Char) :=
  (Text.lines text).filterMap fun line =>
    match Marker.ofLine? line with
    | some (.opening name) => some name
    | _ => none

/-- The first complete section of that name in a text, marker lines included. -/
def extract? (text name : String) : Option String :=
  (blockText? name.toList text.toList).map String.ofList

/-- The names of the sections that a text opens, in order of appearance. -/
def names (text : String) : List String :=
  (openedNames text.toList).map String.ofList

end Stencil.Section
