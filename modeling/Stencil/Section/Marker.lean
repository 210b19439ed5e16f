import Stencil.Text.Blank
import Stencil.Text.Line

/-!
# Section markers

A marker is a line that ends in a token, one white space character and a name without white space.
Text may stand before the token, so a marker can close a comment of any language. The name is the
last stretch without white space, which is why it is unique and why it does not matter where in the
line the search starts.
-/

namespace Stencil.Section

/-- The token that opens a section. -/
def beginToken : List Char := "//template:begin".toList

/-- The token that closes a section. -/
def endToken : List Char := "//template:end".toList

/-- What a marker line does to the section it names. -/
inductive Marker where
  | opening (name : List Char)
  | closing (name : List Char)
deriving DecidableEq, Repr

/-- The marker on a line, whose terminator does not count. Any other line is ordinary text. -/
def Marker.ofLine? (line : Text.Line) : Option Marker :=
  let content := (Text.cutTerminator line).1.reverse
  let name := (content.takeWhile (!Text.isBlank ·)).reverse
  match content.dropWhile (!Text.isBlank ·) with
  | [] => none
  | _ :: before =>
    if name.isEmpty then none
    else if beginToken.reverse.isPrefixOf before then some (.opening name)
    else if endToken.reverse.isPrefixOf before then some (.closing name)
    else none

end Stencil.Section
