import Stencil.Text.Case
import Stencil.Text.Piece

/-!
# Names

The names that generated code uses for one thing: Pascal case for types, snake case for files, the
external name of a declared field, and the dotted path of nested fields. All of them are total
functions of the text; each has a form over characters, about which laws are stated.
-/

namespace Stencil.Name

/-- The first character in upper case and the rest as it is. -/
def capitalize : List Char → List Char
  | [] => []
  | first :: rest => Text.upperChar first ++ rest

/-- Every piece between underscores capitalized, and the underscores dropped. -/
def pascal (name : List Char) : List Char :=
  (Text.pieces (· == '_') name).flatMap capitalize

/-- Blanks and dashes separate words in human text; underscores do in names. -/
def underscored (text : List Char) : List Char :=
  text.map fun letter => if letter == ' ' || letter == '-' then '_' else letter

/-- A text cut before every upper-case character but the first character. -/
def humps : List Char → List (List Char)
  | [] => []
  | first :: rest =>
    match rest, humps rest with
    | next :: _, hump :: others =>
      if Text.isUpperChar next then [first] :: hump :: others else (first :: hump) :: others
    | _, _ => [[first]]

/-- The humps of a declared name in lower case, joined with underscores. -/
def external (name : List Char) : List Char :=
  Text.join ['_'] ((humps name).map Text.lower)

/-- Pascal case of a snake-case name. Only the first character of each piece changes, and empty
pieces disappear. -/
def pascalCase (name : String) : String :=
  .ofList (pascal name.toList)

/-- Pascal case of a human text whose words are separated by blanks, dashes or underscores. -/
def pascalName (text : String) : String :=
  .ofList (pascal (underscored text.toList))

/-- Snake case of a human text whose words are separated by blanks or dashes. -/
def snakeName (text : String) : String :=
  .ofList (underscored (Text.lower text.toList))

/-- The external name of a declared field. Each upper-case character starts a word, so acronyms
fall apart letter by letter. -/
def externalName (name : String) : String :=
  .ofList (external name.toList)

/-- Segments joined with dots. -/
def dottedPath (segments : List String) : String :=
  ".".intercalate segments

/-- The indefinite article before a word: `an` before a vowel of ASCII, else `a`. -/
def article (word : String) : String :=
  match word.toList with
  | first :: _ => if ['a', 'e', 'i', 'o', 'u'].contains first.toLower then "an" else "a"
  | [] => "a"

end Stencil.Name
