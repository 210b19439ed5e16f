import Stencil.Text.CaseTable

/-!
# Change of letter case

Upper and lower case of characters and of whole texts, after the full mappings of the Unicode
standard: one character may become several, and a capital sigma at the end of a word becomes the
final sigma. Characters of ASCII go through the core maps, so that on ASCII text the functions
agree with `Char.toUpper` and `Char.toLower` by definition.
-/

namespace Stencil.Text

/-- The upper case of a character, which may be several characters. -/
def upperChar (letter : Char) : List Char :=
  if letter.val < 128 then [letter.toUpper]
  else
    match CaseTable.upperExpansions.lookup letter.toNat with
    | some codes => codes.map Char.ofNat
    | none => [Char.ofNat (CaseTable.shiftIn CaseTable.upperRuns letter.toNat)]

/-- The lower case of a character outside any context. The dotted capital I is the only one whose
lower case is two characters. -/
def lowerChar (letter : Char) : List Char :=
  if letter.val < 128 then [letter.toLower]
  else if letter == 'İ' then ['i', '\u0307']
  else [Char.ofNat (CaseTable.shiftIn CaseTable.lowerRuns letter.toNat)]

/-- A character with the property `Uppercase`, which includes upper-case numerals and circled
letters. -/
def isUpperChar (letter : Char) : Bool :=
  if letter.val < 128 then letter.isUpper
  else CaseTable.uppercase.any (·.contains letter.toNat)

/-- A character that the search for the end of a word passes over. -/
def isCaseIgnorable (letter : Char) : Bool :=
  if letter.val < 128 then ['\'', '.', ':', '^', '`'].contains letter
  else CaseTable.within CaseTable.caseIgnorable letter.toNat

/-- A character with a case, among those that are not passed over. -/
def isCased (letter : Char) : Bool :=
  if letter.val < 128 then letter.isAlpha
  else CaseTable.within CaseTable.cased letter.toNat

/-- The nearest character that counts is a letter with case. -/
def meetsCased (text : List Char) : Bool :=
  match text.dropWhile isCaseIgnorable with
  | letter :: _ => isCased letter
  | [] => false

/-- Between `before`, nearest character first, and `after`, a word ends. -/
def endsWord (before after : List Char) : Bool :=
  meetsCased before && !meetsCased after

/-- Lower case of a text that follows `before`, nearest character first. -/
def lowerAfter (before : List Char) : List Char → List Char
  | [] => []
  | letter :: rest =>
    let mapped :=
      if letter == 'Σ' then [if endsWord before rest then 'ς' else 'σ'] else lowerChar letter
    mapped ++ lowerAfter (letter :: before) rest

/-- The upper case of a text. -/
def upper (text : List Char) : List Char :=
  text.flatMap upperChar

/-- The lower case of a text. -/
def lower (text : List Char) : List Char :=
  lowerAfter [] text

end Stencil.Text
