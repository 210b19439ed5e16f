import Stencil.Text.InvisibleTable

/-!
# Quoted texts

A text between double quotes, with quotes, backslashes, line ends, tabs and characters without a
picture escaped, and lists of such texts. It shows texts inside other values unambiguously.
-/

namespace Stencil.Text

/-- A character that a quoted text shows by its number. -/
def isInvisible (letter : Char) : Bool :=
  let code := letter.toNat
  if code < 0x80 then code < 0x20 || code == 0x7F
  else invisibleRanges.any fun (first, last) => first ≤ code && code ≤ last

/-- A character as it stands in a quoted text. -/
def quotedChar (letter : Char) : List Char :=
  match letter with
  | '"' => ['\\', '"']
  | '\\' => ['\\', '\\']
  | '\n' => ['\\', 'n']
  | '\r' => ['\\', 'r']
  | '\t' => ['\\', 't']
  | '\x00' => ['\\', '0']
  | _ =>
    if isInvisible letter then ['\\', 'u', '{'] ++ Nat.toDigits 16 letter.toNat ++ ['}']
    else [letter]

/-- A text between double quotes. -/
def quoted (text : String) : String :=
  "\"" ++ .ofList (text.toList.flatMap quotedChar) ++ "\""

/-- Quoted texts between square brackets. -/
def quotedList (texts : List String) : String :=
  "[" ++ ", ".intercalate (texts.map quoted) ++ "]"

end Stencil.Text
