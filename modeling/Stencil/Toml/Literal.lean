import Stencil.Number.Literal
import Stencil.Number.Width
import Stencil.Text.Piece
import Stencil.Toml.Item

/-!
# Values in one word or between quotes

How texts, numbers, truth values and moments are written. A reader yields what it read and what
follows it, or nothing if the text is not well formed.
-/

namespace Stencil.Toml

open Stencil.Text (cutAt dropStart? pieces)
open Stencil.Number (digitIn? natural?)

/-- A character that a document may contain within a line. -/
def isAllowed (letter : Char) : Bool :=
  letter == '\t' || (0x20 ≤ letter.toNat && letter.toNat != 0x7F)

/-- A space or a tab. -/
def isBlank (letter : Char) : Bool :=
  letter == ' ' || letter == '\t'

/-- The text after blanks. -/
def skipBlanks (text : List Char) : List Char :=
  text.dropWhile isBlank

/-- The text after a line end. -/
def skipLineEnd? : List Char → Option (List Char)
  | '\n' :: rest | '\r' :: '\n' :: rest => some rest
  | _ => none

/-- The text after a comment, if one follows. -/
def skipComment (text : List Char) : List Char :=
  match text with
  | '#' :: rest => rest.dropWhile isAllowed
  | text => text

/-- What single characters after a backslash stand for. -/
def escapes : List (Char × Char) :=
  [('b', '\x08'), ('t', '\t'), ('n', '\n'), ('f', '\x0c'), ('r', '\r'), ('e', '\x1b'), ('"', '"'),
    ('\\', '\\')]

/-- How many digits of a character's code follow the character after a backslash. -/
def codeLengths : List (Char × Nat) :=
  [('x', 2), ('u', 4), ('U', 8)]

/-- The character that stands after a backslash, and what follows it. -/
def readEscape? : List Char → Option (Char × List Char)
  | [] => none
  | kind :: rest =>
    match codeLengths.lookup kind with
    | some count => do
      let digits := rest.take count
      let code ← natural? 16 digits
      if digits.length = count ∧ code.isValidChar then some (Char.ofNat code, rest.drop count)
      else none
    | none => (escapes.lookup kind).map fun letter => (letter, rest)

/-- The content of a text between double quotes, after the first of them. -/
def readBasic? : (fuel : Nat) → List Char → Option (List Char × List Char)
  | 0, _ => none
  | fuel + 1, text =>
    match text with
    | '"' :: rest => some ([], rest)
    | '\\' :: rest => do
      let (letter, rest) ← readEscape? rest
      let (content, rest) ← readBasic? fuel rest
      some (letter :: content, rest)
    | letter :: rest =>
      if isAllowed letter then
        (readBasic? fuel rest).map fun (content, rest) => (letter :: content, rest)
      else none
    | [] => none

/-- The content of a text between single quotes, after the first of them. -/
def readExact? (text : List Char) : Option (List Char × List Char) := do
  let (content, rest) ← cutAt '\'' text
  if content.all isAllowed then some (content, rest) else none

/-- A text without the line end at its start. -/
def dropLineEnd (text : List Char) : List Char :=
  (skipLineEnd? text).getD text

/-- The quotes at the end of a text between three quotes: of at most five the first two belong to
the content. -/
def closeLong? (quote : Char) (text : List Char) : Option (List Char × List Char) :=
  let count := min 5 (text.takeWhile (· == quote)).length
  if 3 ≤ count then some (List.replicate (count - 3) quote, text.drop count) else none

/-- A line end that a backslash takes away, with the blanks and line ends after it. -/
def skipEscapedLines? (text : List Char) : Option (List Char) := do
  let _ ← skipLineEnd? (skipBlanks text)
  some (skipAll text.length text)
where
  /-- The text after blanks and line ends. -/
  skipAll : Nat → List Char → List Char
    | 0, text => text
    | fuel + 1, text =>
      match skipLineEnd? (skipBlanks text) with
      | some rest => skipAll fuel rest
      | none => skipBlanks text

/-- The content of a text between three quotes. Only between double ones a backslash has a
meaning. -/
def readLong? (quote : Char) : (fuel : Nat) → List Char → Option (List Char × List Char)
  | 0, _ => none
  | fuel + 1, text =>
    match closeLong? quote text with
    | some closed => some closed
    | none =>
      match text with
      | [] => none
      | '\r' :: '\n' :: rest =>
        (readLong? quote fuel rest).map fun (content, rest) => ('\r' :: '\n' :: content, rest)
      | '\n' :: rest =>
        (readLong? quote fuel rest).map fun (content, rest) => ('\n' :: content, rest)
      | letter :: rest =>
        if letter == '\\' && quote == '"' then
          match skipEscapedLines? rest with
          | some rest => readLong? quote fuel rest
          | none => do
            let (letter, rest) ← readEscape? rest
            let (content, rest) ← readLong? quote fuel rest
            some (letter :: content, rest)
        else if isAllowed letter then
          (readLong? quote fuel rest).map fun (content, rest) => (letter :: content, rest)
        else none

/-- A text in quotes of any kind. -/
def readText? (text : List Char) : Option (List Char × List Char) :=
  match text with
  | '"' :: '"' :: '"' :: rest => readLong? '"' (rest.length + 1) (dropLineEnd rest)
  | '\'' :: '\'' :: '\'' :: rest => readLong? '\'' (rest.length + 1) (dropLineEnd rest)
  | '"' :: rest => readBasic? (rest.length + 1) rest
  | '\'' :: rest => readExact? rest
  | _ => none

/-- Digits without the underscores between them. Elsewhere there may be none. -/
def plainDigits? (isDigit : Char → Bool) (text : List Char) : Option (List Char) :=
  let groups := pieces (· == '_') text
  if groups.all fun group => !group.isEmpty && group.all isDigit then some groups.flatten else none

/-- Digits that do not start with a zero, unless that is all. -/
def wholeDigits? (text : List Char) : Option (List Char) :=
  match plainDigits? Char.isDigit text with
  | some ('0' :: _ :: _) => none
  | digits => digits

/-- An integer that some machine integer holds. -/
def boundedInteger (value : Int) : Value :=
  if Number.fitsSigned 128 value || Number.fitsUnsigned 128 value then .integer value
  else .unrepresentable

/-- An integer in a base that its second character tells, or in base ten with a sign. -/
def integerOf? (word : List Char) : Option Value :=
  let based :=
    match word with
    | '0' :: letter :: digits => (Number.bases.lookup letter).map fun base => (base, digits)
    | _ => none
  match based with
  | some (base, digits) => do
    let digits ← plainDigits? (fun letter => (digitIn? base letter).isSome) digits
    boundedInteger <$> (natural? base digits).map Int.ofNat
  | none => do
    let (negative, digits) := Number.cutSign word
    let value ← wholeDigits? digits >>= natural? 10
    some (boundedInteger (Number.signed negative value))

/-- A floating-point number: a word for what is no number, or digits with a fraction, a power of
ten, or both. -/
def floatOf? (word : List Char) : Option Value := do
  let (_, digits) := Number.cutSign word
  if digits = "inf".toList ∨ digits = "nan".toList then some .other
  else
    let isMark (letter : Char) : Bool := letter == 'e' || letter == 'E'
    let mantissa := digits.takeWhile (!isMark ·)
    let power := digits.dropWhile (!isMark ·)
    let exponent ←
      if power.isEmpty then some []
      else plainDigits? Char.isDigit (Number.cutSign (power.drop 1)).2
    let parts : Number.Scientific ←
      match cutAt '.' mantissa with
      | some (whole, fraction) => do
        let fraction ← plainDigits? Char.isDigit fraction
        some ⟨← wholeDigits? whole, fraction, 0⟩
      | none => if power.isEmpty then none else some ⟨← wholeDigits? mantissa, [], 0⟩
    let size := (natural? 10 exponent).getD 0
    let negative := (Number.cutSign (power.drop 1)).1
    let value := { parts with exponent := Number.signed negative size }.toFloat
    some (if value.isFinite then .other else .unrepresentable)

/-- A number of `count` digits in a range, and what follows it. -/
def readPart? (count first last : Nat) (text : List Char) : Option (Nat × List Char) := do
  let value ← natural? 10 (text.take count)
  if (text.take count).length = count ∧ first ≤ value ∧ value ≤ last then
    some (value, text.drop count)
  else none

/-- How many days a month has. -/
def daysOf (year month : Nat) : Nat :=
  if month = 2 then
    if year % 4 = 0 ∧ (year % 100 ≠ 0 ∨ year % 400 = 0) then 29 else 28
  else if [4, 6, 9, 11].contains month then 30
  else 31

/-- A date, and what follows it. -/
def readDate? (text : List Char) : Option (List Char) := do
  let (year, rest) ← readPart? 4 0 9999 text
  let (month, rest) ← readPart? 2 1 12 (← dropStart? ['-'] rest)
  let (_, rest) ← readPart? 2 1 (daysOf year month) (← dropStart? ['-'] rest)
  some rest

/-- A time of day, whose seconds may be missing and may have a fraction, and what follows it. -/
def readTime? (text : List Char) : Option (List Char) := do
  let (_, rest) ← readPart? 2 0 23 text
  let (_, rest) ← readPart? 2 0 59 (← dropStart? [':'] rest)
  match rest with
  | ':' :: rest =>
    let (_, rest) ← readPart? 2 0 60 rest
    match rest with
    | '.' :: digits =>
      if digits.takeWhile Char.isDigit = [] then none else some (digits.dropWhile Char.isDigit)
    | rest => some rest
  | rest => some rest

/-- A distance from universal time, if one is given, up to the end. -/
def isOffset (text : List Char) : Bool :=
  match text with
  | [] => true
  | [letter] => letter == 'Z' || letter == 'z'
  | sign :: rest =>
    (sign == '+' || sign == '-') &&
      (do
        let (_, rest) ← readPart? 2 0 24 rest
        let (_, rest) ← readPart? 2 0 59 (← dropStart? [':'] rest)
        if rest.isEmpty then some () else none).isSome

/-- A date, a time, or both. -/
def isMoment (word : List Char) : Bool :=
  match readDate? word with
  | some [] => true
  | some (mark :: rest) =>
    (mark == 'T' || mark == 't' || mark == ' ') && (readTime? rest).any isOffset
  | none => readTime? word == some []

/-- A character of a value in one word. -/
def isWordChar (letter : Char) : Bool :=
  letter.isAlphanum || ['+', '-', '_', '.', ':'].contains letter

/-- The word that a text starts with, and what follows it. A date may be followed by a time after a
space. -/
def cutWord (text : List Char) : List Char × List Char :=
  let word := text.takeWhile isWordChar
  let rest := text.dropWhile isWordChar
  match rest with
  | ' ' :: digit :: after =>
    if digit.isDigit && readDate? word == some [] then
      let time := (digit :: after).takeWhile isWordChar
      (word ++ ' ' :: time, (digit :: after).dropWhile isWordChar)
    else (word, rest)
  | _ => (word, rest)

/-- The value that a word stands for. -/
def valueOfWord? (word : List Char) : Option Value :=
  if word = "true".toList ∨ word = "false".toList then some .other
  else if isMoment word then some .other
  else (integerOf? word).or (floatOf? word)

/-- A value that is no collection. -/
def readSimple? (text : List Char) : Option (Value × List Char) :=
  match text with
  | '"' :: _ | '\'' :: _ =>
    (readText? text).map fun (content, rest) => (.text (.ofList content), rest)
  | _ =>
    let (word, rest) := cutWord text
    (valueOfWord? word).map fun value => (value, rest)

/-- A character of a key without quotes. -/
def isKeyChar (letter : Char) : Bool :=
  letter.isAlphanum || letter == '-' || letter == '_'

/-- One part of a key. -/
def readKeyPart? (text : List Char) : Option (String × List Char) :=
  match text with
  | '"' :: rest => (readBasic? (rest.length + 1) rest).map fun (name, rest) => (.ofList name, rest)
  | '\'' :: rest => (readExact? rest).map fun (name, rest) => (.ofList name, rest)
  | _ =>
    let name := text.takeWhile isKeyChar
    if name.isEmpty then none else some (.ofList name, text.dropWhile isKeyChar)

/-- A key: the parts before the last, the last, and the text after the blanks that follow. -/
def readKey? : (fuel : Nat) → List Char → Option (List String × String × List Char)
  | 0, _ => none
  | fuel + 1, text => do
    let (part, rest) ← readKeyPart? (skipBlanks text)
    match skipBlanks rest with
    | '.' :: rest =>
      let (path, key, rest) ← readKey? fuel rest
      some (part :: path, key, rest)
    | rest => some ([], part, rest)

end Stencil.Toml
