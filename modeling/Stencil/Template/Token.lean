import Stencil.Number.Literal
import Stencil.Number.Width
import Stencil.Text.Blank
import Stencil.Text.Piece

/-!
# Template tokens

The lexical structure of templates. Outside of tags all is text. A tag that is not a variable takes
the blanks before it on its line with it, if only blanks precede it there, and the line end after
it; a hyphen at its edge takes all white space on that side, and a plus sign keeps it. Inside a tag
there are names, numbers, strings and symbols. A tag ends only outside of all brackets, so that a
map may end in braces.
-/

namespace Stencil.Template

open Stencil.Text
open Stencil.Number (digitIn? natural? scientific?)

/-- Tokens of a template. -/
inductive Token where
  | text (text : String)
  | printStart
  | printEnd
  | blockStart
  | blockEnd
  | name (name : String)
  | int (value : Nat)
  | float (value : Float)
  | string (value : String)
  | symbol (symbol : String)

/-- What the edge of a tag does to the white space beyond it. -/
inductive Edge where
  | plain
  | keep
  | strip
deriving DecidableEq

/-- The edge that a character at the border of a tag asks for. -/
def Edge.ofChar? : Char → Option Edge
  | '-' => some .strip
  | '+' => some .keep
  | _ => none

/-- The kinds of tags. -/
inductive TagKind where
  | print
  | block
  | comment
deriving DecidableEq

/-- The kind of tag that starts with a brace and this character. -/
def TagKind.ofChar? : Char → Option TagKind
  | '{' => some .print
  | '%' => some .block
  | '#' => some .comment
  | _ => none

/-- The edge at the start of a text, if a sign is there, and what follows it. -/
def cutEdge : List Char → Edge × List Char
  | sign :: rest =>
    match Edge.ofChar? sign with
    | some edge => (edge, rest)
    | none => (.plain, sign :: rest)
  | [] => (.plain, [])

/-- Text up to the first tag, in reverse, and the tag: its kind and what follows its first two
characters. -/
def cutText : (before : List Char) → List Char → List Char × Option (TagKind × List Char)
  | before, [] => (before, none)
  | before, [last] => (last :: before, none)
  | before, letter :: next :: rest =>
    if letter == '{' then
      match TagKind.ofChar? next with
      | some kind => (before, some (kind, rest))
      | none => cutText (letter :: before) (next :: rest)
    else cutText (letter :: before) (next :: rest)

/-- White space that does not end a line. -/
def isLineBlank (letter : Char) : Bool :=
  isBlank letter && letter != '\n' && letter != '\r'

/-- A reversed text without the blanks after its last line end. If the text has no line end, its
start counts as one when `atLineStart` holds; other characters in between keep the blanks. -/
def dropLineBlanks (atLineStart : Bool) (reversed : List Char) : List Char :=
  match reversed.dropWhile isLineBlank with
  | [] => if atLineStart then [] else reversed
  | letter :: rest => if letter == '\n' || letter == '\r' then letter :: rest else reversed

/-- The reversed text before a tag, after the tag's first edge took its share. -/
def stripBefore (kind : TagKind) (edge : Edge) (atLineStart : Bool) (reversed : List Char) :
    List Char :=
  match edge with
  | .strip => reversed.dropWhile isBlank
  | .keep => reversed
  | .plain => if kind = .print then reversed else dropLineBlanks atLineStart reversed

/-- A text without the line end at its start. -/
def dropLineEnd : List Char → List Char
  | '\r' :: '\n' :: rest => rest
  | '\r' :: rest => rest
  | '\n' :: rest => rest
  | text => text

/-- The text after a block or a comment, after its last edge took its share, and whether it starts
a line. -/
def stripAfter (edge : Edge) (text : List Char) : List Char × Bool :=
  match edge with
  | .strip => (text.dropWhile isBlank, false)
  | .keep => (text, false)
  | .plain => (dropLineEnd text, (dropLineEnd text).length < text.length)

/-- White space between the tokens of a tag. -/
def isTagBlank (letter : Char) : Bool :=
  [' ', '\t', '\n', '\x0c', '\r'].contains letter

/-- A block tag that holds one word only: its last edge and what follows it. -/
def cutBareTag? (word : List Char) (text : List Char) : Option (Edge × List Char) := do
  let rest ← dropStart? word (text.dropWhile isTagBlank)
  let (edge, rest) := cutEdge (rest.dropWhile isTagBlank)
  let rest ← dropStart? ['%', '}'] rest
  pure (edge, rest)

/-- The text up to the block that ends raw text, in reverse, with that block's two edges and what
follows it. -/
def cutRaw? : (before : List Char) → List Char → Option (List Char × Edge × Edge × List Char)
  | _, [] => none
  | before, letter :: rest =>
    let found :=
      match letter, rest with
      | '{', '%' :: inner =>
        let (first, inner) := cutEdge inner
        (cutBareTag? "endraw".toList inner).map fun (last, after) => (before, first, last, after)
      | _, _ => none
    match found with
    | some result => some result
    | none => cutRaw? (letter :: before) rest

/-- Raw text as it is printed, given in reverse with the edges of the tags around it. -/
def rawText (opening closing : Edge) (reversed : List Char) : List Char :=
  let trimmedEnd :=
    match closing with
    | .strip => reversed.dropWhile isBlank
    | .keep => reversed
    | .plain => dropLineBlanks true reversed
  match opening with
  | .strip => trimmedEnd.reverse.dropWhile isBlank
  | .keep => trimmedEnd.reverse
  | .plain => dropLineEnd trimmedEnd.reverse

/-- The last edge of a comment and what follows it. `previous` is the character of the comment
before. -/
def cutComment? : (previous : Option Char) → List Char → Option (Edge × List Char)
  | previous, '#' :: '}' :: rest => some ((previous.bind Edge.ofChar?).getD .plain, rest)
  | _, letter :: rest => cutComment? (some letter) rest
  | _, [] => none

/-- A character that may start a name. -/
def isNameStart (letter : Char) : Bool :=
  letter.isAlpha || letter == '_'

/-- A character inside a name. -/
def isNameChar (letter : Char) : Bool :=
  letter.isAlphanum || letter == '_'

/-- How far the characters of a decimal number have come. -/
inductive NumberPart where
  | whole
  | fraction
  | exponent
  | exponentDigits
deriving DecidableEq

/-- The part that the next character of a decimal number belongs to. -/
def NumberPart.next? (part : NumberPart) (letter : Char) : Option NumberPart :=
  if letter == '.' && part = .whole then some .fraction
  else if (letter == 'e' || letter == 'E') && (part = .whole || part = .fraction) then
    some .exponent
  else if (letter == '+' || letter == '-') && part = .exponent then some .exponentDigits
  else if letter.isDigit then some (if part = .exponent then .exponentDigits else part)
  else if letter == '_' && part ≠ .exponent then some part
  else none

/-- The characters of a decimal number, the last part they reach and what follows them. -/
def cutDecimal : NumberPart → List Char → List Char × NumberPart × List Char
  | part, [] => ([], part, [])
  | part, letter :: rest =>
    match part.next? letter with
    | some next =>
      let (digits, last, rest) := cutDecimal next rest
      (letter :: digits, last, rest)
    | none => ([], part, letter :: rest)

/-- The largest whole number that a template can write. -/
def maxInt : Nat := Number.wordCount 128 - 1

/-- The number at the start of a text and what follows it. -/
def cutNumber? (text : List Char) : Option (Token × List Char) :=
  let based (base : Nat) (rest : List Char) : Option (Token × List Char) :=
    let isDigitHere (letter : Char) := letter.isDigit || letter == '_' ||
      (base == 16 && (digitIn? 16 letter).isSome)
    let digits := (rest.takeWhile isDigitHere).filter (· != '_')
    match natural? base digits with
    | some value => if value ≤ maxInt then some (.int value, rest.dropWhile isDigitHere) else none
    | none => none
  match text with
  | '0' :: 'b' :: rest | '0' :: 'B' :: rest => based 2 rest
  | '0' :: 'o' :: rest | '0' :: 'O' :: rest => based 8 rest
  | '0' :: 'x' :: rest | '0' :: 'X' :: rest => based 16 rest
  | _ =>
    let (digits, part, rest) := cutDecimal .whole text
    let digits := digits.filter (· != '_')
    if part = .whole then
      match natural? 10 digits with
      | some value => if value ≤ maxInt then some (.int value, rest) else none
      | none => none
    else (scientific? digits).map fun parts => (.float parts.toFloat, rest)

/-- The content of a string up to its closing quote, escapes still in it, and what follows. -/
def cutString? (quote : Char) : List Char → Option (List Char × List Char)
  | [] => none
  | '\\' :: letter :: rest =>
    (cutString? quote rest).map fun (content, after) => ('\\' :: letter :: content, after)
  | letter :: rest =>
    if letter == quote then some ([], rest)
    else if letter == '\\' then none
    else (cutString? quote rest).map fun (content, after) => (letter :: content, after)

/-- A code unit of sixteen bits written with four hexadecimal digits. -/
def codeUnit? (a b c d : Char) : Option Nat :=
  natural? 16 (if a == '+' then [b, c, d] else [a, b, c, d])

/-- The characters that an escaped text denotes. Two escapes may form one character beyond the
first plane; a half of such a pair alone is refused. -/
def unescape? : List Char → Option (List Char)
  | [] => some []
  | '\\' :: 'u' :: a :: b :: c :: d :: rest =>
    match codeUnit? a b c d with
    | none => none
    | some high =>
      if high < 0xD800 || 0xE000 ≤ high then
        (unescape? rest).map (Char.ofNat high :: ·)
      else
        match rest with
        | '\\' :: 'u' :: e :: f :: g :: h :: rest =>
          match codeUnit? e f g h with
          | some low =>
            if high < 0xDC00 && 0xDC00 ≤ low && low < 0xE000 then
              (unescape? rest).map
                (Char.ofNat (0x10000 + (high - 0xD800) * 0x400 + (low - 0xDC00)) :: ·)
            else none
          | none => none
        | _ => none
  | '\\' :: letter :: rest =>
    match [('"', '"'), ('\\', '\\'), ('/', '/'), ('\'', '\''), ('b', '\x08'), ('f', '\x0c'),
        ('n', '\n'), ('r', '\r'), ('t', '\t')].lookup letter with
    | some meaning => (unescape? rest).map (meaning :: ·)
    | none => none
  | letter :: rest => if letter == '\\' then none else (unescape? rest).map (letter :: ·)

/-- Symbols of two characters. -/
def pairSymbols : List (Char × Char) :=
  [('/', '/'), ('*', '*'), ('=', '='), ('!', '='), ('>', '='), ('<', '=')]

/-- Symbols of one character. -/
def singleSymbols : List Char :=
  ['+', '-', '*', '/', '%', '.', ',', ':', '~', '|', '=', '>', '<', '(', ')', '[', ']', '{', '}']

/-- The token at the start of a text inside a tag, and what follows it. -/
def cutToken? : List Char → Option (Token × List Char)
  | [] => none
  | first :: rest =>
    let pair := rest.head?.filter fun next => pairSymbols.contains (first, next)
    match pair with
    | some next => some (.symbol (.ofList [first, next]), rest.drop 1)
    | none =>
      if singleSymbols.contains first then some (.symbol (.singleton first), rest)
      else if first == '\'' || first == '"' then do
        let (content, after) ← cutString? first rest
        let value ← unescape? content
        pure (.string (.ofList value), after)
      else if first.isDigit then cutNumber? (first :: rest)
      else if isNameStart first then
        some (.name (.ofList (first :: rest.takeWhile isNameChar)), rest.dropWhile isNameChar)
      else none

/-- The last edge of a tag and what follows the tag, if the text starts with its end. -/
def cutTagEnd? (kind : TagKind) (text : List Char) : Option (Edge × List Char) :=
  let (edge, inner) := cutEdge text
  let mark := if kind = .block then '%' else '}'
  match inner with
  | first :: '}' :: rest =>
    if first == mark && !(kind = .print && edge = .keep) then some (edge, rest) else none
  | _ => none

/-- How a symbol changes the number of open brackets. -/
def bracketChange : Token → Int
  | .symbol "(" | .symbol "[" | .symbol "\x7b" => 1
  | .symbol ")" | .symbol "]" | .symbol "\x7d" => -1
  | _ => 0

/-- The tokens of a tag, its end included, and the text after it with its last edge. The fuel
bounds the number of tokens; the length of the text is enough. -/
def scanTag (kind : TagKind) : (fuel : Nat) → (depth : Int) → List Char →
    Option (List Token × Edge × List Char)
  | 0, _, _ => none
  | fuel + 1, depth, text =>
    let text := text.dropWhile isTagBlank
    let ending := if depth = 0 then cutTagEnd? kind text else none
    match ending with
    | some (edge, rest) =>
      some ([if kind = .block then .blockEnd else .printEnd], edge, rest)
    | none => do
      let (token, rest) ← cutToken? text
      let (tokens, edge, rest) ← scanTag kind fuel (depth + bracketChange token) rest
      pure (token :: tokens, edge, rest)

/-- A text token, unless the text is empty. -/
def textToken (reversed : List Char) : List Token :=
  if reversed.isEmpty then [] else [.text (.ofList reversed.reverse)]

/-- The tokens of a text that stands outside of tags, or `none` if a tag or string does not end or
holds a character that starts no token. The fuel bounds the number of tags. -/
def scanText : (fuel : Nat) → (atLineStart : Bool) → List Char → Option (List Token)
  | 0, _, _ => none
  | fuel + 1, atLineStart, text =>
    match cutText [] text with
    | (before, none) => some (textToken before)
    | (before, some (kind, inner)) => do
      let (first, inner) := cutEdge inner
      let lead := textToken (stripBefore kind first atLineStart before)
      match kind with
      | .comment =>
        let (last, rest) ← cutComment? none inner
        let (rest, starts) := stripAfter last rest
        pure (lead ++ (← scanText fuel starts rest))
      | .print =>
        let (tokens, last, rest) ← scanTag .print (inner.length + 1) 0 inner
        let rest := if last = .strip then rest.dropWhile isBlank else rest
        pure (lead ++ .printStart :: tokens ++ (← scanText fuel false rest))
      | .block =>
        match cutBareTag? "raw".toList inner with
        | some (opening, body) =>
          let (raw, closing, last, rest) ← cutRaw? [] body
          let (rest, starts) := stripAfter last rest
          let content := textToken (rawText opening closing raw).reverse
          pure (lead ++ content ++ (← scanText fuel starts rest))
        | none =>
          let (tokens, last, rest) ← scanTag .block (inner.length + 1) 0 inner
          let (rest, starts) := stripAfter last rest
          pure (lead ++ .blockStart :: tokens ++ (← scanText fuel starts rest))

/-- The tokens of a template. -/
def Token.scan? (source : List Char) : Option (List Token) :=
  scanText (source.length + 1) true source

end Stencil.Template
