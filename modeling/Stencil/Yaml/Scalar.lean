import Stencil.Number.Literal
import Stencil.Yaml.Cursor

/-!
# Scalar texts

The four ways to write a text: plain, in single or double quotes, and as a block. In the first three
a single line end reads as a space and several as one less; in a block the style decides. A reader
yields the text and the place after it, or nothing if the text is not well formed.
-/

namespace Stencil.Yaml

open Stencil.Number (natural?)

/-- How a scalar is written. -/
inductive Style where
  | plain
  | quoted
  | literal
  | folded
deriving DecidableEq, Repr

/-- White space between two words: blanks on one line, or line ends with the blanks around them
dropped. -/
structure Gap where
  blanks : List Char
  /-- The first line end and those that follow it. -/
  breaks : Option (List Char × List Char)

namespace Gap

/-- No white space. -/
def empty : Gap := ⟨[], none⟩

/-- A line end that a backslash takes away. -/
def escaped : Gap := ⟨[], some ([], [])⟩

/-- The text that the white space stands for. -/
def text (gap : Gap) : List Char :=
  match gap.breaks with
  | none => gap.blanks
  | some (first, others) =>
    if first = ['\n'] then if others.isEmpty then [' '] else others else first ++ others

/-- A blank more, which counts only on the first line. -/
def blank (gap : Gap) (letter : Char) : Gap :=
  if gap.breaks.isSome then gap else { gap with blanks := gap.blanks ++ [letter] }

/-- A line end more. -/
def lineEnd (gap : Gap) (written : List Char) : Gap :=
  match gap.breaks with
  | none => ⟨[], some (written, [])⟩
  | some (first, others) => ⟨[], some (first, others ++ written)⟩

/-- White space read to its end. A tab may not stand for indentation: below the column `indent`
there is none after a line end. -/
def read? (indent : Int) : (fuel : Nat) → Gap → Cursor → Option (Gap × Cursor)
  | 0, gap, cursor => some (gap, cursor)
  | fuel + 1, gap, cursor =>
    match cursor.peek with
    | none => some (gap, cursor)
    | some letter =>
      if isBlank letter then
        if gap.breaks.isSome && decide (cursor.column < indent) && letter == '\t' then none
        else read? indent fuel (gap.blank letter) (cursor.skip 1)
      else if isBreak letter then
        let (written, cursor) := cursor.readBreak
        read? indent fuel (gap.lineEnd written) cursor
      else some (gap, cursor)

end Gap

/-- A character that opens, closes or separates collections in brackets. -/
def isFlowMark (letter : Char) : Bool :=
  letter == ',' || letter == '[' || letter == ']' || letter == '{' || letter == '}'

/-- Characters of a plain scalar up to white space or the end of the scalar, in reverse. In
brackets a colon may not touch a mark. -/
def readPlainWord? (inFlow : Bool) : (fuel : Nat) → List Char → Cursor → Option (List Char × Cursor)
  | 0, word, cursor => some (word, cursor)
  | fuel + 1, word, cursor =>
    match cursor.peek with
    | none => some (word, cursor)
    | some letter =>
      if cursor.isSpace then some (word, cursor)
      else if inFlow && letter == ':' &&
          (cursor.peekAt 1).any (fun next => isFlowMark next || next == '?') then
        none
      else if letter == ':' && cursor.isSpaceAt 1 || inFlow && isFlowMark letter then
        some (word, cursor)
      else readPlainWord? inFlow fuel (letter :: word) (cursor.skip 1)

/-- A scalar that has been read: its text, whether it ended after a line end, and the place after
it. -/
structure Plain where
  text : List Char
  endsLine : Bool
  cursor : Cursor

/-- The rest of a plain scalar after what has been read, given in reverse, and white space. -/
def readPlainAfter? (inFlow : Bool) (indent : Int) :
    (fuel : Nat) → List Char → Gap → Cursor → Option Plain
  | 0, _, _, _ => none
  | fuel + 1, reversed, gap, cursor =>
    let done : Plain := ⟨reversed.reverse, gap.breaks.isSome, cursor⟩
    if cursor.atDocumentMark || cursor.follows '#' then some done
    else
      match readPlainWord? inFlow cursor.rest.length [] cursor with
      | none => none
      | some ([], _) => some done
      | some (word, cursor) =>
        let reversed := word ++ (gap.text.reverse ++ reversed)
        if !cursor.isSpace || cursor.rest.isEmpty then some ⟨reversed.reverse, false, cursor⟩
        else
          match Gap.empty.read? indent cursor.rest.length cursor with
          | none => none
          | some (gap, cursor) =>
            if !inFlow && decide (cursor.column < indent) then
              some ⟨reversed.reverse, gap.breaks.isSome, cursor⟩
            else readPlainAfter? inFlow indent fuel reversed gap cursor

/-- A plain scalar. Its lines are indented to the column `indent` at least. -/
def readPlain? (inFlow : Bool) (indent : Int) (cursor : Cursor) : Option Plain :=
  readPlainAfter? inFlow indent (cursor.rest.length + 1) [] .empty cursor

/-- The character with that code, if there is one. -/
def charOfCode? (code : Nat) : Option Char :=
  if code.isValidChar then some (Char.ofNat code) else none

/-- What the character after a backslash stands for. -/
def escapes : List (Char × Char) :=
  [('0', '\x00'), ('a', '\x07'), ('b', '\x08'), ('t', '\t'), ('\t', '\t'), ('n', '\n'),
    ('v', '\x0b'), ('f', '\x0c'), ('r', '\r'), ('e', '\x1b'), (' ', ' '), ('"', '"'), ('/', '/'),
    ('\\', '\\'), ('N', '\x85'), ('_', '\xa0'), ('L', '\u2028'), ('P', '\u2029')]

/-- How many digits of a character's code follow the character after a backslash. -/
def codeLengths : List (Char × Nat) :=
  [('x', 2), ('u', 4), ('U', 8)]

/-- The character that an escape stands for, and the place after the escape. -/
def readEscape? (cursor : Cursor) : Option (Char × Cursor) := do
  let kind ← cursor.peekAt 1
  match codeLengths.lookup kind with
  | some count =>
    let digits := (cursor.rest.drop 2).take count
    if digits.length < count then none
    else
      let letter ← natural? 16 digits >>= charOfCode?
      some (letter, cursor.skip (2 + count))
  | none =>
    let letter ← escapes.lookup kind
    some (letter, cursor.skip 2)

/-- Characters of a scalar in quotes up to white space or the closing quote, in reverse, with the
white space that an escaped line end begins. -/
def readQuotedWord? (quote : Char) :
    (fuel : Nat) → List Char → Cursor → Option (List Char × Gap × Cursor)
  | 0, word, cursor => some (word, .empty, cursor)
  | fuel + 1, word, cursor =>
    match cursor.peek with
    | none => some (word, .empty, cursor)
    | some letter =>
      if cursor.isSpace then some (word, .empty, cursor)
      else if letter == quote then
        if quote == '\'' && cursor.peekAt 1 == some quote then
          readQuotedWord? quote fuel (quote :: word) (cursor.skip 2)
        else some (word, .empty, cursor)
      else if quote == '"' && letter == '\\' then
        if (cursor.peekAt 1).any isBreak then
          some (word, .escaped, (cursor.skip 1).skipBreak)
        else
          match readEscape? cursor with
          | none => none
          | some (meant, cursor) => readQuotedWord? quote fuel (meant :: word) cursor
      else readQuotedWord? quote fuel (letter :: word) (cursor.skip 1)

/-- The rest of a scalar in quotes after what has been read, given in reverse. -/
def readQuotedAfter? (quote : Char) : (fuel : Nat) → List Char → Cursor → Option (List Char × Cursor)
  | 0, _, _ => none
  | fuel + 1, reversed, cursor =>
    if cursor.atDocumentMark || cursor.rest.isEmpty then none
    else
      match readQuotedWord? quote cursor.rest.length [] cursor with
      | none => none
      | some (word, gap, cursor) =>
        let reversed := word ++ reversed
        if cursor.follows quote then some (reversed.reverse, cursor.skip 1)
        else
          match gap.read? 0 cursor.rest.length cursor with
          | none => none
          | some (gap, cursor) => readQuotedAfter? quote fuel (gap.text.reverse ++ reversed) cursor

/-- A scalar in quotes. -/
def readQuoted? (quote : Char) (cursor : Cursor) : Option (List Char × Cursor) :=
  readQuotedAfter? quote (cursor.rest.length + 1) [] (cursor.skip 1)

/-- What becomes of the line ends at the end of a block. -/
inductive Chomping where
  | strip
  | clip
  | keep
deriving DecidableEq

/-- The chomping that a character asks for. -/
def Chomping.ofChar? : Char → Option Chomping
  | '-' => some .strip
  | '+' => some .keep
  | _ => none

/-- The chomping at the start of a text, if it is there, and what follows it. -/
def readChomping (cursor : Cursor) : Option Chomping × Cursor :=
  match cursor.peek.bind Chomping.ofChar? with
  | some chomping => (some chomping, cursor.skip 1)
  | none => (none, cursor)

/-- A digit that tells the indentation of a block, if it is there, and what follows it. There is no
indentation of zero. -/
def readIndentation? (cursor : Cursor) : Option (Option Nat × Cursor) :=
  match cursor.peek with
  | some letter =>
    if letter == '0' then none
    else if letter.isDigit then some (some (letter.toNat - 48), cursor.skip 1)
    else some (none, cursor)
  | none => some (none, cursor)

/-- The first line of a block: the two signs in any order. -/
def readBlockStart? (cursor : Cursor) : Option (Chomping × Option Nat × Cursor) := do
  match readChomping cursor with
  | (some chomping, cursor) =>
    let (indentation, cursor) ← readIndentation? cursor
    some (chomping, indentation, ← cursor.skipLineRest?)
  | (none, cursor) =>
    let (indentation, cursor) ← readIndentation? cursor
    match indentation with
    | some _ =>
      let (chomping, cursor) := readChomping cursor
      some (chomping.getD .clip, indentation, ← cursor.skipLineRest?)
    | none => some (.clip, none, ← cursor.skipLineRest?)

/-- The place after the spaces of an indentation, which is limited if it is known. -/
def skipIndentation (indent : Option Nat) (cursor : Cursor) : Cursor :=
  match indent with
  | none => cursor.skipWhile (· == ' ')
  | some indent =>
    let spaces := ((cursor.rest.take (indent - cursor.column)).takeWhile (· == ' ')).length
    cursor.skip spaces

/-- The empty lines before a line of a block: their line ends, the deepest column reached, and the
place where the line starts. No tab may stand where a space of the indentation could. -/
def readEmptyLines? (indent : Option Nat) :
    (fuel : Nat) → List Char → Nat → Cursor → Option (List Char × Nat × Cursor)
  | 0, _, _, _ => none
  | fuel + 1, breaks, deepest, cursor =>
    let cursor := skipIndentation indent cursor
    let deepest := max deepest cursor.column
    if indent.all (cursor.column < ·) && cursor.follows '\t' then none
    else if cursor.next isBreak then
      let (written, cursor) := cursor.readBreak
      readEmptyLines? indent fuel (breaks ++ written) deepest cursor
    else some (breaks, deepest, cursor)

/-- The lines of a block, the text so far in reverse: `lineEnd` and `breaks` are the line ends since
its last line, and `afterBlank` tells that this line started with a blank. The result has the line
ends after the last line apart. -/
def readBlockLines? (style : Style) (indent : Nat) : (fuel : Nat) → (reversed lineEnd breaks :
    List Char) → (afterBlank : Bool) → Cursor → Option (List Char × List Char × List Char × Cursor)
  | 0, _, _, _, _, _ => none
  | fuel + 1, reversed, lineEnd, breaks, afterBlank, cursor =>
    if cursor.column != indent || cursor.rest.isEmpty then some (reversed, lineEnd, breaks, cursor)
    else
      let blank := cursor.next isBlank
      let gap :=
        if style = .folded ∧ lineEnd = ['\n'] ∧ !afterBlank ∧ !blank then
          if breaks.isEmpty then [' '] else breaks
        else lineEnd ++ breaks
      let (line, cursor) := cursor.readWhile (!isBreak ·)
      let (lineEnd, cursor) := cursor.readBreak
      match readEmptyLines? (some indent) (cursor.rest.length + 1) [] 0 cursor with
      | none => none
      | some (breaks, _, cursor) =>
        readBlockLines? style indent fuel (line.reverse ++ (gap.reverse ++ reversed)) lineEnd breaks
          blank cursor

/-- A block. It is indented as it says, counted from the indentation `outer` around it, or else as
its first line is. -/
def readBlock? (style : Style) (outer : Int) (cursor : Cursor) : Option (List Char × Cursor) := do
  let (chomping, indentation, cursor) ← readBlockStart? (cursor.skip 1)
  let told := indentation.map fun count => (max outer 0).toNat + count
  let (breaks, deepest, cursor) ← readEmptyLines? told (cursor.rest.length + 1) [] 0 cursor
  let indent := told.getD (max (max deepest (outer + 1).toNat) 1)
  let (reversed, lineEnd, breaks, cursor) ←
    readBlockLines? style indent (cursor.rest.length + 1) [] [] breaks false cursor
  let ending :=
    match chomping with
    | .strip => []
    | .clip => lineEnd
    | .keep => lineEnd ++ breaks
  some (reversed.reverse ++ ending, cursor)

end Stencil.Yaml
