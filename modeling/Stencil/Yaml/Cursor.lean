/-!
# Places in a YAML text

The classes of characters on which the layout of a document rests, and a cursor that knows its place
in the text. Carriage returns, line feeds and the next-line character all read as one line feed; the
line and paragraph separators end a line as well and stay as they are.
-/

namespace Stencil.Yaml

/-- A character that a document may contain. -/
def isAllowed (letter : Char) : Bool :=
  let code := letter.toNat
  code == 0x09 || code == 0x0A || code == 0x0D || (0x20 ≤ code && code ≤ 0x7E) || code == 0x85 ||
    (0xA0 ≤ code && code ≤ 0xFFFD) || 0x10000 ≤ code

/-- A space or a tab. -/
def isBlank (letter : Char) : Bool :=
  letter == ' ' || letter == '\t'

/-- A character that ends a line. -/
def isBreak (letter : Char) : Bool :=
  letter == '\n' || letter == '\r' || letter == '\x85' || letter == '\u2028' || letter == '\u2029'

/-- A character of a word: an ASCII letter or digit, a hyphen or an underscore. -/
def isWordChar (letter : Char) : Bool :=
  letter.isAlphanum || letter == '-' || letter == '_'

/-- A place in a text: what follows, how many characters precede, and where on which line it is. -/
structure Cursor where
  rest : List Char
  index : Nat
  line : Nat
  column : Nat

namespace Cursor

/-- The start of a text. -/
def ofText (text : List Char) : Cursor := ⟨text, 0, 0, 0⟩

/-- The next character. -/
def peek (cursor : Cursor) : Option Char := cursor.rest.head?

/-- The character after `count` others. -/
def peekAt (cursor : Cursor) (count : Nat) : Option Char := cursor.rest[count]?

/-- The next character is that one. -/
def follows (cursor : Cursor) (letter : Char) : Bool := cursor.peek == some letter

/-- The next character exists and has a property. -/
def next (cursor : Cursor) (has : Char → Bool) : Bool := cursor.peek.any has

/-- After `count` characters a blank, a line end or the end of the text follows. -/
def isSpaceAt (cursor : Cursor) (count : Nat) : Bool :=
  (cursor.peekAt count).all fun letter => isBlank letter || isBreak letter

/-- A blank, a line end or the end of the text follows. -/
def isSpace (cursor : Cursor) : Bool := cursor.isSpaceAt 0

/-- A line end or the end of the text follows. -/
def isLineEnd (cursor : Cursor) : Bool := cursor.peek.all isBreak

/-- The place `count` characters further on the same line. -/
def skip (cursor : Cursor) (count : Nat) : Cursor :=
  { cursor with
    rest := cursor.rest.drop count
    index := cursor.index + count
    column := cursor.column + count }

/-- The start of the line after a line end of `count` characters. -/
def newLine (cursor : Cursor) (count : Nat) : Cursor :=
  ⟨cursor.rest.drop count, cursor.index + count, cursor.line + 1, 0⟩

/-- The line end that follows, as it reads, and the place after it. -/
def readBreak (cursor : Cursor) : List Char × Cursor :=
  match cursor.rest with
  | '\r' :: '\n' :: _ => (['\n'], cursor.newLine 2)
  | '\n' :: _ | '\r' :: _ | '\x85' :: _ => (['\n'], cursor.newLine 1)
  | '\u2028' :: _ => (['\u2028'], cursor.newLine 1)
  | '\u2029' :: _ => (['\u2029'], cursor.newLine 1)
  | _ => ([], cursor)

/-- The place after a line end, if one follows. -/
def skipBreak (cursor : Cursor) : Cursor := cursor.readBreak.2

/-- The characters up to the first without a property, and the place after them. -/
def readWhile (cursor : Cursor) (has : Char → Bool) : List Char × Cursor :=
  let read := cursor.rest.takeWhile has
  (read, cursor.skip read.length)

/-- The place after the characters with a property. -/
def skipWhile (cursor : Cursor) (has : Char → Bool) : Cursor := (cursor.readWhile has).2

/-- The place after blanks. -/
def skipBlanks (cursor : Cursor) : Cursor := cursor.skipWhile isBlank

/-- The place at the end of the line, if a comment follows. -/
def skipComment (cursor : Cursor) : Cursor :=
  if cursor.follows '#' then cursor.skipWhile (!isBreak ·) else cursor

/-- The place after the rest of a line that holds only blanks and a comment. -/
def skipLineRest? (cursor : Cursor) : Option Cursor :=
  let cursor := cursor.skipBlanks.skipComment
  if cursor.isLineEnd then some cursor.skipBreak else none

/-- A mark of three such characters stands alone at the start of the line. -/
def atLineMark (cursor : Cursor) (letter : Char) : Bool :=
  cursor.column == 0 && (List.range 3).all (cursor.peekAt · == some letter) && cursor.isSpaceAt 3

/-- A mark that starts or ends a document follows. -/
def atDocumentMark (cursor : Cursor) : Bool :=
  cursor.atLineMark '-' || cursor.atLineMark '.'

end Cursor

end Stencil.Yaml
