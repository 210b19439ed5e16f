import Stencil.Yaml.Scalar

/-!
# Anchors, tags and directives

The words that stand before a value or before a document: the name of an anchor, the tag of a value
and the directives that say how tags are to be read.
-/

namespace Stencil.Yaml

open Stencil.Number (natural?)

/-- A tag as it is written: a handle and what follows it. A tag that is complete by itself has an
empty handle. -/
structure Tag where
  handle : List Char
  suffix : List Char
deriving DecidableEq

/-- A directive. -/
inductive Directive where
  | version (major minor : Nat)
  | tag (handle start : List Char)
deriving DecidableEq

/-- The name of an anchor or an alias. Only some marks may follow it without a space. -/
def readAnchor? (cursor : Cursor) : Option (String × Cursor) :=
  let (name, cursor) := (cursor.skip 1).readWhile isWordChar
  if name.isEmpty then none
  else if cursor.isSpace || cursor.next ['?', ':', ',', ']', '}', '%', '@', '`'].contains then
    some (.ofList name, cursor)
  else none

/-- How many octets the encoding of a character has, told by the first. -/
def octetCount? (octet : Nat) : Option Nat :=
  if octet < 0x80 then some 1
  else if 0xC0 ≤ octet ∧ octet < 0xE0 then some 2
  else if 0xE0 ≤ octet ∧ octet < 0xF0 then some 3
  else if 0xF0 ≤ octet ∧ octet < 0xF8 then some 4
  else none

/-- An octet written as a percent sign and two digits. -/
def readOctet? (cursor : Cursor) : Option (Nat × Cursor) :=
  match cursor.rest with
  | '%' :: high :: low :: _ => do
    let octet ← natural? 16 [high, low]
    some (octet, cursor.skip 3)
  | _ => none

/-- The octets that continue the encoding of a character whose code so far is `code`. -/
def readContinued? : (count code : Nat) → Cursor → Option (Nat × Cursor)
  | 0, code, cursor => some (code, cursor)
  | count + 1, code, cursor => do
    let (octet, cursor) ← readOctet? cursor
    if 0x80 ≤ octet ∧ octet < 0xC0 then readContinued? count (64 * code + octet % 64) cursor
    else none

/-- A character written as octets. -/
def readOctets? (cursor : Cursor) : Option (Char × Cursor) := do
  let (octet, cursor) ← readOctet? cursor
  let count ← octetCount? octet
  let first := if count = 1 then octet else octet % Nat.pow 2 (7 - count)
  let (code, cursor) ← readContinued? (count - 1) first cursor
  some (Char.ofNat code, cursor)

/-- A character that a tag may contain. -/
def isTagChar (letter : Char) : Bool :=
  isWordChar letter || [';', '/', '?', ':', '@', '&', '=', '+', '$', '.', '%', '!', '~', '*', '\'',
    '(', ')'].contains letter

/-- The characters of a tag with a property, in reverse. -/
def readTagChars? (has : Char → Bool) : (fuel : Nat) → List Char → Cursor →
    Option (List Char × Cursor)
  | 0, reversed, cursor => some (reversed, cursor)
  | fuel + 1, reversed, cursor =>
    match cursor.peek with
    | none => some (reversed, cursor)
    | some letter =>
      if !has letter then some (reversed, cursor)
      else if letter == '%' then
        match readOctets? cursor with
        | none => none
        | some (meant, cursor) => readTagChars? has fuel (meant :: reversed) cursor
      else readTagChars? has fuel (letter :: reversed) (cursor.skip 1)

/-- The text of a tag, which may be empty. -/
def readSuffix? (has : Char → Bool) (cursor : Cursor) : Option (List Char × Cursor) := do
  let (reversed, cursor) ← readTagChars? has cursor.rest.length [] cursor
  some (reversed.reverse, cursor)

/-- The text of a tag, which is not empty. -/
def readTagText? (has : Char → Bool) (cursor : Cursor) : Option (List Char × Cursor) := do
  let (text, cursor) ← readSuffix? has cursor
  if text.isEmpty then none else some (text, cursor)

/-- A character of a tag that is written in full. -/
def isFullTagChar (letter : Char) : Bool :=
  isTagChar letter || letter == ',' || letter == '[' || letter == ']'

/-- An exclamation mark, a word and possibly a second mark. -/
def readHandle? (cursor : Cursor) : Option (List Char × Cursor) :=
  if cursor.follows '!' then
    let (name, cursor) := (cursor.skip 1).readWhile isWordChar
    if cursor.follows '!' then some ('!' :: name ++ ['!'], cursor.skip 1)
    else some ('!' :: name, cursor)
  else none

/-- A handle has its second mark. -/
def isClosedHandle (handle : List Char) : Bool :=
  2 ≤ handle.length && handle.getLast? == some '!'

/-- A tag: in full between angle brackets, after a handle, or local. -/
def readTagWord? (cursor : Cursor) : Option (Tag × Cursor) := do
  if cursor.peekAt 1 == some '<' then
    let (suffix, cursor) ← readTagText? isFullTagChar (cursor.skip 2)
    if cursor.follows '>' then some (⟨[], suffix⟩, cursor.skip 1) else none
  else
    let (handle, cursor) ← readHandle? cursor
    if isClosedHandle handle then
      let (suffix, cursor) ← readTagText? isTagChar cursor
      some (⟨handle, suffix⟩, cursor)
    else
      let (suffix, cursor) ← readSuffix? isTagChar cursor
      let suffix := handle.drop 1 ++ suffix
      if suffix.isEmpty then some (⟨[], ['!']⟩, cursor) else some (⟨['!'], suffix⟩, cursor)

/-- A tag and the space after it. In brackets a comma may follow instead. -/
def readTag? (inFlow : Bool) (cursor : Cursor) : Option (Tag × Cursor) := do
  let (tag, cursor) ← readTagWord? cursor
  if cursor.isSpace || inFlow && cursor.follows ',' then some (tag, cursor) else none

/-- A number of at most nine digits. -/
def readVersionPart? (cursor : Cursor) : Option (Nat × Cursor) :=
  let (digits, cursor) := cursor.readWhile Char.isDigit
  if 9 < digits.length then none else (natural? 10 digits).map fun value => (value, cursor)

/-- The version in a directive. -/
def readVersion? (cursor : Cursor) : Option (Directive × Cursor) := do
  let (major, cursor) ← readVersionPart? cursor.skipBlanks
  if cursor.follows '.' then
    let (minor, cursor) ← readVersionPart? (cursor.skip 1)
    some (.version major minor, cursor)
  else none

/-- The handle and the start of tags in a directive. -/
def readTagRule? (cursor : Cursor) : Option (Directive × Cursor) := do
  let (handle, cursor) ← readHandle? cursor.skipBlanks
  if !(handle = ['!'] || isClosedHandle handle) || !cursor.next isBlank then none
  else
    let (start, cursor) ← readTagText? isFullTagChar cursor.skipBlanks
    if cursor.isSpace then some (.tag handle start, cursor) else none

/-- A directive, which takes a line. -/
def readDirective? (cursor : Cursor) : Option (Directive × Cursor) := do
  let (name, cursor) := (cursor.skip 1).readWhile isWordChar
  if !cursor.isSpace then none
  else
    let (directive, cursor) ←
      if name = "YAML".toList then readVersion? cursor
      else if name = "TAG".toList then readTagRule? cursor
      else none
    some (directive, ← cursor.skipLineRest?)

end Stencil.Yaml
