import Stencil.Toml.Literal

/-!
# TOML documents

A document as a table. It is read line by line: headers tell which table the following keys belong
to. Lists and tables between brackets may span lines, and may be nested up to a limit.
-/

namespace Stencil.Toml

/-- How deep values between brackets may be nested. -/
def maxNesting : Nat := 80

/-- The text after blanks, comments and line ends. -/
def skipSpace : (fuel : Nat) → List Char → List Char
  | 0, text => text
  | fuel + 1, text =>
    let rest := skipComment (skipBlanks text)
    match skipLineEnd? rest with
    | some rest => skipSpace fuel rest
    | none => rest

/-- The text after all white space and comments. -/
def skipAllSpace (text : List Char) : List Char :=
  skipSpace (text.length + 1) text

/-- Elements up to a closing bracket, with commas between them and possibly one after the last. -/
def readElements? (closing : Char) (element : σ → List Char → Option (σ × List Char)) :
    (fuel : Nat) → σ → List Char → Option (σ × List Char)
  | 0, _, _ => none
  | fuel + 1, state, text =>
    match skipAllSpace text with
    | [] => none
    | letter :: rest =>
      if letter == closing then some (state, rest)
      else do
        let (state, rest) ← element state (letter :: rest)
        match skipAllSpace rest with
        | ',' :: rest => readElements? closing element fuel state rest
        | next :: rest => if next == closing then some (state, rest) else none
        | [] => none

/-- A key and what follows the equals sign after it. -/
def readAssigned? (text : List Char) : Option (List String × String × List Char) := do
  let (path, key, rest) ← readKey? (text.length + 1) text
  match rest with
  | '=' :: rest => some (path, key, skipBlanks rest)
  | _ => none

/-- A value, given how deep values may be nested in it. -/
def readValue? : (depth : Nat) → List Char → Option (Value × List Char)
  | depth + 1, '[' :: rest => do
    let element (_ : Unit) text := (readValue? depth text).map fun (_, rest) => ((), rest)
    let (_, rest) ← readElements? ']' element (rest.length + 1) () rest
    some (.other, rest)
  | depth + 1, '{' :: rest => do
    let element (entries : Entries) text := do
      let (path, key, rest) ← readAssigned? text
      let (value, rest) ← readValue? depth rest
      some (← entries.assign? path key value, rest)
    let (_, rest) ← readElements? '}' element (rest.length + 1) [] rest
    some (.other, rest)
  | _, text => readSimple? text

/-- What has been read: the table of the whole document, and where the next keys belong. -/
structure Progress where
  entries : Entries
  table : List String

/-- The text after the rest of a line that holds no more than a comment. -/
def endLine? (text : List Char) : Option (List Char) :=
  match skipComment (skipBlanks text) with
  | [] => some []
  | rest => skipLineEnd? rest

/-- A header, after its first bracket. -/
def readHeader? (progress : Progress) (text : List Char) : Option (Progress × List Char) :=
  match text with
  | '[' :: text => do
    let (path, key, rest) ← readKey? (text.length + 1) text
    let rest ← Text.dropStart? [']', ']'] rest
    some (⟨← progress.entries.openNext? path key, path ++ [key]⟩, rest)
  | text => do
    let (path, key, rest) ← readKey? (text.length + 1) text
    let rest ← Text.dropStart? [']'] rest
    some (⟨← progress.entries.openTable? path key, path ++ [key]⟩, rest)

/-- A key with its value. -/
def readAssignment? (progress : Progress) (text : List Char) : Option (Progress × List Char) := do
  let (path, key, rest) ← readAssigned? text
  let (value, rest) ← readValue? maxNesting rest
  some ({ progress with entries := ← progress.entries.assignIn? progress.table path key value },
    rest)

/-- The lines of a document, one after the other. -/
def readLines? : (fuel : Nat) → Progress → List Char → Option Entries
  | 0, _, _ => none
  | fuel + 1, progress, text =>
    match skipBlanks text with
    | [] => some progress.entries
    | '#' :: _ | '\n' :: _ | '\r' :: _ => do
      let rest ← endLine? text
      readLines? fuel progress rest
    | '[' :: rest => do
      let (progress, rest) ← readHeader? progress rest
      readLines? fuel progress (← endLine? rest)
    | rest => do
      let (progress, rest) ← readAssignment? progress rest
      readLines? fuel progress (← endLine? rest)

/-- The table that a document says, if it is well formed. A mark of the encoding at its start is
passed over. -/
def ofText? (text : String) : Option Entries :=
  let letters :=
    match text.toList with
    | '\uFEFF' :: rest => rest
    | letters => letters
  readLines? (letters.length + 2) ⟨[], []⟩ letters

end Stencil.Toml
