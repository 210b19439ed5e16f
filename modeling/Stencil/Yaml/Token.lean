import Stencil.Yaml.Label

/-!
# YAML tokens

A document as tokens. The indentation of a block becomes tokens that open and close collections, and
a key is only known as one when the colon after it is seen: until then the place where its token
would stand is kept as a candidate. A candidate expires at the end of its line or after 1024
characters; one that stands where only a key can stand must not expire.

If the text stops being well formed, the tokens end without the token for its end. A token that
comes after a live candidate is then not known either, as what stands before it is still open.
-/

namespace Stencil.Yaml

/-- Tokens of a document. -/
inductive Token where
  | textEnd
  | directive (directive : Directive)
  | documentStart
  | documentEnd
  | sequenceStart
  | mappingStart
  | blockEnd
  | flowSequenceStart
  | flowSequenceEnd
  | flowMappingStart
  | flowMappingEnd
  | entry
  | flowEntry
  | key
  | value
  | alias (name : String)
  | anchor (name : String)
  | tag (tag : Tag)
  | scalar (style : Style) (text : String)
deriving DecidableEq

/-- A place that may turn out to start a key. -/
structure Candidate where
  /-- Nothing but a key can stand here. -/
  required : Bool
  /-- How many tokens precede. -/
  number : Nat
  index : Nat
  line : Nat
  column : Nat

/-- How far a text has been cut into tokens. -/
structure Layout where
  cursor : Cursor
  /-- The tokens so far, the latest first. -/
  reversed : List Token
  count : Nat
  /-- The column of the innermost block, below zero outside of all. -/
  indent : Int
  /-- The columns of the blocks around it. -/
  outer : List Int
  /-- The candidate at the innermost level of brackets. -/
  candidate : Option Candidate
  /-- The candidates at the levels around it. -/
  outerCandidates : List (Option Candidate)
  /-- A key may start here. -/
  keyAllowed : Bool
  /-- The token for the end of the text is there. -/
  ended : Bool

namespace Layout

/-- A text of which nothing has been cut. -/
def ofText (text : List Char) : Layout :=
  { cursor := .ofText text, reversed := [], count := 0, indent := -1, outer := [],
    candidate := none, outerCandidates := [], keyAllowed := true, ended := false }

/-- The place is inside brackets. -/
def inFlow (layout : Layout) : Bool := !layout.outerCandidates.isEmpty

/-- A token added. -/
def emit (layout : Layout) (token : Token) : Layout :=
  { layout with reversed := token :: layout.reversed, count := layout.count + 1 }

/-- A token put after the first `number` tokens. -/
def emitAt (layout : Layout) (number : Nat) (token : Token) : Layout :=
  { layout with
    reversed := layout.reversed.insertIdx (layout.count - number) token
    count := layout.count + 1 }

/-- The place moved. -/
def moved (layout : Layout) (cursor : Cursor) : Layout := { layout with cursor }

/-- Whether a key may start at the place. -/
def allowing (layout : Layout) (keyAllowed : Bool) : Layout := { layout with keyAllowed }

/-- The place moved over a mark of `length` characters, and its token added. -/
def mark (layout : Layout) (length : Nat) (token : Token) : Layout :=
  (layout.moved (layout.cursor.skip length)).emit token

/-- A candidate of an earlier line or far behind. -/
def isStale (layout : Layout) (candidate : Candidate) : Bool :=
  candidate.line < layout.cursor.line || candidate.index + 1024 < layout.cursor.index

/-- A candidate, unless it is stale. A required one must not be. -/
def refreshed? (layout : Layout) : Option Candidate → Option (Option Candidate)
  | none => some none
  | some candidate =>
    if layout.isStale candidate then if candidate.required then none else some none
    else some (some candidate)

/-- The layout without stale candidates. -/
def refresh? (layout : Layout) : Option Layout := do
  let candidate ← layout.refreshed? layout.candidate
  let outerCandidates ← layout.outerCandidates.mapM layout.refreshed?
  some { layout with candidate, outerCandidates }

/-- The layout without the innermost candidate, which must not be required. -/
def dropCandidate? (layout : Layout) : Option Layout :=
  if layout.candidate.any (·.required) then none else some { layout with candidate := none }

/-- The place kept as a candidate, if a key may start there. -/
def saveCandidate? (layout : Layout) : Option Layout :=
  if layout.keyAllowed then do
    let layout ← layout.dropCandidate?
    let cursor := layout.cursor
    let required := !layout.inFlow && layout.indent == cursor.column
    some { layout with
      candidate := some ⟨required, layout.count, cursor.index, cursor.line, cursor.column⟩ }
  else some layout

/-- A block opened at a column, unless one at that column or deeper is open. Its token is put after
the first `number` tokens. -/
def openBlock (layout : Layout) (column number : Nat) (token : Token) : Layout :=
  if !layout.inFlow && decide (layout.indent < column) then
    { layout with indent := column, outer := layout.indent :: layout.outer }.emitAt number token
  else layout

/-- The blocks that are deeper than a column closed. -/
def closeBlocks (column : Int) : (outer : List Int) → Layout → Layout
  | [], layout => layout
  | next :: rest, layout =>
    if column < layout.indent then
      closeBlocks column rest ({ layout with indent := next, outer := rest }.emit .blockEnd)
    else layout

/-- The blocks that are deeper than a column closed. Brackets have no blocks. -/
def unroll (layout : Layout) (column : Int) : Layout :=
  if layout.inFlow then layout else closeBlocks column layout.outer layout

/-- White space, comments and line ends passed. After a line end outside of brackets a key may
start. Where a key may start, a tab is no white space outside of brackets. -/
def skipSpace : (fuel : Nat) → Layout → Layout
  | 0, layout => layout
  | fuel + 1, layout =>
    let start :=
      if layout.cursor.column == 0 && layout.cursor.follows '\uFEFF' then layout.cursor.skip 1
      else layout.cursor
    let tabs := layout.inFlow || !layout.keyAllowed
    let cursor := (start.skipWhile fun letter => letter == ' ' || tabs && letter == '\t').skipComment
    if cursor.next isBreak then
      skipSpace fuel ((layout.moved cursor.skipBreak).allowing (layout.keyAllowed || !layout.inFlow))
    else layout.moved cursor

/-- The end of the text, which ends the last line, so that no candidate is left. -/
def cutEnd? (layout : Layout) : Option Layout := do
  let layout ← (layout.unroll (-1)).dropCandidate?
  let ended := layout.moved (layout.cursor.newLine 0)
  some { (ended.allowing false).emit .textEnd with ended := true }

/-- A directive. -/
def cutDirective? (layout : Layout) : Option Layout := do
  let layout ← (layout.unroll (-1)).dropCandidate?
  let (directive, cursor) ← readDirective? layout.cursor
  some (((layout.allowing false).moved cursor).emit (.directive directive))

/-- A mark that starts or ends a document. -/
def cutDocumentMark? (layout : Layout) (token : Token) : Option Layout := do
  let layout ← (layout.unroll (-1)).dropCandidate?
  some ((layout.allowing false).mark 3 token)

/-- An opening bracket. -/
def cutFlowStart? (layout : Layout) (token : Token) : Option Layout := do
  let layout ← layout.saveCandidate?
  let opened := { layout with
    candidate := none, outerCandidates := layout.candidate :: layout.outerCandidates }
  some ((opened.allowing true).mark 1 token)

/-- The innermost level of brackets left. -/
def leaveFlow (layout : Layout) : Layout :=
  match layout.outerCandidates with
  | [] => layout
  | candidate :: outerCandidates => { layout with candidate, outerCandidates }

/-- A closing bracket. -/
def cutFlowEnd? (layout : Layout) (token : Token) : Option Layout := do
  let layout ← layout.dropCandidate?
  some ((layout.leaveFlow.allowing false).mark 1 token)

/-- A comma in brackets. -/
def cutFlowEntry? (layout : Layout) : Option Layout := do
  let layout ← layout.dropCandidate?
  some ((layout.allowing true).mark 1 .flowEntry)

/-- A block opened by a mark at its column. -/
def openHere? (layout : Layout) (token : Token) : Option Layout :=
  if layout.inFlow then some layout
  else if layout.keyAllowed then
    some (layout.openBlock layout.cursor.column layout.count token)
  else none

/-- A hyphen before an entry. -/
def cutEntry? (layout : Layout) : Option Layout := do
  let layout ← (← layout.openHere? .sequenceStart).dropCandidate?
  some ((layout.allowing true).mark 1 .entry)

/-- A question mark before a key. -/
def cutKey? (layout : Layout) : Option Layout := do
  let layout ← (← layout.openHere? .mappingStart).dropCandidate?
  some ((layout.allowing (!layout.inFlow)).mark 1 .key)

/-- A colon before a value. If there is a candidate, the key started there. -/
def cutValue? (layout : Layout) : Option Layout :=
  match layout.candidate with
  | some candidate =>
    let layout := layout.emitAt candidate.number .key
    let layout := layout.openBlock candidate.column candidate.number .mappingStart
    some (({ layout with candidate := none }.allowing false).mark 1 .value)
  | none => do
    let layout ← layout.openHere? .mappingStart
    some ((layout.allowing (!layout.inFlow)).mark 1 .value)

/-- A word that starts a node: a candidate for a key, after which no other can start. -/
def cutWord? (layout : Layout) (read? : Cursor → Option (Token × Cursor)) : Option Layout := do
  let layout ← layout.saveCandidate?
  let (token, cursor) ← read? layout.cursor
  some (((layout.allowing false).moved cursor).emit token)

/-- A plain scalar. If it ended after a line end, a key may start. -/
def cutPlain? (layout : Layout) : Option Layout := do
  let layout ← layout.saveCandidate?
  let plain ← readPlain? layout.inFlow (layout.indent + 1) layout.cursor
  let token := .scalar .plain (.ofList plain.text)
  some (((layout.allowing plain.endsLine).moved plain.cursor).emit token)

/-- A block scalar. -/
def cutBlock? (layout : Layout) (style : Style) : Option Layout := do
  let layout ← layout.dropCandidate?
  let (text, cursor) ← readBlock? style layout.indent layout.cursor
  some (((layout.allowing true).moved cursor).emit (.scalar style (.ofList text)))

/-- Marks that cannot start a plain scalar. -/
def plainBarred : List Char :=
  ['-', '?', ':', ',', '[', ']', '{', '}', '#', '&', '*', '!', '|', '>', '\'', '"', '%', '@', '`']

/-- A plain scalar starts with this character. -/
def startsPlain (layout : Layout) (letter : Char) : Bool :=
  let cursor := layout.cursor
  !(cursor.isSpace || plainBarred.contains letter) ||
    letter == '-' && !(cursor.peekAt 1).any isBlank ||
    !layout.inFlow && (letter == '?' || letter == ':') && !cursor.isSpaceAt 1

/-- The token that starts with a character. -/
def cutToken? (layout : Layout) (letter : Char) : Option Layout :=
  let cursor := layout.cursor
  let alone := layout.inFlow || cursor.isSpaceAt 1
  if cursor.column == 0 && letter == '%' then layout.cutDirective?
  else if cursor.atLineMark '-' then layout.cutDocumentMark? .documentStart
  else if cursor.atLineMark '.' then layout.cutDocumentMark? .documentEnd
  else if letter == '[' then layout.cutFlowStart? .flowSequenceStart
  else if letter == '{' then layout.cutFlowStart? .flowMappingStart
  else if letter == ']' then layout.cutFlowEnd? .flowSequenceEnd
  else if letter == '}' then layout.cutFlowEnd? .flowMappingEnd
  else if letter == ',' then layout.cutFlowEntry?
  else if letter == '-' && cursor.isSpaceAt 1 then layout.cutEntry?
  else if letter == '?' && alone then layout.cutKey?
  else if letter == ':' && alone then layout.cutValue?
  else if letter == '*' then
    layout.cutWord? fun cursor => (readAnchor? cursor).map fun (name, after) => (.alias name, after)
  else if letter == '&' then
    layout.cutWord? fun cursor => (readAnchor? cursor).map fun (name, after) => (.anchor name, after)
  else if letter == '!' then
    layout.cutWord? fun cursor =>
      (readTag? layout.inFlow cursor).map fun (tag, after) => (.tag tag, after)
  else if letter == '|' && !layout.inFlow then layout.cutBlock? .literal
  else if letter == '>' && !layout.inFlow then layout.cutBlock? .folded
  else if letter == '\'' || letter == '"' then
    layout.cutWord? fun cursor =>
      (readQuoted? letter cursor).map fun (text, after) => (.scalar .quoted (.ofList text), after)
  else if layout.startsPlain letter then layout.cutPlain?
  else none

/-- The next token cut, with the tokens for blocks that end before it. -/
def cut? (layout : Layout) : Option Layout := do
  let layout ← (skipSpace (layout.cursor.rest.length + 1) layout).refresh?
  let layout := layout.unroll layout.cursor.column
  let layout ←
    match layout.cursor.peek with
    | none => layout.cutEnd?
    | some letter => layout.cutToken? letter
  layout.refresh?

/-- How many tokens are certain if the text breaks here: those before all candidates. -/
def certain (layout : Layout) : Nat :=
  ((layout.candidate :: layout.outerCandidates).filterMap (·.map (·.number))).foldl min layout.count

/-- The tokens of the text, as far as it is well formed. -/
def cutAll : (fuel : Nat) → Layout → List Token
  | 0, layout => layout.reversed.reverse
  | fuel + 1, layout =>
    if layout.ended then layout.reversed.reverse
    else
      match layout.cut? with
      | some layout => cutAll fuel layout
      | none => (layout.reversed.drop (layout.count - layout.certain)).reverse

end Layout

/-- The tokens of a text, as far as it is well formed. Every token but the last takes a
character. -/
def tokens (text : List Char) : List Token :=
  if text.all isAllowed then (Layout.ofText text).cutAll (text.length + 2) else []

end Stencil.Yaml
