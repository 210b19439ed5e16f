import Stencil.Yaml.Token

/-!
# Documents as trees

The tree of a document, built from its tokens. Where a text stops being well formed the tree has the
leaf `broken`, and nothing after it: whoever reads the tree from front to back meets all that was
well formed first. Aliases stay leaves. An anchor is known by how many names of anchors there were
when it occurred, so an anchor that reuses a name does not raise the count, and of two anchors with
one number the later one is meant.
-/

namespace Stencil.Yaml

/-- What is said about a node besides its content. -/
structure Label where
  anchor : Option Nat
  tag : Option String
deriving DecidableEq

/-- A label that says nothing. -/
def Label.none : Label := ⟨.none, .none⟩

/-- A label without a tag that is only its mark: of a scalar that is written out it says nothing. -/
def Label.ofWritten (label : Label) : Label :=
  { label with tag := label.tag.filter (· != "!") }

/-- A tree of values. -/
inductive Node where
  | scalar (label : Label) (style : Style) (text : String)
  | sequence (label : Label) (items : List Node)
  | mapping (label : Label) (entries : List (Node × Node))
  | alias (anchor : Nat)
  | broken

/-- A scalar that is not there. -/
def Node.blank (label : Label) : Node := .scalar label .plain ""

/-- What is left to read, the anchors so far, and how handles of tags are read. -/
structure Tail where
  tokens : List Token
  /-- The numbers of the anchors by name, the latest first. -/
  anchors : List (String × Nat)
  handles : List (List Char × List Char)

namespace Tail

/-- The next token is that one. -/
def follows (tail : Tail) (token : Token) : Bool := tail.tokens.head? == some token

/-- The next token is one of those. -/
def followsAny (tail : Tail) (tokens : List Token) : Bool := tail.tokens.head?.any tokens.contains

/-- The tail after the next token. -/
def skip (tail : Tail) : Tail := { tail with tokens := tail.tokens.drop 1 }

/-- An anchor that has been read: its number, and the tail that knows it. -/
def anchored (tail : Tail) (name : String) : Nat × Tail :=
  let number := (tail.anchors.map (·.1)).eraseDups.length
  (number, { tail with anchors := (name, number) :: tail.anchors })

/-- What a tag means. Its handle must be known. -/
def resolve? (tail : Tail) (tag : Tag) : Option String :=
  if tag.handle.isEmpty then some (.ofList tag.suffix)
  else (tail.handles.lookup tag.handle).map fun start => .ofList (start ++ tag.suffix)

/-- The anchor and the tag before a node, in any order. -/
def readMarks (tail : Tail) : Option String × Option Tag × Tail :=
  match tail.tokens with
  | .anchor name :: .tag tag :: rest => (some name, some tag, { tail with tokens := rest })
  | .tag tag :: .anchor name :: rest => (some name, some tag, { tail with tokens := rest })
  | .anchor name :: rest => (some name, none, { tail with tokens := rest })
  | .tag tag :: rest => (none, some tag, { tail with tokens := rest })
  | _ => (none, none, tail)

end Tail

/-- A part of the tree and what follows it, if the text is well formed up to its end. -/
abbrev Reading (α : Type) := α × Option Tail

/-- Where a node stands. -/
inductive Position where
  | flow
  | block
  /-- In a mapping, where the entries of a sequence need no deeper indentation. -/
  | inMapping
deriving DecidableEq

mutual

/-- A node. -/
def readNode (position : Position) : (fuel : Nat) → Tail → Reading Node
  | 0, _ => (.broken, none)
  | fuel + 1, tail =>
    match tail.tokens with
    | .alias name :: _ =>
      match tail.anchors.lookup name with
      | some number => (.alias number, some tail.skip)
      | none => (.broken, none)
    | _ =>
      let (name, tag, tail) := tail.readMarks
      match tag.mapM tail.resolve? with
      | none => (.broken, none)
      | some meaning =>
        match name with
        | none => readContent position fuel ⟨none, meaning⟩ tail
        | some name =>
          let (number, known) := tail.anchored name
          readContent position fuel ⟨some number, meaning⟩ known

/-- What a node holds. A node that has a label may hold nothing. -/
def readContent (position : Position) : (fuel : Nat) → Label → Tail → Reading Node
  | 0, _, _ => (.broken, none)
  | fuel + 1, label, tail =>
    let rest := tail.skip
    match tail.tokens, position with
    | .entry :: _, .inMapping =>
      let (items, tail) := readInlineItems fuel tail
      (.sequence label items, tail)
    | .scalar style text :: _, _ => (.scalar label.ofWritten style text, some rest)
    | .flowSequenceStart :: _, _ =>
      let (items, tail) := readFlowItems fuel true rest
      (.sequence label items, tail)
    | .flowMappingStart :: _, _ =>
      let (entries, tail) := readFlowEntries fuel true rest
      (.mapping label entries, tail)
    | .sequenceStart :: _, .block | .sequenceStart :: _, .inMapping =>
      let (items, tail) := readItems fuel rest
      (.sequence label items, tail)
    | .mappingStart :: _, .block | .mappingStart :: _, .inMapping =>
      let (entries, tail) := readEntries fuel rest
      (.mapping label entries, tail)
    | [], _ => (.broken, none)
    | _, _ => if label = .none then (.broken, none) else (.blank label, some tail)

/-- A node, or nothing before one of some tokens. -/
def readNodeUnless (position : Position) (ends : List Token) : (fuel : Nat) → Tail → Reading Node
  | 0, _ => (.broken, none)
  | fuel + 1, tail =>
    if tail.followsAny ends then (.blank .none, some tail)
    else readNode position fuel tail

/-- The items of a sequence in a block of its own. -/
def readItems : (fuel : Nat) → Tail → Reading (List Node)
  | 0, _ => ([.broken], none)
  | fuel + 1, tail =>
    if tail.follows .entry then
      match readNodeUnless .block [.entry, .blockEnd] fuel tail.skip with
      | (item, none) => ([item], none)
      | (item, some tail) =>
        let (others, tail) := readItems fuel tail
        (item :: others, tail)
    else if tail.follows .blockEnd then ([], some tail.skip)
    else ([.broken], none)

/-- The items of a sequence in the block of the mapping around it. -/
def readInlineItems : (fuel : Nat) → Tail → Reading (List Node)
  | 0, _ => ([.broken], none)
  | fuel + 1, tail =>
    if tail.follows .entry then
      match readNodeUnless .block [.entry, .key, .value, .blockEnd] fuel tail.skip with
      | (item, none) => ([item], none)
      | (item, some tail) =>
        let (others, tail) := readInlineItems fuel tail
        (item :: others, tail)
    else if tail.tokens.isEmpty then ([.broken], none)
    else ([], some tail)

/-- The entries of a mapping in a block. -/
def readEntries : (fuel : Nat) → Tail → Reading (List (Node × Node))
  | 0, _ => ([(.broken, .broken)], none)
  | fuel + 1, tail =>
    if tail.follows .key then
      match readNodeUnless .inMapping [.key, .value, .blockEnd] fuel tail.skip with
      | (key, none) => ([(key, .broken)], none)
      | (key, some tail) =>
        match readBlockValue fuel tail with
        | (value, none) => ([(key, value)], none)
        | (value, some tail) =>
          let (others, tail) := readEntries fuel tail
          ((key, value) :: others, tail)
    else if tail.follows .blockEnd then ([], some tail.skip)
    else ([(.broken, .broken)], none)

/-- The value of an entry in a block, which may be missing. -/
def readBlockValue : (fuel : Nat) → Tail → Reading Node
  | 0, _ => (.broken, none)
  | fuel + 1, tail =>
    if tail.follows .value then
      readNodeUnless .inMapping [.key, .value, .blockEnd] fuel tail.skip
    else if tail.tokens.isEmpty then (.broken, none)
    else (.blank .none, some tail)

/-- The items of a sequence in brackets; before all but the first there is a comma. -/
def readFlowItems : (fuel : Nat) → (first : Bool) → Tail → Reading (List Node)
  | 0, _, _ => ([.broken], none)
  | fuel + 1, first, tail =>
    if tail.follows .flowSequenceEnd then ([], some tail.skip)
    else if !first && !tail.follows .flowEntry then ([.broken], none)
    else
      let tail := if first then tail else tail.skip
      if tail.follows .flowSequenceEnd then ([], some tail.skip)
      else
        match readFlowItem fuel tail with
        | (item, none) => ([item], none)
        | (item, some tail) =>
          let (others, tail) := readFlowItems fuel false tail
          (item :: others, tail)

/-- An item of a sequence in brackets: a node, or a mapping with one entry. Where the key is missing
the token in its place is passed. -/
def readFlowItem : (fuel : Nat) → Tail → Reading Node
  | 0, _ => (.broken, none)
  | fuel + 1, tail =>
    if tail.follows .key then
      let tail := tail.skip
      let (key, rest) :=
        if tail.followsAny [.value, .flowEntry, .flowSequenceEnd] then
          (.blank .none, some tail.skip)
        else readNode .flow fuel tail
      match rest with
      | none => (.mapping .none [(key, .broken)], none)
      | some tail =>
        let (value, rest) := readFlowValue [.flowEntry, .flowSequenceEnd] fuel tail
        (.mapping .none [(key, value)], rest)
    else readNode .flow fuel tail

/-- The value of an entry in brackets, which may be missing. -/
def readFlowValue (ends : List Token) : (fuel : Nat) → Tail → Reading Node
  | 0, _ => (.broken, none)
  | fuel + 1, tail =>
    if tail.follows .value then readNodeUnless .flow ends fuel tail.skip
    else if tail.tokens.isEmpty then (.broken, none)
    else (.blank .none, some tail)

/-- The entries of a mapping in braces; before all but the first there is a comma. -/
def readFlowEntries : (fuel : Nat) → (first : Bool) → Tail → Reading (List (Node × Node))
  | 0, _, _ => ([(.broken, .broken)], none)
  | fuel + 1, first, tail =>
    if tail.follows .flowMappingEnd then ([], some tail.skip)
    else if !first && !tail.follows .flowEntry then ([(.broken, .broken)], none)
    else
      let tail := if first then tail else tail.skip
      if tail.follows .flowMappingEnd then ([], some tail.skip)
      else
        match readFlowPair fuel tail with
        | (pair, none) => ([pair], none)
        | (pair, some tail) =>
          let (others, tail) := readFlowEntries fuel false tail
          (pair :: others, tail)

/-- An entry of a mapping in braces: a key with its value, or a node without one. -/
def readFlowPair : (fuel : Nat) → Tail → Reading (Node × Node)
  | 0, _ => ((.broken, .broken), none)
  | fuel + 1, tail =>
    if tail.follows .key then
      match readNodeUnless .flow [.value, .flowEntry, .flowMappingEnd] fuel tail.skip with
      | (key, none) => ((key, .broken), none)
      | (key, some tail) =>
        let (value, rest) := readFlowValue [.flowEntry, .flowMappingEnd] fuel tail
        ((key, value), rest)
    else
      match readNode .flow fuel tail with
      | (key, some tail) =>
        if tail.tokens.isEmpty then ((key, .broken), none) else ((key, .blank .none), some tail)
      | (key, none) => ((key, .broken), none)

end

/-- The handles of tags that need no directive. -/
def defaultHandles : List (List Char × List Char) :=
  [(['!'], ['!']), (['!', '!'], "tag:yaml.org,2002:".toList)]

/-- The handles that directives name; each directive may occur once, and the version is one that is
known. The tokens after the directives are given too. -/
def readDirectives? : (versioned : Bool) → List (List Char × List Char) → List Token →
    Option (List (List Char × List Char) × List Token)
  | versioned, handles, .directive (.version major minor) :: rest =>
    if !versioned && major == 1 && (minor == 1 || minor == 2) then readDirectives? true handles rest
    else none
  | versioned, handles, .directive (.tag handle start) :: rest =>
    if (handles.lookup handle).isSome then none
    else readDirectives? versioned ((handle, start) :: handles) rest
  | _, handles, tokens => some (handles, tokens)

/-- A document: its root, or nothing if there is none, and whether the text ends after it and is
well formed to its end. -/
structure Document where
  root : Option Node
  complete : Bool

namespace Document

/-- Only marks for the end of a document and the end of the text follow. -/
def isEnd : List Token → Bool
  | [.textEnd] => true
  | .documentEnd :: rest => isEnd rest
  | _ => false

/-- A document with a root after directives and marks. -/
def ofTail (marked : Bool) (tail : Tail) : Document :=
  let (root, rest) :=
    if marked && tail.followsAny [.documentStart, .documentEnd, .textEnd] ||
        marked && (tail.tokens.head?.any fun | .directive _ => true | _ => false) then
      (.blank .none, some tail)
    else readNode .block (4 * tail.tokens.length + 4) tail
  ⟨some root, rest.any (isEnd ·.tokens)⟩

/-- The first document that tokens hold. -/
def ofTokens (tokens : List Token) : Document :=
  match tokens with
  | [.textEnd] => ⟨none, true⟩
  | .directive _ :: _ | .documentStart :: _ =>
    match readDirectives? false [] tokens with
    | some (handles, .documentStart :: rest) => ofTail true ⟨rest, [], handles ++ defaultHandles⟩
    | _ => ⟨some .broken, false⟩
  | _ => ofTail false ⟨tokens, [], defaultHandles⟩

/-- The first document of a text. -/
def ofText (text : List Char) : Document :=
  ofTokens (tokens text)

end Document

namespace Node

mutual

/-- The nodes with anchors, by number, in the order in which they start. -/
def anchored : Node → List (Nat × Node)
  | .scalar label style text => own label (.scalar label style text)
  | .sequence label items => own label (.sequence label items) ++ anchoredAll items
  | .mapping label entries => own label (.mapping label entries) ++ anchoredPairs entries
  | .alias _ => []
  | .broken => []
where
  /-- A node under the number of its own anchor. -/
  own (label : Label) (node : Node) : List (Nat × Node) :=
    (label.anchor.map fun number => (number, node)).toList

/-- The nodes with anchors in nodes. -/
def anchoredAll : List Node → List (Nat × Node)
  | [] => []
  | node :: rest => node.anchored ++ anchoredAll rest

/-- The nodes with anchors in entries. -/
def anchoredPairs : List (Node × Node) → List (Nat × Node)
  | [] => []
  | (key, value) :: rest => key.anchored ++ (value.anchored ++ anchoredPairs rest)

end

mutual

/-- How many nodes there are. -/
def size : Node → Nat
  | .sequence _ items => 2 + sizeAll items
  | .mapping _ entries => 2 + sizePairs entries
  | _ => 1

/-- How many nodes there are in nodes. -/
def sizeAll : List Node → Nat
  | [] => 0
  | node :: rest => node.size + sizeAll rest

/-- How many nodes there are in entries. -/
def sizePairs : List (Node × Node) → Nat
  | [] => 0
  | (key, value) :: rest => key.size + value.size + sizePairs rest

end

mutual

/-- The text is well formed to the end of the node. -/
def isWhole : Node → Bool
  | .sequence _ items => areWhole items
  | .mapping _ entries => areWholePairs entries
  | .broken => false
  | _ => true

/-- The text is well formed to the end of the nodes. -/
def areWhole : List Node → Bool
  | [] => true
  | node :: rest => node.isWhole && areWhole rest

/-- The text is well formed to the end of the entries. -/
def areWholePairs : List (Node × Node) → Bool
  | [] => true
  | (key, value) :: rest => key.isWhole && value.isWhole && areWholePairs rest

end

end Node

end Stencil.Yaml
