import Stencil.Template.Node
import Stencil.Template.Token

/-!
# The grammar of templates

Template trees from tokens. Binary operators of one level group to the left; the levels are, from
the loosest, `if … else`, `or`, `and`, `not`, comparisons, sums, `~`, products and powers. A sign
binds tighter than an attribute or an index, which bind tighter than filters and tests.

Every reader returns what it read and the tokens after it. Only nesting recurs through the fuel, and
each level of it takes a token, so the number of tokens is fuel enough.
-/

namespace Stencil.Template

/-- A reader of a phrase at the start of a list of tokens. -/
abbrev Reader (α : Type) := List Token → Option (α × List Token)

/-- The tokens after a symbol. -/
def symbol? (symbol : String) : List Token → Option (List Token)
  | .symbol found :: rest => if found = symbol then some rest else none
  | _ => none

/-- The tokens after a word. -/
def word? (word : String) : List Token → Option (List Token)
  | .name found :: rest => if found = word then some rest else none
  | _ => none

/-- The tokens after the end of a block tag. -/
def blockEnd? : List Token → Option (List Token)
  | .blockEnd :: rest => some rest
  | _ => none

/-- Names that no assignment may bind. -/
def reservedNames : List String :=
  ["true", "True", "false", "False", "none", "None", "loop", "self"]

/-- A name that may be bound. -/
def readBindable : Reader String
  | .name name :: rest => if reservedNames.contains name then none else some (name, rest)
  | _ => none

/-- Phrases of one level joined by operators of that level, grouped to the left. -/
def readChainAfter (operand : Reader Expr) (operator? : List Token → Option ((Expr → Expr → Expr) ×
    List Token)) : (fuel : Nat) → Expr → Reader Expr
  | 0, _, _ => none
  | fuel + 1, left, tokens =>
    match operator? tokens with
    | none => some (left, tokens)
    | some (combine, rest) => do
      let (right, rest) ← operand rest
      readChainAfter operand operator? fuel (combine left right) rest

/-- A phrase of one level and the operators of that level after it. -/
def readChain (operand : Reader Expr)
    (operator? : List Token → Option ((Expr → Expr → Expr) × List Token)) : Reader Expr :=
  fun tokens => do
    let (left, rest) ← operand tokens
    readChainAfter operand operator? (rest.length + 1) left rest

/-- An operator from a table of symbols. -/
def symbolOperator? (table : List (String × BinaryOp)) :
    List Token → Option ((Expr → Expr → Expr) × List Token)
  | .symbol found :: rest => (table.lookup found).map fun op => (.binary op, rest)
  | _ => none

/-- A comparison, where `not in` is the negation of `in`. -/
def comparison? : List Token → Option ((Expr → Expr → Expr) × List Token)
  | .name "in" :: rest => some (fun left right => .binary .contains left right, rest)
  | .name "not" :: .name "in" :: rest =>
    some (fun left right => .unary .not (.binary .contains left right), rest)
  | tokens =>
    symbolOperator? [("==", .equal), ("!=", .notEqual), ("<", .less), ("<=", .lessOrEqual),
      (">", .greater), (">=", .greaterOrEqual)] tokens

/-- A word that joins two phrases. -/
def wordOperator? (word : String) (combine : Expr → Expr → Expr) (tokens : List Token) :
    Option ((Expr → Expr → Expr) × List Token) :=
  (word? word tokens).map fun rest => (combine, rest)

/-- Items up to a closing symbol, separated by commas; the last comma may be left out. -/
def readItems (item : Reader Expr) (closing : String) : (fuel : Nat) → Reader (List Expr)
  | 0, _ => none
  | fuel + 1, tokens =>
    match symbol? closing tokens with
    | some rest => some ([], rest)
    | none => do
      let (first, rest) ← item tokens
      match symbol? closing rest with
      | some rest => pure ([first], rest)
      | none =>
        let rest ← symbol? "," rest
        let (others, rest) ← readItems item closing fuel rest
        pure (first :: others, rest)

/-- Keys and values of a map up to its closing brace, each key followed by its value. -/
def readEntries (item : Reader Expr) : (fuel : Nat) → Reader (List Expr)
  | 0, _ => none
  | fuel + 1, tokens =>
    match symbol? "\x7d" tokens with
    | some rest => some ([], rest)
    | none => do
      let (key, rest) ← item tokens
      let rest ← symbol? ":" rest
      let (value, rest) ← item rest
      match symbol? "\x7d" rest with
      | some rest => pure ([key, value], rest)
      | none =>
        let rest ← symbol? "," rest
        let (others, rest) ← readEntries item fuel rest
        pure (key :: value :: others, rest)

/-- Arguments up to the closing parenthesis. No positional argument follows a named one. -/
def readArguments (item : Reader Expr) :
    (fuel : Nat) → (named : List String) → Reader (List Expr × List String)
  | 0, _, _ => none
  | fuel + 1, named, tokens =>
    match symbol? ")" tokens with
    | some rest => some (([], named), rest)
    | none => do
      let (name, tokens) ← match tokens with
        | .name name :: .symbol "=" :: rest => some ([name], rest)
        | _ => if named.isEmpty then some ([], tokens) else none
      let (first, rest) ← item tokens
      match symbol? ")" rest with
      | some rest => pure (([first], named ++ name), rest)
      | none =>
        let rest ← symbol? "," rest
        let ((others, names), rest) ← readArguments item fuel (named ++ name) rest
        pure ((first :: others, names), rest)

/-- Arguments in parentheses, or none at all. -/
def readOptionalArguments (item : Reader Expr) : Reader (List Expr)
  | .symbol "(" :: rest => do
    let ((arguments, named), rest) ← readArguments item (rest.length + 1) [] rest
    if named.isEmpty then pure (arguments, rest) else none
  | tokens => some ([], tokens)

/-- String literals side by side are one literal. -/
def readStrings : List Token → String × List Token
  | .string value :: rest =>
    let (others, rest) := readStrings rest
    (value ++ others, rest)
  | tokens => ("", tokens)

/-- An expression without operators. -/
def readPrimary (inner : Reader Expr) : Reader Expr
  | .name name :: rest =>
    if name = "true" ∨ name = "True" then some (.literal (.bool true), rest)
    else if name = "false" ∨ name = "False" then some (.literal (.bool false), rest)
    else if name = "none" ∨ name = "None" then some (.literal .none, rest)
    else some (.var name, rest)
  | .int value :: rest => some (.literal (.int value), rest)
  | .float value :: rest => some (.literal (.float value), rest)
  | .string value :: rest =>
    let (value, rest) := readStrings (.string value :: rest)
    some (.literal (.text value), rest)
  | .symbol "(" :: rest =>
    match symbol? ")" rest with
    | some rest => some (.list [], rest)
    | none => do
      let (first, rest) ← inner rest
      match symbol? "," rest with
      | some rest =>
        let (others, rest) ← readItems inner ")" (rest.length + 1) rest
        pure (.list (first :: others), rest)
      | none => pure (first, ← symbol? ")" rest)
  | .symbol "[" :: rest => do
    let (items, rest) ← readItems inner "]" (rest.length + 1) rest
    pure (.list items, rest)
  | .symbol "\x7b" :: rest => do
    let (items, rest) ← readEntries inner (rest.length + 1) rest
    pure (.map items, rest)
  | _ => none

/-- A primary expression with signs before it. -/
def readSigned (inner : Reader Expr) : Reader Expr
  | .symbol "-" :: rest => do
    let (operand, rest) ← readSigned inner rest
    pure (.unary .negate operand, rest)
  | tokens => readPrimary inner tokens

/-- A call of what an expression names. -/
def callOf (callee : Expr) (arguments : List Expr) (named : List String) : Expr :=
  match callee with
  | .var name => .call name arguments named
  | .member base name => .callMethod base name arguments named
  | callee => .callValue callee arguments named

/-- The attributes, indices and calls after an expression. -/
def readPostfix (inner : Reader Expr) : (fuel : Nat) → Expr → Reader Expr
  | 0, _, _ => none
  | fuel + 1, base, .symbol "." :: .name name :: rest =>
    readPostfix inner fuel (.member base name) rest
  | _ + 1, _, .symbol "." :: _ => none
  | fuel + 1, base, .symbol "[" :: rest => do
    let (key, rest) ← inner rest
    let rest ← symbol? "]" rest
    readPostfix inner fuel (.item base key) rest
  | fuel + 1, base, .symbol "(" :: rest => do
    let ((arguments, named), rest) ← readArguments inner (rest.length + 1) [] rest
    readPostfix inner fuel (callOf base arguments named) rest
  | _ + 1, base, tokens => some (base, tokens)

/-- The filters and tests after an expression. -/
def readFilters (inner : Reader Expr) : (fuel : Nat) → Expr → Reader Expr
  | 0, _, _ => none
  | fuel + 1, base, .symbol "|" :: .name name :: rest => do
    let (arguments, rest) ← readOptionalArguments inner rest
    readFilters inner fuel (.filter name base arguments) rest
  | _ + 1, _, .symbol "|" :: _ => none
  | fuel + 1, base, .name "is" :: .name "not" :: .name name :: rest => do
    let (arguments, rest) ← readOptionalArguments inner rest
    readFilters inner fuel (.unary .not (.test name base arguments)) rest
  | fuel + 1, base, .name "is" :: .name name :: rest => do
    let (arguments, rest) ← readOptionalArguments inner rest
    readFilters inner fuel (.test name base arguments) rest
  | _ + 1, _, .name "is" :: _ => none
  | _ + 1, base, tokens => some (base, tokens)

/-- An operand of the tightest binary operator. -/
def readOperand (inner : Reader Expr) : Reader Expr := fun tokens => do
  let (base, rest) ← readSigned inner tokens
  let (base, rest) ← readPostfix inner (rest.length + 1) base rest
  readFilters inner (rest.length + 1) base rest

/-- Powers. -/
def readPower (inner : Reader Expr) : Reader Expr :=
  readChain (readOperand inner) (symbolOperator? [("**", .power)])

/-- Products. -/
def readProduct (inner : Reader Expr) : Reader Expr :=
  readChain (readPower inner)
    (symbolOperator? [("*", .multiply), ("/", .divide), ("//", .floorDivide), ("%", .remainder)])

/-- Texts put together. -/
def readConcat (inner : Reader Expr) : Reader Expr :=
  readChain (readProduct inner) (symbolOperator? [("~", .concat)])

/-- Sums. -/
def readSum (inner : Reader Expr) : Reader Expr :=
  readChain (readConcat inner) (symbolOperator? [("+", .add), ("-", .subtract)])

/-- Comparisons. -/
def readComparison (inner : Reader Expr) : Reader Expr :=
  readChain (readSum inner) comparison?

/-- Comparisons with `not` before them. -/
def readNegated (inner : Reader Expr) : Reader Expr
  | .name "not" :: rest => do
    let (operand, rest) ← readNegated inner rest
    pure (.unary .not operand, rest)
  | tokens => readComparison inner tokens

/-- Alternatives, the loosest level below choices. -/
def readAlternatives (inner : Reader Expr) : Reader Expr :=
  readChain (readChain (readNegated inner) (wordOperator? "and" .both))
    (wordOperator? "or" .either)

/-- The choices after an expression. -/
def readChoices (inner : Reader Expr) : (fuel : Nat) → Expr → Reader Expr
  | 0, _, _ => none
  | fuel + 1, yes, tokens =>
    match word? "if" tokens with
    | none => some (yes, tokens)
    | some rest => do
      let (test, rest) ← readAlternatives inner rest
      match word? "else" rest with
      | some rest =>
        let (no, rest) ← inner rest
        readChoices inner fuel (.choose test yes no) rest
      | none => readChoices inner fuel (.only test yes) rest

/-- An expression whose parts nest at most `fuel` deep. -/
def readExprWithin : (fuel : Nat) → Reader Expr
  | 0, _ => none
  | fuel + 1, tokens => do
    let (yes, rest) ← readAlternatives (readExprWithin fuel) tokens
    readChoices (readExprWithin fuel) (rest.length + 1) yes rest

/-- An expression. -/
def readExpr : Reader Expr := fun tokens =>
  readExprWithin (tokens.length + 1) tokens

/-- The items of a loop, which are no choice: an `if` after them selects items. -/
def readLoopItems : Reader Expr := fun tokens =>
  readAlternatives (readExprWithin (tokens.length + 1)) tokens

/-- The names that the items of a loop go to. A comma before `in` is left unread. -/
def readTargets : (fuel : Nat) → Reader (List String)
  | 0, _ => none
  | fuel + 1, tokens => do
    let (name, rest) ← readBindable tokens
    match rest with
    | .symbol "," :: .name "in" :: _ => pure ([name], rest)
    | .symbol "," :: rest =>
      let (others, rest) ← readTargets fuel rest
      pure (name :: others, rest)
    | _ => pure ([name], rest)

/-- The target of a loop. One name alone takes the whole item. -/
def readLoopTarget : Reader Target := fun tokens => do
  let (names, rest) ← readTargets (tokens.length + 1) tokens
  match names, rest with
  | names, .symbol "," :: rest => pure (.unpack names, rest)
  | [name], rest => pure (.name name, rest)
  | names, rest => pure (.unpack names, rest)

/-- Parameters of a macro and the defaults of the last ones. -/
def readParameters : (fuel : Nat) → (defaults : List Expr) → Reader (List String × List Expr)
  | 0, _, _ => none
  | fuel + 1, defaults, tokens =>
    match symbol? ")" tokens with
    | some rest => some (([], defaults), rest)
    | none => do
      let (name, rest) ← readBindable tokens
      let (defaults, rest) ← match symbol? "=" rest with
        | some rest => do
          let (value, rest) ← readExpr rest
          pure (defaults ++ [value], rest)
        | none => if defaults.isEmpty then some (defaults, rest) else none
      match symbol? ")" rest with
      | some rest => pure (([name], defaults), rest)
      | none =>
        let rest ← symbol? "," rest
        let ((others, defaults), rest) ← readParameters fuel defaults rest
        pure ((name :: others, defaults), rest)

/-- The statements of a block and the word that ended it, or none at the end of the template. -/
abbrev Body := List Stmt × Option String

/-- A branch: its test, its body and what else there is, up to the word that ends it. -/
def readBranch (body : List String → Reader Body) : (fuel : Nat) → Reader Stmt
  | 0, _ => none
  | fuel + 1, tokens => do
    let (test, rest) ← readExpr tokens
    let rest ← blockEnd? rest
    let ((yes, ending), rest) ← body ["endif", "else", "elif"] rest
    match ending with
    | some "endif" => pure (.branch test yes [], rest)
    | some "else" =>
      let rest ← blockEnd? rest
      let ((no, ending), rest) ← body ["endif"] rest
      if ending.isSome then pure (.branch test yes no, rest) else none
    | some "elif" =>
      let (no, rest) ← readBranch body fuel rest
      pure (.branch test yes [no], rest)
    | _ => none

/-- A loop, up to the word that ends it. -/
def readLoop (body : List String → Reader Body) : Reader Stmt := fun tokens => do
  let (target, rest) ← readLoopTarget tokens
  let rest ← word? "in" rest
  let (items, rest) ← readLoopItems rest
  let (keep, rest) ← match word? "if" rest with
    | some rest => do
      let (keep, rest) ← readExpr rest
      pure (some keep, rest)
    | none => some (none, rest)
  let (recursive, rest) := match word? "recursive" rest with
    | some rest => (true, rest)
    | none => (false, rest)
  let rest ← blockEnd? rest
  let ((steps, ending), rest) ← body ["endfor", "else"] rest
  let (orElse, rest) ← match ending with
    | some "endfor" => some ([], rest)
    | some "else" => do
      let rest ← blockEnd? rest
      let ((orElse, ending), rest) ← body ["endfor"] rest
      if ending.isSome then pure (orElse, rest) else none
    | _ => none
  match keep with
  | some keep => pure (.loopIf target items keep recursive steps orElse, rest)
  | none => pure (.loop target items recursive steps orElse, rest)

/-- An assignment, of an expression or of the text of a block. -/
def readAssignment (body : List String → Reader Body) : Reader Stmt := fun tokens =>
  match symbol? "(" tokens with
  | some rest => do
    let (target, rest) ← readLoopTarget rest
    let rest ← symbol? ")" rest
    let rest ← symbol? "=" rest
    let (value, rest) ← readExpr rest
    pure (.assign target value, rest)
  | none => do
    let (name, rest) ← readBindable tokens
    match blockEnd? rest with
    | some rest =>
      let ((captured, ending), rest) ← body ["endset"] rest
      if ending.isSome then pure (.capture name captured, rest) else none
    | none =>
      let rest ← symbol? "=" rest
      let (value, rest) ← readExpr rest
      pure (.assign (.name name) value, rest)

/-- A macro, up to the word that ends it. -/
def readMacro (body : List String → Reader Body) : Reader Stmt
  | .name name :: .symbol "(" :: rest => do
    let ((parameters, defaults), rest) ← readParameters (rest.length + 1) [] rest
    let rest ← blockEnd? rest
    let ((steps, ending), rest) ← body ["endmacro"] rest
    if ending.isSome then pure (.define name parameters defaults steps, rest) else none
  | _ => none

/-- Statements up to a block that starts with one of the words in `endings`, or to the end. -/
def readBody : (fuel : Nat) → (endings : List String) → Reader Body
  | 0, _, _ => none
  | _ + 1, _, [] => some (([], none), [])
  | fuel + 1, endings, .text text :: rest => do
    let ((others, ending), rest) ← readBody fuel endings rest
    pure ((.text text :: others, ending), rest)
  | fuel + 1, endings, .printStart :: rest => do
    let (value, rest) ← readExpr rest
    match rest with
    | .printEnd :: rest =>
      let ((others, ending), rest) ← readBody fuel endings rest
      pure ((.print value :: others, ending), rest)
    | _ => none
  | fuel + 1, endings, .blockStart :: .name word :: rest =>
    if endings.contains word then some (([], some word), rest)
    else do
      let (stmt, rest) ← match word with
        | "if" => readBranch (readBody fuel) (rest.length + 1) rest
        | "for" => readLoop (readBody fuel) rest
        | "set" => readAssignment (readBody fuel) rest
        | "macro" => readMacro (readBody fuel) rest
        | _ => none
      let rest ← blockEnd? rest
      let ((others, ending), rest) ← readBody fuel endings rest
      pure ((stmt :: others, ending), rest)
  | _ + 1, _, _ => none

/-- The statements of a template, or `none` if its text is malformed. -/
def parse? (source : List Char) : Option (List Stmt) := do
  let tokens ← Token.scan? source
  let ((body, _), _) ← readBody (tokens.length + 1) [] tokens
  pure body

end Stencil.Template
