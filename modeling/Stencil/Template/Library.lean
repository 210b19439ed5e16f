import Stencil.Name
import Stencil.Number.Width
import Stencil.Schema.Codec
import Stencil.Schema.Predicate
import Stencil.Template.Operator
import Stencil.Text.Placeholder

/-!
# The library of templates

What the built-in functions, filters and tests do. Functions take their arguments in order: a
missing value is a fault, an argument that is left out is another, and arguments beyond the last are
a third. The library knows how deep composite attributes may be nested.
-/

namespace Stencil.Template

/-- What templates can call beyond their own macros. -/
structure Library where
  /-- How deep composite attributes may be nested. -/
  maxDepth : Nat

/-- How deep composite attributes may be nested by default. -/
def Library.defaultMaxDepth : Nat := 4

/-- The name of the nesting limit in templates. -/
def depthLimitName : String := "MAX_NESTING_DEPTH"

/-- A natural number as a signed number of 64 bits; larger ones become the largest. -/
def clampInt64 (value : Nat) : Int := min value (Number.wordCount 63 - 1)

/-- What a name means in every template. -/
def Library.global? (library : Library) (name : String) : Option Value :=
  if name = depthLimitName then some (.int (clampInt64 library.maxDepth))
  else (Builtin.ofName? name).map .function

namespace Library

/-- The first argument, which may not be missing, and the others. -/
def takeArgument : List Value → Outcome (Value × List Value)
  | [] => throw .missingArgument
  | first :: rest => if first.isUndefined then throw .undefinedValue else pure (first, rest)

/-- No argument is left. -/
def noMore : List Value → Outcome Unit
  | [] => pure ()
  | _ :: _ => throw .tooManyArguments

/-- A function of one argument. -/
def unary (convert : Value → Outcome α) (apply : α → Outcome Value) (arguments : List Value) :
    Outcome Value := do
  let (first, rest) ← takeArgument arguments
  let argument ← convert first
  noMore rest
  apply argument

/-- A whole number that fits, given as any number or truth value. -/
def wholeArgument (fits : Int → Bool) (value : Value) : Outcome Int :=
  let whole : Option Int :=
    match value with
    | .float value =>
      let whole := value.toInt64.toInt
      if Float.ofInt whole == value then some whole else none
    | value => value.asWhole?
  match whole with
  | some whole => if fits whole then pure whole else throw .unsupported
  | none => throw .unsupported

/-- A signed number of 64 bits. -/
def int64Argument : Value → Outcome Int := wholeArgument (Number.fitsSigned 64)

/-- A natural number of 32 bits. -/
def nat32Argument : Value → Outcome Int := wholeArgument (Number.fitsUnsigned 32)

/-- Any value as its text. -/
def textArgument (value : Value) : Outcome String := pure value.print

/-- What reading yields, as an outcome of a call. -/
def decoded : Schema.Decoded α → Outcome α
  | .ok value => pure value
  | .error fault => throw (.undecodable fault)

/-- An attribute. -/
def attributeArgument (value : Value) : Outcome Schema.Attribute :=
  decoded (Schema.Attribute.ofValue? value)

/-- A list of attributes. -/
def attributesArgument (value : Value) : Outcome (List Schema.Attribute) :=
  decoded (Schema.Attribute.listOfValue? value)

/-- A function from texts to texts. -/
def ofText (function : String → String) : List Value → Outcome Value :=
  unary textArgument fun text => pure (.text (function text))

/-- A question about a field. -/
def ofField (question : Schema.Field → Bool) : List Value → Outcome Value :=
  unary attributeArgument fun attr => pure (.bool (question attr.field))

/-- A question about a list of attributes. -/
def ofAttributes (question : List Schema.Attribute → Bool) : List Value → Outcome Value :=
  unary attributesArgument fun attributes => pure (.bool (question attributes))

/-- The difference of two integers of 64 bits. -/
def subtract (arguments : List Value) : Outcome Value := do
  let (first, rest) ← takeArgument arguments
  let left ← int64Argument first
  let (second, rest) ← takeArgument rest
  let right ← int64Argument second
  noMore rest
  let difference := left - right
  if Schema.inIntRange difference then pure (.int difference) else throw (.overflow left right)

/-- A failure with a message whose places the other arguments fill. -/
def fail (arguments : List Value) : Outcome Value := do
  let (first, rest) ← takeArgument arguments
  let message := Text.fillPlaces first.print.toList (rest.map (·.print.toList))
  throw (.failed (.ofList message))

/-- The most numbers that a range may have. -/
def maxRange : Nat := 100000

/-- Numbers from `first` on, `step` apart, below `last`. -/
def rangeFrom (first last step : Nat) : Outcome Value :=
  let count := (last - first + step - 1) / step
  if maxRange < count then throw .unsupported
  else pure (.list ((List.range count).map fun index => .int (Int.ofNat (first + index * step))))

/-- An optional argument of a range, and the arguments after it. -/
def optionalBound : List Value → Outcome (Option Int × List Value)
  | [] => pure (none, [])
  | .none :: rest => pure (none, rest)
  | first :: rest =>
    if first.isUndefined then throw .undefinedValue
    else do pure (some (← nat32Argument first), rest)

/-- The numbers below a bound, from a bound on, or a step apart. -/
def range (arguments : List Value) : Outcome Value := do
  let (first, rest) ← takeArgument arguments
  let lower ← nat32Argument first
  let (upper, rest) ← optionalBound rest
  let (step, rest) ← optionalBound rest
  noMore rest
  let (first, last) := match upper with
    | some upper => (lower.toNat, upper.toNat)
    | none => (0, lower.toNat)
  match step with
  | some 0 => throw .unsupported
  | some step => rangeFrom first last step.toNat
  | none => rangeFrom first last 1

/-- The composite attributes of a list of attributes. -/
def nestedTypes (library : Library) : List Value → Outcome Value :=
  unary attributesArgument fun attributes =>
    match Schema.nestedTypes attributes library.maxDepth with
    | .ok composites => pure (.list (Schema.Attribute.toValues composites))
    | .error fault => throw (.tooDeep fault)

/-- A call of a built-in function. -/
def call (library : Library) (builtin : Builtin) : List Value → Outcome Value :=
  match builtin with
  | .pascalCase => ofText Name.pascalCase
  | .pascalName => ofText Name.pascalName
  | .snakeName => ofText Name.snakeName
  | .path =>
    unary (decoded ∘ Schema.valueSource.texts) fun segments =>
      pure (.text (Name.dottedPath segments))
  | .subtract => subtract
  | .fail => fail
  | .isListSet => ofField (·.isListSet)
  | .isStringListSet => ofField (·.isStringListSet)
  | .isInt64ListSet => ofField (·.isInt64ListSet)
  | .isNested => ofField (·.isNested)
  | .isNestedList => ofField (·.isNestedList)
  | .isNestedSet => ofField (·.isNestedSet)
  | .isNestedMap => ofField (·.isNestedMap)
  | .hasId => ofAttributes Schema.hasId
  | .hasReference => ofAttributes Schema.hasReference
  | .hasResourceId => ofAttributes Schema.hasResourceId
  | .importParts =>
    unary attributesArgument fun attributes =>
      pure (.int (clampInt64 (Schema.importParts attributes)))
  | .nestedTypes => nestedTypes library
  | .range => range

/-- The number of characters, items or entries. -/
def lengthOf : Value → Outcome Value
  | .text text => pure (.int text.length)
  | .list items => pure (.int items.length)
  | .map entries => pure (.int entries.length)
  | _ => throw .unsupported

/-- The texts of values put together. The separator stands before every text that has text before
it. -/
def joinTexts (separator : String) : (before : String) → List Value → String
  | before, [] => before
  | before, item :: rest =>
    joinTexts separator ((if before = "" then "" else before ++ separator) ++ item.print) rest

/-- The texts of the items of a value put together. -/
def join (base : Value) (arguments : List Value) : Outcome Value := do
  let (separator, rest) ← match arguments with
    | [] => pure ("", [])
    | .none :: rest => pure ("", rest)
    | first :: rest => if first.isUndefined then throw .undefinedValue else pure (first.print, rest)
  noMore rest
  match base with
  | .undefined _ | .none => pure (.text "")
  | base =>
    match base.items with
    | .ok items => pure (.text (joinTexts separator "" items))
    | .error _ => throw .unsupported

/-- A filter applied to a value. -/
def filter (name : String) (base : Value) (arguments : List Value) : Outcome Value :=
  match name with
  | "upper" => ofText (fun text => .ofList (Text.upper text.toList)) (base :: arguments)
  | "lower" => ofText (fun text => .ofList (Text.lower text.toList)) (base :: arguments)
  | "length" => do
    noMore arguments
    lengthOf base
  | "join" => join base arguments
  | _ => throw .unknownFilter

/-- A test of a value. -/
def test (name : String) (base : Value) (arguments : List Value) : Outcome Bool :=
  let answer : Option Bool :=
    match name with
    | "none" => some (match base with
      | .none => true
      | _ => false)
    | "defined" => some !base.isUndefined
    | "undefined" => some base.isUndefined
    | _ => none
  match answer with
  | none => throw .unknownTest
  | some answer => do
    noMore arguments
    pure answer

end Library

end Stencil.Template
