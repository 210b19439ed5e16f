import Stencil.Number.Width
import Stencil.Template.Fault
import Stencil.Template.Order
import Stencil.Template.Print

/-!
# Operators

What the operators do to values. Whole numbers have 128 bits and never wrap: a result that does not
fit is a fault. If one operand is a floating-point number, both are taken as such. Truth values
count as one and zero.
-/

namespace Stencil.Template.Value

/-- A whole number, if it has at most 128 bits. -/
def wholeNumber (value : Int) : Outcome Value :=
  if Number.fitsSigned 128 value then pure (.int value) else throw .unsupported

/-- Two operands brought to one type. -/
inductive Operands where
  | whole (left right : Int)
  | floats (left right : Float)
  | texts (left right : String)

/-- A whole number or a truth value as a number. -/
def asWhole? : Value → Option Int
  | .int value => some value
  | .bool value => some (if value then 1 else 0)
  | _ => Option.none

/-- A number or a truth value as a floating-point number. -/
def asFloat? : Value → Option Float
  | .float value => some value
  | value => value.asWhole?.map Float.ofInt

/-- Two operands brought to one type, if there is one. -/
def Operands.of? (left right : Value) : Option Operands :=
  match left, right with
  | .text a, .text b => some (.texts a b)
  | .float a, right => right.asFloat?.map fun b => .floats a b
  | left, .float b => left.asFloat?.map fun a => .floats a b
  | left, right => do pure (.whole (← left.asWhole?) (← right.asWhole?))

/-- The remainder of floating-point numbers, exact and with the sign of the dividend. Both are
brought to a common power of two, and the remainder has no more digits than the dividend. -/
def floatRemainder (left right : Float) : Float :=
  if left.isNaN || right.isNaN || left.isInf || right == 0 then 0.0 / 0.0
  else if right.isInf || left == 0 then left
  else
    let (m, p) := Number.significand left.abs.toBits.toNat
    let (n, q) := Number.significand right.abs.toBits.toNat
    let shift := min p q
    let rest :=
      m * Nat.pow 2 (p - shift).toNat % (n * Nat.pow 2 (q - shift).toNat)
    let size := (Float.ofNat rest).scaleB shift
    if left < 0 then -size else size

/-- The whole part of a quotient, rounded so that the remainder is not negative. -/
def floatFloorDivide (left right : Float) : Float :=
  let quotient := left / right
  let whole := if quotient < 0 then quotient.ceil else quotient.floor
  if floatRemainder left right < 0 then (if right > 0 then whole - 1 else whole + 1) else whole

/-- The sum of numbers, or texts or lists put together. -/
def add (left right : Value) : Outcome Value :=
  match left, right with
  | .list items, .list others => pure (.list (items ++ others))
  | left, right =>
    match Operands.of? left right with
    | some (.whole a b) => wholeNumber (a + b)
    | some (.floats a b) => pure (.float (a + b))
    | some (.texts a b) => pure (.text (a ++ b))
    | Option.none => throw .unsupported

/-- A difference. -/
def subtract (left right : Value) : Outcome Value :=
  match Operands.of? left right with
  | some (.whole a b) => wholeNumber (a - b)
  | some (.floats a b) => pure (.float (a - b))
  | _ => throw .unsupported

/-- How often a text or a list is repeated. -/
def repeatCount (value : Value) : Outcome Nat :=
  match value with
  | .int count => if Number.fitsUnsigned 32 count then pure count.toNat else throw .unsupported
  | .bool count => pure (if count then 1 else 0)
  | _ => throw .unsupported

/-- A product of numbers, or a text or list repeated. -/
def multiply (left right : Value) : Outcome Value :=
  match left, right with
  | .text content, count | count, .text content => do
    let count ← count.repeatCount
    pure (.text (String.join (List.replicate count content)))
  | .list items, count | count, .list items => do
    let count ← count.repeatCount
    pure (.list (List.replicate count items).flatten)
  | left, right =>
    match Operands.of? left right with
    | some (.whole a b) => wholeNumber (a * b)
    | some (.floats a b) => pure (.float (a * b))
    | _ => throw .unsupported

/-- A quotient, which is always a floating-point number. -/
def divide (left right : Value) : Outcome Value :=
  match left.asFloat?, right.asFloat? with
  | some a, some b => pure (.float (a / b))
  | _, _ => throw .unsupported

/-- The whole part of a quotient, rounded so that the remainder is not negative. -/
def floorDivide (left right : Value) : Outcome Value :=
  match Operands.of? left right with
  | some (.whole a b) => if b = 0 then throw .unsupported else wholeNumber (a / b)
  | some (.floats a b) => pure (.float (floatFloorDivide a b))
  | _ => throw .unsupported

/-- A remainder. That of whole numbers is never negative. -/
def remainder (left right : Value) : Outcome Value :=
  match Operands.of? left right with
  | some (.whole a b) => if b = 0 then throw .unsupported else wholeNumber (a % b)
  | some (.floats a b) => pure (.float (floatRemainder a b))
  | _ => throw .unsupported

/-- A power that fits 128 bits. The exponent is bounded before the power is computed. -/
def wholePower (base : Int) (exponent : Int) : Outcome Value :=
  if !Number.fitsUnsigned 32 exponent then throw .unsupported
  else if base = 0 ∨ base = 1 then pure (.int (if exponent = 0 then 1 else base))
  else if base = -1 then pure (.int (if exponent % 2 = 0 then 1 else -1))
  else if 128 ≤ exponent then throw .unsupported
  else wholeNumber (Int.pow base exponent.toNat)

/-- A power. -/
def power (left right : Value) : Outcome Value :=
  match Operands.of? left right with
  | some (.whole a b) => wholePower a b
  | some (.floats a b) => pure (.float (a.pow b))
  | _ => throw .unsupported

/-- A number with its sign changed. -/
def negate : Value → Outcome Value
  | .int value => wholeNumber (-value)
  | .float value => pure (.float (-value))
  | _ => throw .unsupported

/-- A text occurs in another. -/
def isInfix (part : List Char) : List Char → Bool
  | [] => part.isEmpty
  | letter :: rest => part.isPrefixOf (letter :: rest) || isInfix part rest

/-- A text contains the text of a value, a list an equal item, a map an entry with that key. -/
def contains (value container : Value) : Outcome Bool :=
  match container with
  | .undefined quiet => if quiet then pure false else throw .undefinedValue
  | .text content => pure (isInfix value.print.toList content.toList)
  | .list items => pure (items.any (·.equals value))
  | .map entries => pure (lookup? value entries).isSome
  | .position _ | .macroIn _ _ | .function _ => pure false
  | _ => throw .unsupported

/-- The result of a binary operator. -/
def applyBinary (op : BinaryOp) (left right : Value) : Outcome Value :=
  match op with
  | .add => left.add right
  | .subtract => left.subtract right
  | .multiply => left.multiply right
  | .divide => left.divide right
  | .floorDivide => left.floorDivide right
  | .remainder => left.remainder right
  | .power => left.power right
  | .concat => pure (.text (left.print ++ right.print))
  | .equal => pure (.bool (left.equals right))
  | .notEqual => pure (.bool (!left.equals right))
  | .less => pure (.bool (left.compare right == .lt))
  | .lessOrEqual => pure (.bool (left.compare right != .gt))
  | .greater => pure (.bool (left.compare right == .gt))
  | .greaterOrEqual => pure (.bool (left.compare right != .lt))
  | .contains => .bool <$> contains left right

/-- A value as the test of a choice. A missing value is a fault. -/
def truth (value : Value) : Outcome Bool :=
  if value.isLoudlyUndefined then throw .undefinedValue else pure value.isTrue

/-- The result of a unary operator. -/
def applyUnary (op : UnaryOp) (operand : Value) : Outcome Value :=
  match op with
  | .not => do pure (.bool !(← operand.truth))
  | .negate => operand.negate

/-- The items that a loop over the value runs through: the items of a list, the keys of a map, the
characters of a text, and nothing for none. -/
def items : Value → Outcome (List Value)
  | .undefined quiet => if quiet then pure [] else throw .undefinedValue
  | .none => pure []
  | .text content => pure (content.toList.map fun letter => .text (.singleton letter))
  | .list items => pure items
  | .map entries => pure (entries.map (·.1))
  | _ => throw .unsupported

/-- The property of a loop with that name. -/
def positionField? (loop : LoopPosition) (name : String) : Option Value :=
  match name with
  | "index0" => some (.int loop.index)
  | "index" => some (.int (loop.index + 1))
  | "length" => some (.int loop.length)
  | "revindex" => some (.int (loop.length - loop.index))
  | "revindex0" => some (.int (loop.length - loop.index - 1))
  | "first" => some (.bool (loop.index == 0))
  | "last" => some (.bool (loop.index + 1 == loop.length))
  | "depth" => some (.int (loop.depth + 1))
  | "depth0" => some (.int loop.depth)
  | _ => Option.none

/-- A member of a value. Members of missing values are a fault; missing members are missing
values. -/
def member (base : Value) (name : String) : Outcome Value :=
  match base with
  | .undefined _ => throw .undefinedValue
  | .map entries => pure ((field? name entries).getD (.undefined false))
  | .position loop => pure ((positionField? loop name).getD (.undefined false))
  | _ => pure (.undefined false)

/-- A place in a list or text given as a number, counted from the end if it is negative. -/
def place? (length : Nat) (key : Value) : Option Nat :=
  let index : Option Int :=
    match key with
    | .float value =>
      let whole := value.toInt64.toInt
      if Float.ofInt whole == value then some whole else Option.none
    | key => key.asWhole?
  match index with
  | some index =>
    if index < 0 then
      if length < index.natAbs then Option.none else some (length - index.natAbs)
    else some index.toNat
  | Option.none => Option.none

/-- An item of a value. -/
def item (base key : Value) : Outcome Value :=
  match base with
  | .undefined _ => throw .undefinedValue
  | .map entries => pure ((lookup? key entries).getD (.undefined false))
  | .list items => pure (((place? items.length key).bind (items[·]?)).getD (.undefined false))
  | .text content =>
    let letters := content.toList
    pure ((((place? letters.length key).bind (letters[·]?)).map
      fun letter => .text (.singleton letter)).getD (.undefined false))
  | .position loop =>
    match key with
    | .text name => pure ((positionField? loop name).getD (.undefined false))
    | _ => pure (.undefined false)
  | _ => pure (.undefined false)

end Stencil.Template.Value
