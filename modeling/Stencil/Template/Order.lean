import Stencil.Number.Shortest
import Stencil.Template.Value

/-!
# Order and equality of values

Values of different kinds are ordered by kind; numbers are ordered by their size, texts by their
characters, lists and maps item by item. Equality compares numbers and truth values by size, so
that one, one point zero and true are equal; an integer that no floating-point number is exactly
equals none. Maps look keys up by the order.
-/

namespace Stencil.Template.Value

/-- The place of a value's kind in the order of kinds. -/
def kindRank : Value → Nat
  | .undefined _ => 0
  | .none => 1
  | .bool _ => 2
  | .int _ => 3
  | .float _ => 3
  | .text _ => 4
  | .list _ => 5
  | .map _ => 6
  | .function _ => 7
  | .macroIn _ _ => 7
  | .position _ => 7

/-- The place of a floating-point number in the order of all: negative numbers by falling size, then
the others by rising size. What is no number comes first, and zero with a sign before zero. -/
def floatRank (value : Float) : Int :=
  let bits := value.toBits.toNat
  let magnitude := Int.ofNat (bits % Number.wordCount 63)
  if value.isNaN then -Int.ofNat (Number.wordCount 63)
  else if bits < Number.wordCount 63 then magnitude
  else -magnitude - 1

/-- The order of floating-point numbers. -/
def compareFloats (left right : Float) : Ordering :=
  Ord.compare (floatRank left) (floatRank right)

/-- A floating-point number is exactly that integer. -/
def isExactly (value : Float) (whole : Int) : Bool :=
  let (m, q) := Number.significand value.abs.toBits.toNat
  let size := Number.Ratio.ofPower m 2 q
  value == Float.ofInt whole && size.num == whole.natAbs * size.den

mutual

/-- The order of values. -/
def compare (left right : Value) : Ordering :=
  match left with
  | .int a =>
    match right with
    | .int b => Ord.compare a b
    | .float b => compareFloats (.ofInt a) b
    | right => Ord.compare 3 right.kindRank
  | .float a =>
    match right with
    | .int b => compareFloats a (.ofInt b)
    | .float b => compareFloats a b
    | right => Ord.compare 3 right.kindRank
  | .bool a =>
    match right with
    | .bool b => Ord.compare a b
    | right => Ord.compare 2 right.kindRank
  | .text a =>
    match right with
    | .text b => Ord.compare a b
    | right => Ord.compare 4 right.kindRank
  | .list items =>
    match right with
    | .list others => compareItems items others
    | right => Ord.compare 5 right.kindRank
  | .map entries =>
    match right with
    | .map others => compareEntries entries others
    | right => Ord.compare 6 right.kindRank
  | left => Ord.compare left.kindRank right.kindRank

/-- The order of lists, by the first items that differ. -/
def compareItems : List Value → List Value → Ordering
  | [], [] => .eq
  | [], _ :: _ => .lt
  | _ :: _, [] => .gt
  | left :: items, right :: others => (compare left right).then (compareItems items others)

/-- The order of maps, by the first entries that differ. -/
def compareEntries : List (Value × Value) → List (Value × Value) → Ordering
  | [], [] => .eq
  | [], _ :: _ => .lt
  | _ :: _, [] => .gt
  | (key, left) :: entries, (otherKey, right) :: others =>
    ((compare key otherKey).then (compare left right)).then (compareEntries entries others)

end

/-- The value of an entry with that key. -/
def lookup? (key : Value) : List (Value × Value) → Option Value
  | [] => Option.none
  | (found, value) :: rest => if compare found key == .eq then some value else lookup? key rest

/-- The entries with one put in at its place, instead of one with the same key. -/
def insertEntry (key value : Value) : List (Value × Value) → List (Value × Value)
  | [] => [(key, value)]
  | (found, old) :: rest =>
    match compare key found with
    | .lt => (key, value) :: (found, old) :: rest
    | .eq => (found, value) :: rest
    | .gt => (found, old) :: insertEntry key value rest

/-- The value of an entry whose key is a text. -/
def field? (name : String) : List (Value × Value) → Option Value
  | [] => Option.none
  | (.text found, value) :: rest => if found = name then some value else field? name rest
  | _ :: rest => field? name rest

mutual

/-- Equality of values. -/
def equals (left right : Value) : Bool :=
  match left with
  | .undefined _ => right.isUndefined
  | .none =>
    match right with
    | .none => true
    | _ => false
  | .bool a =>
    match right with
    | .bool b => a == b
    | .int b => (if a then 1 else 0) == b
    | .float b => (if a then 1 else 0) == b
    | _ => false
  | .int a =>
    match right with
    | .bool b => a == (if b then 1 else 0)
    | .int b => a == b
    | .float b => isExactly b a
    | _ => false
  | .float a =>
    match right with
    | .bool b => a == (if b then 1 else 0)
    | .int b => isExactly a b
    | .float b => a == b
    | _ => false
  | .text a =>
    match right with
    | .text b => a == b
    | _ => false
  | .list items =>
    match right with
    | .list others => itemsEqual items others
    | _ => false
  | .map entries =>
    match right with
    | .map others => entriesEqual entries others
    | _ => false
  | .function builtin =>
    match right with
    | .function other => builtin == other
    | _ => false
  | .macroIn _ _ => false
  | .position loop =>
    match right with
    | .position other => loop == other
    | _ => false

/-- Equality of lists, item by item. -/
def itemsEqual : List Value → List Value → Bool
  | [], [] => true
  | left :: items, right :: others => equals left right && itemsEqual items others
  | _, _ => false

/-- Equality of maps, entry by entry. -/
def entriesEqual : List (Value × Value) → List (Value × Value) → Bool
  | [], [] => true
  | (key, left) :: entries, (otherKey, right) :: others =>
    compare key otherKey == .eq && equals left right && entriesEqual entries others
  | _, _ => false

end

end Stencil.Template.Value
