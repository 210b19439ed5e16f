import Stencil.Text.Piece

/-!
# Number literals

Numbers written as text. Integers have a sign, and a letter after a leading zero tells their base;
a decimal integer has no zeros before its digits. Floating-point numbers are decimal, with a point
and a power of ten, either of which may be missing.
-/

namespace Stencil.Number

open Stencil.Text

/-- The value of a digit in a base up to sixteen. -/
def digitIn? (base : Nat) (letter : Char) : Option Nat :=
  let digit :=
    if letter.isDigit then some (letter.toNat - 48)
    else if 'a' ≤ letter && letter ≤ 'f' then some (letter.toNat - 87)
    else if 'A' ≤ letter && letter ≤ 'F' then some (letter.toNat - 55)
    else none
  digit.filter (· < base)

/-- The value of digits, of which there is at least one. -/
def natural? (base : Nat) (digits : List Char) : Option Nat :=
  if digits.isEmpty then none
  else digits.foldlM (fun value letter => (digitIn? base letter).map (base * value + ·)) 0

/-- A sign, if there is one, and what follows it. -/
def cutSign : List Char → Bool × List Char
  | '-' :: rest => (true, rest)
  | '+' :: rest => (false, rest)
  | text => (false, text)

/-- A number with its sign. -/
def signed (negative : Bool) (magnitude : Nat) : Int :=
  if negative then -(magnitude : Int) else magnitude

/-- The bases and the letters that tell them. -/
def bases : List (Char × Nat) := [('x', 16), ('o', 8), ('b', 2)]

/-- The value of an integer literal. -/
def integer? (text : List Char) : Option Int :=
  let (negative, digits) := cutSign text
  let magnitude :=
    match digits with
    | '0' :: letter :: rest =>
      match bases.lookup letter with
      | some base => natural? base rest
      | none => none
    | digits => natural? 10 digits
  magnitude.map (signed negative)

/-- The parts of a decimal number: the digits before and after the point and the power of ten. -/
structure Scientific where
  whole : List Char
  fraction : List Char
  exponent : Int

/-- A power of ten with its sign. -/
def exponent? (text : List Char) : Option Int :=
  let (negative, digits) := cutSign text
  (natural? 10 digits).map (signed negative)

/-- The digits before and after a point, of which there is at least one. -/
def mantissa? (text : List Char) (exponent : Int) : Option Scientific :=
  let whole := text.takeWhile Char.isDigit
  match text.dropWhile Char.isDigit with
  | [] => if whole.isEmpty then none else some ⟨whole, [], exponent⟩
  | '.' :: fraction =>
    if fraction.all Char.isDigit && !(whole.isEmpty && fraction.isEmpty) then
      some ⟨whole, fraction, exponent⟩
    else none
  | _ => none

/-- A decimal number without a sign, cut into its parts. -/
def scientific? (text : List Char) : Option Scientific :=
  let isMark (letter : Char) : Bool := letter == 'e' || letter == 'E'
  match text.dropWhile (!isMark ·) with
  | [] => mantissa? text 0
  | _ :: power => do
    let exponent ← exponent? power
    mantissa? (text.takeWhile (!isMark ·)) exponent

/-- The floating-point number nearest to a decimal number. Powers of ten far out of range are not
computed. -/
def Scientific.toFloat (parts : Scientific) : Float :=
  let digits := (natural? 10 (parts.whole ++ parts.fraction)).getD 0
  let exponent := parts.exponent - parts.fraction.length
  let size : Int := (Nat.toDigits 10 digits).length + exponent
  if digits = 0 ∨ size < -400 then 0.0
  else if 400 < size then 1.0 / 0.0
  else
    match exponent with
    | .ofNat power => Float.ofScientific digits false power
    | .negSucc power => Float.ofScientific digits true (power + 1)

/-- The value of a floating-point literal, which is finite. -/
def float? (text : List Char) : Option Float := do
  let (negative, digits) := cutSign text
  let magnitude := (← scientific? digits).toFloat
  if magnitude.isFinite then some (if negative then -magnitude else magnitude) else none

end Stencil.Number
