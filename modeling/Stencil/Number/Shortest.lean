import Stencil.Number.Width

/-!
# Shortest decimals of binary64 numbers

The decimal that prints a floating-point number: of all decimals that read back as the number it
has the fewest digits, and of those it is the nearest. The search works in exact natural numbers on
the interval of reals that round to the number. For one, two, … digits it tests the two neighbours
of the number on the grid of that many digits; the first grid with a hit wins, because a grid with
any point in the interval has one of these neighbours in it.
-/

namespace Stencil.Number

/-- A decimal number `digits · 10 ^ exponent`. -/
structure Decimal where
  digits : Nat
  exponent : Int
deriving DecidableEq, Repr

/-- A positive rational number. -/
structure Ratio where
  num : Nat
  den : Nat

namespace Ratio

/-- Order of rationals, by cross multiplication. -/
def le (a b : Ratio) : Bool := a.num * b.den ≤ b.num * a.den

/-- Strict order of rationals. -/
def lt (a b : Ratio) : Bool := a.num * b.den < b.num * a.den

/-- `num · base ^ power`. -/
def ofPower (num base : Nat) (power : Int) : Ratio :=
  match power with
  | .ofNat k => ⟨num * Nat.pow base k, 1⟩
  | .negSucc k => ⟨num, Nat.pow base (k + 1)⟩

/-- The distance of two rationals. -/
def distance (a b : Ratio) : Ratio :=
  let left := a.num * b.den
  let right := b.num * a.den
  ⟨max left right - min left right, a.den * b.den⟩

end Ratio

/-- The power of two and the natural number whose product is a finite, positive binary64 number,
given by its bits without the sign. -/
def significand (bits : Nat) : Nat × Int :=
  let fraction : Nat := bits % wordCount 52
  let field : Nat := bits / wordCount 52
  if field = 0 then (fraction, -1074) else (wordCount 52 + fraction, Int.ofNat field - 1075)

/-- The reals that round to a number: its ends, and whether the ends count. -/
structure Interval where
  low : Ratio
  high : Ratio
  closed : Bool

/-- The interval around `m · 2 ^ q`. Below a power of two the numbers lie twice as close. -/
def Interval.around (m : Nat) (q : Int) : Interval :=
  let high := Ratio.ofPower (2 * m + 1) 2 (q - 1)
  let low :=
    if m = wordCount 52 ∧ q > -1074 then Ratio.ofPower (4 * m - 1) 2 (q - 2)
    else Ratio.ofPower (2 * m - 1) 2 (q - 1)
  ⟨low, high, m % 2 = 0⟩

/-- A rational lies in the interval. -/
def Interval.contains (interval : Interval) (value : Ratio) : Bool :=
  if interval.closed then interval.low.le value && value.le interval.high
  else interval.low.lt value && value.lt interval.high

/-- The number of decimal digits of a natural number, one for zero. -/
def digitCount (value : Nat) : Nat :=
  (Nat.toDigits 10 value).length

/-- The exponent `e` with `10 ^ e ≤ value < 10 ^ (e + 1)`. Below one it is found by scaling up, at
most `steps` times. -/
def leadingExponent (value : Ratio) (steps : Nat) : Int :=
  if value.den ≤ value.num then (digitCount (value.num / value.den) : Int) - 1
  else
    match steps with
    | 0 => 0
    | steps + 1 => leadingExponent ⟨value.num * 10, value.den⟩ steps - 1

/-- The neighbour of `value` that lies in the interval on the grid of `count` digits, the nearer
one if both do. -/
def gridPoint? (interval : Interval) (value : Ratio) (leading : Int) (count : Nat) :
    Option Decimal :=
  let exponent := leading - count + 1
  let below :=
    match exponent with
    | .ofNat k => value.num / (value.den * Nat.pow 10 k)
    | .negSucc k => value.num * Nat.pow 10 (k + 1) / value.den
  let lower := Ratio.ofPower below 10 exponent
  let upper := Ratio.ofPower (below + 1) 10 exponent
  let lowerFits := below != 0 && interval.contains lower
  let upperFits := interval.contains upper
  if lowerFits && (!upperFits || (lower.distance value).le (upper.distance value)) then
    some ⟨below, exponent⟩
  else if upperFits then some ⟨below + 1, exponent⟩
  else none

/-- Trailing zeros moved from the digits into the exponent, at most `steps` of them. -/
def Decimal.normalize (decimal : Decimal) : (steps : Nat) → Decimal
  | 0 => decimal
  | steps + 1 =>
    if decimal.digits ≠ 0 ∧ decimal.digits % 10 = 0 then
      Decimal.normalize ⟨decimal.digits / 10, decimal.exponent + 1⟩ steps
    else decimal

/-- The shortest decimal of the positive finite number with these bits. Seventeen digits always
suffice. -/
def shortest (bits : Nat) : Decimal :=
  let (m, q) := significand bits
  let value := Ratio.ofPower m 2 q
  let interval := Interval.around m q
  let leading := leadingExponent value 400
  match (List.range 17).findSome? fun count => gridPoint? interval value leading (count + 1) with
  | some decimal => decimal.normalize 20
  | none => ⟨0, 0⟩

/-- The digits of a decimal written out with a point and at least one place after it. -/
def Decimal.positional (decimal : Decimal) : String :=
  let digits := (Nat.toDigits 10 decimal.digits)
  match decimal.exponent with
  | .ofNat k => .ofList (digits ++ List.replicate k '0') ++ ".0"
  | .negSucc k =>
    let places := k + 1
    if digits.length > places then
      .ofList (digits.take (digits.length - places)) ++ "." ++
        .ofList (digits.drop (digits.length - places))
    else "0." ++ .ofList (List.replicate (places - digits.length) '0' ++ digits)

/-- One digit before the point, the others after it, and the power of ten after an `e`. -/
def Decimal.scientific (decimal : Decimal) : String :=
  let digits := (Nat.toDigits 10 decimal.digits)
  let exponent := decimal.exponent + (digits.length - 1 : Nat)
  let fraction := digits.drop 1
  .ofList (digits.take 1) ++ (if fraction.isEmpty then "" else "." ++ .ofList fraction) ++
    "e" ++ toString exponent

/-- What surrounds the digits of a number: the texts that are not digits, and the exponents from
which the digits are written in scientific form. -/
structure FloatFormat where
  nan : String
  infinity : String
  /-- Leading exponents below this one are written in scientific form. -/
  positionalFrom : Option Int
  /-- Leading exponents from this one on are written in scientific form. -/
  positionalTo : Option Int

/-- The text of a number in a format. -/
def FloatFormat.write (format : FloatFormat) (value : Float) : String :=
  let bits := value.toBits.toNat
  let sign := if bits / wordCount 63 = 1 then "-" else ""
  let magnitude := bits % wordCount 63
  if magnitude > 0x7FF0000000000000 then format.nan
  else if magnitude = 0x7FF0000000000000 then sign ++ format.infinity
  else if magnitude = 0 then sign ++ "0.0"
  else
    let decimal := shortest magnitude
    let leading := decimal.exponent + (digitCount decimal.digits - 1 : Nat)
    let scientific :=
      (format.positionalFrom.any fun first => decide (leading < first)) ||
        (format.positionalTo.any fun last => decide (leading ≥ last))
    sign ++ if scientific then decimal.scientific else decimal.positional

end Stencil.Number
