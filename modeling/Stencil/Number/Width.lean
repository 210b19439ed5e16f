/-!
# Widths of integers

The integers that a word of a number of bits holds. With a sign, one bit is spent on it.
-/

namespace Stencil.Number

/-- The number of values of a word of `bits` bits. -/
def wordCount (bits : Nat) : Nat := Nat.pow 2 bits

/-- A word of `bits` bits holds the integer with a sign. -/
def fitsSigned (bits : Nat) (value : Int) : Bool :=
  -Int.ofNat (wordCount (bits - 1)) ≤ value && value < Int.ofNat (wordCount (bits - 1))

/-- A word of `bits` bits holds the integer without a sign. -/
def fitsUnsigned (bits : Nat) (value : Int) : Bool :=
  0 ≤ value && value < Int.ofNat (wordCount bits)

end Stencil.Number
