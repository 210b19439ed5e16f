/-!
# Encodings of documents

The characters of a document that is given as bytes. A byte order mark of UTF-16 tells that
encoding and the order of its bytes; every other document is UTF-8. The mark itself is no part of
the document.
-/

namespace Stencil.Yaml

/-- Which byte of a unit of two bytes comes first. -/
inductive ByteOrder where
  | lowFirst
  | highFirst

/-- The unit that two bytes make. -/
def ByteOrder.unit (order : ByteOrder) (first second : UInt8) : Nat :=
  match order with
  | .lowFirst => second.toNat * 0x100 + first.toNat
  | .highFirst => first.toNat * 0x100 + second.toNat

/-- The units that bytes make. No byte may be left over. -/
def ByteOrder.units? (order : ByteOrder) : List UInt8 → Option (List Nat)
  | [] => some []
  | [_] => none
  | first :: second :: rest => (order.units? rest).map (order.unit first second :: ·)

/-- The unit is the first half of a character of two units. -/
def isHighHalf (unit : Nat) : Bool := 0xD800 ≤ unit && unit ≤ 0xDBFF

/-- The unit is the second half of a character of two units. -/
def isLowHalf (unit : Nat) : Bool := 0xDC00 ≤ unit && unit ≤ 0xDFFF

/-- The characters that units stand for. Halves occur in pairs only. -/
def charsOfUnits? : List Nat → Option (List Char)
  | [] => some []
  | [unit] => if isHighHalf unit || isLowHalf unit then none else some [Char.ofNat unit]
  | high :: low :: rest =>
    if isHighHalf high then
      if isLowHalf low then
        let letter := Char.ofNat (0x10000 + (high - 0xD800) * 0x400 + (low - 0xDC00))
        (charsOfUnits? rest).map (letter :: ·)
      else none
    else if isLowHalf high then none
    else (charsOfUnits? (low :: rest)).map (Char.ofNat high :: ·)

/-- A text without the byte order mark before it. -/
def withoutMark : List Char → List Char
  | '\uFEFF' :: rest => rest
  | text => text

/-- The characters of the document in bytes. -/
def decode? : List UInt8 → Option (List Char)
  | 0xFF :: 0xFE :: rest => (ByteOrder.lowFirst.units? rest).bind charsOfUnits?
  | 0xFE :: 0xFF :: rest => (ByteOrder.highFirst.units? rest).bind charsOfUnits?
  | bytes => (String.fromUTF8? ⟨bytes.toArray⟩).map fun text => withoutMark text.toList

end Stencil.Yaml
