import Mathlib.Data.String.Basic

/-!
# The order of bytes

Texts that are compared character by character are in the order of their bytes: the first bytes of a
character tell how many there are, and more bytes stand for a later character (`encode_lt`), so what
follows two different characters does not count (`bytes_lt`).
-/

namespace Stencil.Text

/-- The bytes of a text. -/
def bytes (text : List Char) : List UInt8 :=
  (String.ofList text).toUTF8.data.toList

/-- The bytes of a text are those of its characters. -/
theorem bytes_eq_flatMap (text : List Char) : bytes text = text.flatMap String.utf8EncodeChar := by
  simp [bytes, List.utf8Encode]

/-- No text has no bytes. -/
@[simp]
theorem bytes_nil : bytes [] = [] :=
  rfl

/-- The bytes of the first character come first. -/
@[simp]
theorem bytes_cons (letter : Char) (rest : List Char) :
    bytes (letter :: rest) = String.utf8EncodeChar letter ++ bytes rest := by
  simp [bytes_eq_flatMap]

/-- Codes below a limit are written in their order, whatever follows. -/
def Ascends (limit : Nat) (write : Nat → List UInt8) : Prop :=
  ∀ first second, first < second → second < limit → ∀ rest others,
    write first ++ rest < write second ++ others

/-- A smaller first byte decides. -/
theorem lead_lt {first second : Nat} (h : first < second) (hsecond : second < 256)
    (rest others : List UInt8) :
    UInt8.ofNat first :: rest < UInt8.ofNat second :: others := by
  refine List.cons_lt_cons_iff.2 (.inl (UInt8.lt_iff_toNat_lt.2 ?_))
  rwa [UInt8.toNat_ofNat', UInt8.toNat_ofNat', Nat.mod_eq_of_lt (h.trans hsecond),
    Nat.mod_eq_of_lt hsecond]

/-- Codes that are written as one byte, from a base on, ascend. -/
theorem ascends_lead {limit base : Nat} (h : limit + base ≤ 256) :
    Ascends limit fun code => [UInt8.ofNat (code % limit + base)] := by
  intro first second hless hlimit rest others
  refine lead_lt ?_ ?_ rest others
  · rw [Nat.mod_eq_of_lt hlimit, Nat.mod_eq_of_lt (hless.trans hlimit)]
    omega
  · rw [Nat.mod_eq_of_lt hlimit]
    omega

/-- Codes ascend if what they are written with before the last byte does. -/
theorem Ascends.continued {limit : Nat} {write : Nat → List UInt8} (h : Ascends limit write) :
    Ascends (64 * limit) fun code => write (code / 64) ++ [UInt8.ofNat (code % 64 + 128)] := by
  intro first second hless hlimit rest others
  have hdigits : first / 64 < second / 64 ∨
      first / 64 = second / 64 ∧ first % 64 < second % 64 := by
    omega
  simp only [List.append_assoc]
  rcases hdigits with hlead | ⟨hlead, hlast⟩
  · exact h _ _ hlead (by omega) _ _
  · rw [hlead]
    exact List.append_left_lt (lead_lt (by omega) (by omega) rest others)

/-- A character has a code in the range of codes. -/
theorem code_lt (letter : Char) : letter.val.toNat < 0x110000 := by
  rcases letter.valid with h | h
  · exact h.trans (by decide)
  · exact h.2

/-- An earlier character has earlier bytes, whatever follows. -/
theorem encode_lt {first second : Char} (h : first < second) (rest others : List UInt8) :
    String.utf8EncodeChar first ++ rest < String.utf8EncodeChar second ++ others := by
  have hless : first.val.toNat < second.val.toNat := h
  have hrange := code_lt second
  have htwo := (@ascends_lead 32 192 (by decide)).continued
  have hthree := (@ascends_lead 16 224 (by decide)).continued.continued
  have hfour := (@ascends_lead 8 240 (by decide)).continued.continued.continued
  simp only [Ascends, Nat.div_div_eq_div_mul] at htwo hthree hfour
  simp only [String.utf8EncodeChar]
  generalize first.val.toNat = code at *
  generalize second.val.toNat = other at *
  -- Where the numbers of bytes differ, the first bytes do; the second text has at least as many.
  split_ifs
  all_goals try omega
  · exact lead_lt hless (by omega) rest others
  · exact lead_lt (by omega) (by omega) rest _
  · exact lead_lt (by omega) (by omega) rest _
  · exact lead_lt (by omega) (by omega) rest _
  · exact htwo code other hless (by omega) rest others
  · exact lead_lt (by omega) (by omega) _ _
  · exact lead_lt (by omega) (by omega) _ _
  · exact hthree code other hless (by omega) rest others
  · exact lead_lt (by omega) (by omega) _ _
  · exact hfour code other hless (by omega) rest others

/-- An earlier text has earlier bytes. -/
theorem bytes_lt {left right : List Char} (h : left < right) : bytes left < bytes right := by
  induction h with
  | @nil letter rest =>
      obtain ⟨first, others, hencoded⟩ :=
        List.exists_cons_of_ne_nil (String.utf8EncodeChar_ne_nil (c := letter))
      rw [bytes_nil, bytes_cons, hencoded]
      exact List.nil_lt_cons _ _
  | rel hletter =>
      rw [bytes_cons, bytes_cons]
      exact encode_lt hletter _ _
  | cons _ ih =>
      rw [bytes_cons, bytes_cons]
      exact List.append_left_lt ih

/-- A text that comes before another one has earlier bytes. -/
theorem bytes_lt_of_le {left right : List Char} (h : String.ofList left ≤ String.ofList right)
    (hne : left ≠ right) : bytes left < bytes right := by
  rw [String.le_iff_toList_le, String.toList_ofList, String.toList_ofList] at h
  exact bytes_lt (lt_of_le_of_ne h hne)

end Stencil.Text
