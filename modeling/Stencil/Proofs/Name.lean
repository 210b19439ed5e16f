import Mathlib
import Stencil.Name
import Stencil.Proofs.Text.Piece

/-!
# External names and Pascal case

The external name of a declared field says as much about its type as the declared name does: within
ASCII both have the same Pascal case (`pascalCase_externalName`). An external name puts an
underscore before each capital and lowers it; Pascal case drops underscores and raises the letters
after them. The two cut a name in different places, so they are compared from every letter on,
whether a piece starts there or goes on (`pascalFrom_continued`).
-/

namespace Stencil.Name

open Text (isUpperChar lower lowerAfter pieces upperChar)

/-- All letters of the text are in ASCII. -/
def IsAscii (text : List Char) : Prop := ∀ letter ∈ text, letter.val < 128

instance (text : List Char) : Decidable (IsAscii text) :=
  List.decidableBAll (fun letter : Char => letter.val < 128) text

/-- The texts are the same apart from the case of the first letter. -/
def SameButInitialCase (first second : List Char) : Prop :=
  first.tail = second.tail ∧ first.head?.map Char.toLower = second.head?.map Char.toLower

/-- A text in ASCII with a letter in front. -/
theorem isAscii_cons {letter : Char} {rest : List Char} :
    IsAscii (letter :: rest) ↔ letter.val < 128 ∧ IsAscii rest :=
  List.forall_mem_cons

section Pascal

/-- Pascal case from a letter on, where a piece starts or goes on. -/
def pascalFrom : (starts : Bool) → List Char → List Char
  | _, [] => []
  | starts, letter :: rest =>
    if letter = '_' then pascalFrom true rest
    else (if starts then upperChar letter else [letter]) ++ pascalFrom false rest

/-- From a letter on, the first piece is kept if it goes on there, and all others are
capitalized. -/
theorem pascalFrom_pieces {text first : List Char} {others : List (List Char)}
    (h : pieces (· == '_') text = first :: others) :
    pascalFrom true text = capitalize first ++ others.flatMap capitalize ∧
      pascalFrom false text = first ++ others.flatMap capitalize := by
  induction text generalizing first others with
  | nil =>
      obtain ⟨rfl, rfl⟩ := List.cons.inj h
      exact ⟨rfl, rfl⟩
  | cons letter rest ih =>
      obtain ⟨head, tail, hrest⟩ :=
        List.exists_cons_of_ne_nil (Text.pieces_ne_nil (· == '_') rest)
      by_cases hletter : letter = '_'
      · subst hletter
        rw [pieces, if_pos (by simp)] at h
        obtain ⟨rfl, rfl⟩ := List.cons.inj h
        simpa [pascalFrom, capitalize, hrest] using (ih hrest).1
      · rw [Text.pieces_cons (by simpa using hletter) hrest] at h
        obtain ⟨rfl, rfl⟩ := List.cons.inj h
        simp [pascalFrom, hletter, capitalize, (ih hrest).2]

/-- At the start of a text a piece starts. -/
theorem pascal_eq_pascalFrom (text : List Char) : pascal text = pascalFrom true text := by
  obtain ⟨first, others, h⟩ := List.exists_cons_of_ne_nil (Text.pieces_ne_nil (· == '_') text)
  rw [pascal, h, List.flatMap_cons, (pascalFrom_pieces h).1]

/-- A text without underscores is one piece. -/
theorem pascal_of_notMem {text : List Char} (h : '_' ∉ text) : pascal text = capitalize text := by
  rw [pascal, Text.pieces_of_notMem h, List.flatMap_singleton]

end Pascal

section External

/-- The upper case of a letter of ASCII is one letter. -/
theorem upperChar_ascii {letter : Char} (h : letter.val < 128) :
    upperChar letter = [letter.toUpper] :=
  if_pos h

/-- A letter of ASCII is in upper case exactly if it is a capital. -/
theorem isUpperChar_ascii {letter : Char} (h : letter.val < 128) :
    isUpperChar letter = letter.isUpper :=
  if_pos h

/-- The lower case of a letter of ASCII is in ASCII. -/
theorem toLower_ascii {letter : Char} (h : letter.val < 128) : letter.toLower.val < 128 := by
  unfold Char.toLower
  split
  · next hupper =>
      simp only [ge_iff_le, UInt32.le_iff_toNat_le, UInt32.lt_iff_toNat_lt] at hupper h ⊢
      simp at hupper h ⊢
      omega
  · exact h

/-- In ASCII the lower case of a text is that of its letters. -/
theorem lower_ascii {text : List Char} (h : IsAscii text) : lower text = text.map Char.toLower := by
  have hafter : ∀ before, lowerAfter before text = text.map Char.toLower := by
    induction text with
    | nil => exact fun _ => rfl
    | cons letter rest ih =>
        obtain ⟨hletter, hrest⟩ := isAscii_cons.1 h
        have hsigma : letter ≠ 'Σ' := by
          rintro rfl
          exact absurd hletter (by decide)
        intro before
        simp [lowerAfter, hsigma, Text.lowerChar, hletter, ih hrest]
  exact hafter []

/-- A capital is no underscore in lower case. -/
theorem toLower_ne_underscore {letter : Char} (h : letter.isUpper = true) :
    letter.toLower ≠ '_' := by
  intro heq
  have halpha := Char.isLower_toLower_eq_isAlpha letter
  have hmark : '_'.isLower = false := rfl
  rw [heq, hmark, Char.isAlpha, h, Bool.true_or] at halpha
  cases halpha

/-- The external name of what comes after a letter: a capital gets an underscore in front. -/
def continued : List Char → List Char
  | [] => []
  | letter :: rest =>
    if isUpperChar letter then '_' :: external (letter :: rest) else external (letter :: rest)

/-- A letter in front of the first of several pieces comes first when they are joined. -/
theorem join_cons (separator : List Char) (letter : Char) (piece : List Char)
    (others : List (List Char)) :
    Text.join separator ((letter :: piece) :: others) =
      letter :: Text.join separator (piece :: others) := by
  cases others <;> rfl

/-- Before a further letter there are one or more humps, and a capital starts one more. -/
theorem humps_cons (letter next : Char) (later : List Char) :
    ∃ hump others, humps (next :: later) = hump :: others ∧
      humps (letter :: next :: later) =
        if isUpperChar next then [letter] :: hump :: others else (letter :: hump) :: others := by
  have hne : humps (next :: later) ≠ [] := by
    unfold humps
    split
    · split <;> simp
    · simp
  obtain ⟨hump, others, hnext⟩ := List.exists_cons_of_ne_nil hne
  exact ⟨hump, others, hnext, humps.eq_2 letter next later hump others hnext⟩

/-- The humps of a text have its letters. -/
theorem flatten_humps (text : List Char) : (humps text).flatten = text := by
  induction text with
  | nil => rfl
  | cons letter rest ih =>
      cases rest with
      | nil => rfl
      | cons next later =>
          obtain ⟨hump, others, hnext, hletter⟩ := humps_cons letter next later
          rw [hnext] at ih
          rw [hletter, ← ih]
          split <;> rfl

/-- An external name starts with the first letter in lower case. -/
theorem external_cons {letter : Char} {rest : List Char} (h : IsAscii (letter :: rest)) :
    external (letter :: rest) = letter.toLower :: continued rest := by
  have hletter : lower [letter] = [letter.toLower] :=
    lower_ascii (isAscii_cons.2 ⟨(isAscii_cons.1 h).1, by simp [IsAscii]⟩)
  cases rest with
  | nil => simp [external, humps, Text.join, continued, hletter]
  | cons next later =>
      obtain ⟨hump, others, hnext, hhumps⟩ := humps_cons letter next later
      have hflatten : hump ++ others.flatten = next :: later := by
        rw [← flatten_humps (next :: later), hnext, List.flatten_cons]
      have hhump : IsAscii (letter :: hump) := by
        rw [← hflatten, isAscii_cons] at h
        exact isAscii_cons.2 ⟨h.1, fun other hother => h.2 other (List.mem_append_left _ hother)⟩
      rw [continued, external, hhumps, external, hnext]
      split
      · simp [Text.join, hletter]
      · rw [List.map_cons, lower_ascii hhump, List.map_cons, join_cons, List.map_cons,
          lower_ascii (isAscii_cons.1 hhump).2]

/-- From any letter of an external name on, Pascal case is the same as from the letter of the
declared name that it stands for. -/
theorem pascalFrom_continued {text : List Char} (h : IsAscii text) (starts : Bool) :
    pascalFrom starts (continued text) = pascalFrom starts text := by
  induction text generalizing starts with
  | nil => rfl
  | cons letter rest ih =>
      obtain ⟨hletter, hrest⟩ := isAscii_cons.1 h
      rw [continued, isUpperChar_ascii hletter, external_cons h]
      by_cases hupper : letter.isUpper = true
      · -- The underscore starts a piece, which raises the letter again.
        have hraised : letter.toUpper = letter :=
          Char.toUpper_eq_of_not_isLower (Char.not_isLower_of_isUpper hupper)
        have hmark : letter ≠ '_' := by
          rintro rfl
          exact absurd hupper (by decide)
        rw [if_pos hupper, pascalFrom, if_pos rfl, pascalFrom,
          if_neg (toLower_ne_underscore hupper), if_pos rfl,
          upperChar_ascii (toLower_ascii hletter), Char.toUpper_toLower_eq_toUpper, ih hrest,
          pascalFrom, if_neg hmark, upperChar_ascii hletter, hraised, ite_self]
      · rw [if_neg hupper, Char.toLower_eq_of_not_isUpper hupper, pascalFrom, pascalFrom,
          ih hrest, ih hrest]

/-- In ASCII the external name of a name has the Pascal case of the name. -/
theorem pascal_external {name : List Char} (h : IsAscii name) :
    pascal (external name) = pascal name := by
  cases name with
  | nil => rfl
  | cons letter rest =>
      obtain ⟨hletter, hrest⟩ := isAscii_cons.1 h
      rw [pascal_eq_pascalFrom, pascal_eq_pascalFrom, external_cons h, pascalFrom, pascalFrom,
        if_pos rfl, if_pos rfl, upperChar_ascii (toLower_ascii hletter), upperChar_ascii hletter,
        Char.toUpper_toLower_eq_toUpper, pascalFrom_continued hrest, pascalFrom_continued hrest]
      by_cases hupper : letter.isUpper = true
      · have hmark : letter ≠ '_' := by
          rintro rfl
          exact absurd hupper (by decide)
        rw [if_neg (toLower_ne_underscore hupper), if_neg hmark]
      · rw [Char.toLower_eq_of_not_isUpper hupper]

/-- In ASCII, texts are capitalized alike exactly if they are the same apart from the case of the
first letter. -/
theorem capitalize_eq_iff {first second : List Char} (hfirst : IsAscii first)
    (hsecond : IsAscii second) :
    capitalize first = capitalize second ↔ SameButInitialCase first second := by
  have hcase {letter other : Char} :
      letter.toUpper = other.toUpper ↔ letter.toLower = other.toLower := by
    constructor <;> intro heq
    · rw [← Char.toLower_toUpper_eq_toLower, heq, Char.toLower_toUpper_eq_toLower]
    · rw [← Char.toUpper_toLower_eq_toUpper, heq, Char.toUpper_toLower_eq_toUpper]
  cases first with
  | nil =>
      cases second with
      | nil => simp [SameButInitialCase]
      | cons other others =>
          simp [SameButInitialCase, capitalize, upperChar_ascii (isAscii_cons.1 hsecond).1]
  | cons letter rest =>
      have hletter := upperChar_ascii (isAscii_cons.1 hfirst).1
      cases second with
      | nil => simp [SameButInitialCase, capitalize, hletter]
      | cons other others =>
          have hother := upperChar_ascii (isAscii_cons.1 hsecond).1
          simp [SameButInitialCase, capitalize, hletter, hother, hcase, and_comm]

/-- In ASCII, the case of the first letter of a name does not matter for the external name. -/
theorem external_congr {first second : List Char} (hfirst : IsAscii first)
    (hsecond : IsAscii second) (h : SameButInitialCase first second) :
    external first = external second := by
  obtain ⟨hrest, hinitial⟩ := h
  cases first with
  | nil =>
      cases second with
      | nil => rfl
      | cons other others => cases hinitial
  | cons letter rest =>
      cases second with
      | nil => cases hinitial
      | cons other others =>
          obtain rfl : rest = others := hrest
          rw [external_cons hfirst, external_cons hsecond, Option.some.inj hinitial]

end External

/-- Within ASCII a name and the external name that is derived from it have the same Pascal case. So
names without underscores have the same external name exactly if they are the same apart from the
case of the first letter. -/
theorem pascalCase_externalName :
    (∀ name : String, IsAscii name.toList → pascalCase (externalName name) = pascalCase name) ∧
      ∀ first second : String, IsAscii first.toList → IsAscii second.toList →
        '_' ∉ first.toList → '_' ∉ second.toList →
        (externalName first = externalName second ↔
          SameButInitialCase first.toList second.toList) := by
  have hsame : ∀ name : String, IsAscii name.toList →
      pascalCase (externalName name) = pascalCase name := by
    intro name h
    rw [pascalCase, externalName, String.toList_ofList, pascal_external h, pascalCase]
  refine ⟨hsame, fun first second hfirst hsecond hplain hclear =>
    ⟨fun hexternal => ?_, fun h => ?_⟩⟩
  · have hpascal : pascalCase first = pascalCase second := by
      rw [← hsame first hfirst, hexternal, hsame second hsecond]
    rw [pascalCase, pascalCase, pascal_of_notMem hplain, pascal_of_notMem hclear] at hpascal
    exact (capitalize_eq_iff hfirst hsecond).1 (String.ofList_injective hpascal)
  · rw [externalName, externalName, external_congr hfirst hsecond h]

/-- Underscores around a capital leave empty pieces, and an acronym falls apart. -/
theorem pascalCase_externalName_acronym :
    (IsAscii "_aB__CPort".toList ∧ externalName "_aB__CPort" = "_a_b___c_port" ∧
      pascalCase (externalName "_aB__CPort") = pascalCase "_aB__CPort") ∧
    (IsAscii "HTTPPort".toList ∧ IsAscii "hTTPPort".toList ∧ '_' ∉ "HTTPPort".toList ∧
      '_' ∉ "hTTPPort".toList ∧ externalName "HTTPPort" = "h_t_t_p_port" ∧
      (externalName "HTTPPort" = externalName "hTTPPort" ↔
        SameButInitialCase "HTTPPort".toList "hTTPPort".toList)) :=
  ⟨⟨by decide, by decide, pascalCase_externalName.1 _ (by decide)⟩,
    by decide, by decide, by decide, by decide, by decide,
    pascalCase_externalName.2 _ _ (by decide) (by decide) (by decide) (by decide)⟩

end Stencil.Name
