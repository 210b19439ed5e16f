import Mathlib.Data.List.Infix
import Stencil.Proofs.Section.Marker

/-!
# Texts that close no section

A section is closed by a line that holds the token for it, so a text without the token closes none.
A text that grows at its end can come to hold the token within what is added or across the place
where the two meet. After static text that settles (`Quiet.settled`), whatever is inserted leaves the
text without the token, as long as the token without its first slash is nowhere in what is inserted
(`Calm.inserted`).
-/

namespace Stencil.Section

open Text (Line EndsLine Whole cutTerminator)

/-- The text does not hold the token that closes a section. -/
def Quiet (text : List Char) : Prop :=
  ¬ endToken <:+: text

/-- The text does not hold the token that closes a section, and if it ends like the start of one,
then with its first slash only. -/
structure Calm (text : List Char) : Prop where
  quiet : Quiet text
  begun : ∀ start, start <:+ text → start <+: endToken → start.length ≤ 1

/-- The text has no part that a slash turns into the token that closes a section. -/
def Tame (text : List Char) : Prop :=
  ¬ endToken.tail <:+: text

instance (text : List Char) : Decidable (Quiet text) :=
  inferInstanceAs (Decidable (¬ endToken <:+: text))

instance (text : List Char) : Decidable (Tame text) :=
  inferInstanceAs (Decidable (¬ endToken.tail <:+: text))

variable {before text name : List Char} {line : Line}

/-- A line is what is cut off it after what is left. -/
theorem cut_parts (line : Line) : (cutTerminator line).1 ++ (cutTerminator line).2 = line := by
  have hparts (rest ending : List Char) (h : line.reverse = ending.reverse ++ rest) :
      rest.reverse ++ ending = line := by
    rw [← List.reverse_reverse line, h, List.reverse_append, List.reverse_reverse]
  unfold cutTerminator
  split
  · next rest heq => exact hparts rest ['\r', '\n'] heq
  · next rest _ heq => exact hparts rest ['\n'] heq
  · exact List.append_nil line

/-- No text is calm. -/
theorem Calm.nil : Calm [] where
  quiet := by decide
  begun start hstart _ := by
    rw [List.suffix_nil.1 hstart]
    exact Nat.zero_le 1

/-- A calm text with a tame one after it does not hold the token. -/
theorem Calm.inserted (h : Calm before) (htext : Tame text) : Quiet (before ++ text) := by
  intro htoken
  have htail : endToken.tail <:+ endToken := List.tail_suffix _
  rcases List.infix_append_iff_ne_nil.1 htoken with
    hbefore | hin | ⟨start, rest, hne, -, heq, hacross⟩
  · exact h.quiet hbefore
  · exact htext (htail.isInfix.trans hin)
  · -- Across the place where they meet, the first slash stands before it and the others after it.
    have hshort : start.length ≤ 1 := h.begun start hacross.1 ⟨rest, heq.symm⟩
    obtain ⟨letter, rfl⟩ : ∃ letter, start = [letter] :=
      List.length_eq_one_iff.1 (by have := List.length_pos_of_ne_nil hne; omega)
    refine htext ?_
    rw [heq]
    exact hacross.2.isInfix

/-- No part of the token that closes a section can be completed or begun by the text, nor can the
text stand inside it. -/
def settles (text : List Char) : Bool :=
  decide (Quiet text) && (List.range' 1 13).all fun count =>
    !(endToken.drop count).isPrefixOf text && !text.isPrefixOf (endToken.drop count) &&
      !(endToken.take (count + 1)).isSuffixOf text

/-- A text without the token is calm after a text that settles it. -/
theorem Quiet.settled (h : Quiet before) (hsettles : settles text = true) :
    Calm (before ++ text) := by
  simp only [settles, Bool.and_eq_true, decide_eq_true_eq, List.all_eq_true,
    List.mem_range'_1, Bool.not_eq_true', Bool.eq_false_iff, ne_eq, List.isPrefixOf_iff_prefix,
    List.isSuffixOf_iff_suffix] at hsettles
  obtain ⟨hquiet, hparts⟩ := hsettles
  have hlength : endToken.length = 14 := by decide
  constructor
  · intro htoken
    rcases List.infix_append_iff_ne_nil.1 htoken with
      hbefore | hin | ⟨start, rest, hstart, hrest, heq, hacross⟩
    · exact h hbefore
    · exact hquiet hin
    · have hsum : start.length + rest.length = 14 := by
        rw [← List.length_append, ← heq, hlength]
      have hpos := List.length_pos_of_ne_nil hstart
      have hpos' := List.length_pos_of_ne_nil hrest
      refine (hparts start.length ⟨hpos, by omega⟩).1.1 ?_
      rw [heq, List.drop_left]
      exact hacross.2
  · intro start hstart hbegun
    by_contra hlong
    have hle : start.length ≤ 14 := hlength ▸ hbegun.length_le
    by_cases hin : start <:+ text
    · refine (hparts (start.length - 1) ⟨by omega, by omega⟩).2 ?_
      rw [Nat.sub_add_cancel (by omega), ← List.prefix_iff_eq_take.1 hbegun]
      exact hin
    · -- The text stands inside the token, after a part of it.
      obtain ⟨front, rfl⟩ := (List.suffix_or_suffix_of_suffix hstart
        (List.suffix_append before text)).resolve_left hin
      have hfront : front ≠ [] := by
        rintro rfl
        exact hin List.suffix_rfl
      have htext : text ≠ [] := by
        rintro rfl
        exact (hparts 1 (by decide)).1.2 List.nil_prefix
      have hpos := List.length_pos_of_ne_nil hfront
      have hpos' := List.length_pos_of_ne_nil htext
      rw [List.length_append] at hle
      refine (hparts front.length ⟨hpos, by omega⟩).1.2 ?_
      obtain ⟨rest, hrest⟩ := hbegun
      rw [← hrest, List.append_assoc, List.drop_left]
      exact List.prefix_append _ _

/-- What is known of a text that grows. -/
inductive Level where
  | quiet
  | calm
  /-- Calm, and at the end of a line. -/
  | fresh
deriving DecidableEq, Repr

namespace Level

/-- What a level says of a text. Of tokens it says something only if all that is inserted is
tame. -/
def Holds (tame : Prop) (text : List Char) : Level → Prop
  | .quiet => tame → Quiet text
  | .calm => tame → Calm text
  | .fresh => (tame → Calm text) ∧ Whole text

/-- How much a level says. -/
def rank : Level → Nat
  | .quiet => 0
  | .calm => 1
  | .fresh => 2

/-- What is known in either case. -/
def least (first second : Level) : Level :=
  if first.rank ≤ second.rank then first else second

/-- What is known after static text, whatever was known before. -/
def after? (text : List Char) : Option Level :=
  if settles text then some (if EndsLine text then .fresh else .calm) else none

variable {tame : Prop} {level other : Level}

/-- At every level the text is without the token. -/
theorem Holds.quiet (h : level.Holds tame text) (htame : tame) : Quiet text := by
  cases level with
  | quiet => exact h htame
  | calm => exact (h htame).quiet
  | fresh => exact (h.1 htame).quiet

/-- At every level but the lowest the text is calm. -/
theorem Holds.calm (h : level.Holds tame text) (hlevel : level ≠ .quiet) (htame : tame) :
    Calm text := by
  cases level with
  | quiet => exact absurd rfl hlevel
  | calm => exact h htame
  | fresh => exact h.1 htame

/-- A level says what those below it say. -/
theorem Holds.lower (h : level.Holds tame text) (hrank : other.rank ≤ level.rank) :
    other.Holds tame text := by
  cases other with
  | quiet => exact h.quiet
  | calm =>
      refine h.calm ?_
      rintro rfl
      simp [rank] at hrank
  | fresh =>
      cases level with
      | fresh => exact h
      | quiet | calm => simp [rank] at hrank

/-- What is known in either case is known in the first. -/
theorem Holds.least_left (h : level.Holds tame text) : (level.least other).Holds tame text := by
  refine h.lower ?_
  rw [least]
  split <;> omega

/-- What is known in either case is known in the second. -/
theorem Holds.least_right (h : other.Holds tame text) : (level.least other).Holds tame text := by
  refine h.lower ?_
  rw [least]
  split <;> omega

/-- Static text leads to its level. -/
theorem Holds.after (h : level.Holds tame before) (hafter : after? text = some other) :
    other.Holds tame (before ++ text) := by
  rw [after?, Option.ite_none_right_eq_some] at hafter
  obtain ⟨hsettles, hlevel⟩ := hafter
  have hcalm : tame → Calm (before ++ text) := fun htame => (h.quiet htame).settled hsettles
  obtain rfl := Option.some.inj hlevel
  split
  · next hends => exact ⟨hcalm, Text.ends_lines (List.mem_getLast?_append_of_mem_getLast? hends)⟩
  · exact hcalm

end Level

end Stencil.Section
