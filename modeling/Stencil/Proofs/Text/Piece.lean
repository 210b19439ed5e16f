import Mathlib.Data.List.Basic
import Stencil.Text.Piece

/-!
# Cutting at separators

How the pieces of a text come from those of its parts. A text without a separator is one piece,
putting texts side by side glues the piece at the seam (`pieces_glue`), and a separator between them
keeps the pieces apart (`pieces_separator`). Joining pieces and cutting gives them back.
-/

namespace Stencil.Text

variable {separates : Char → Bool}

/-- There is at least one piece. -/
theorem pieces_ne_nil (separates : Char → Bool) (text : List Char) :
    pieces separates text ≠ [] := by
  cases text with
  | nil => simp [pieces]
  | cons letter rest =>
      rw [pieces]
      split
      · simp
      · split <;> simp

/-- A character that does not separate belongs to the first piece. -/
theorem pieces_cons {letter : Char} (h : separates letter = false) {rest first : List Char}
    {others : List (List Char)} (hrest : pieces separates rest = first :: others) :
    pieces separates (letter :: rest) = (letter :: first) :: others := by
  simp [pieces, h, hrest]

/-- A text without a separator is one piece. -/
theorem pieces_of_clear {text : List Char} (h : ∀ letter ∈ text, separates letter = false) :
    pieces separates text = [text] := by
  induction text with
  | nil => rfl
  | cons letter rest ih =>
      exact pieces_cons (h letter List.mem_cons_self)
        (ih fun other hother => h other (List.mem_cons_of_mem _ hother))

/-- A text in which a mark does not occur is one piece between marks. -/
theorem pieces_of_notMem {mark : Char} {text : List Char} (h : mark ∉ text) :
    pieces (· == mark) text = [text] :=
  pieces_of_clear fun letter hletter => by
    simpa using fun heq : letter = mark => h (heq ▸ hletter)

/-- No piece holds a separator. -/
theorem pieces_clear {text piece : List Char} (h : piece ∈ pieces separates text) :
    ∀ letter ∈ piece, separates letter = false := by
  induction text generalizing piece with
  | nil =>
      obtain rfl : piece = [] := by simpa [pieces] using h
      simp
  | cons letter rest ih =>
      by_cases hletter : separates letter = true
      · rw [pieces, if_pos hletter] at h
        rcases List.mem_cons.1 h with rfl | h
        · simp
        · exact ih h
      · have hclear : separates letter = false := by simpa using hletter
        obtain ⟨first, others, hrest⟩ := List.exists_cons_of_ne_nil (pieces_ne_nil separates rest)
        rw [pieces_cons hclear hrest] at h
        rw [hrest] at ih
        rcases List.mem_cons.1 h with rfl | h
        · simpa [hclear] using ih List.mem_cons_self
        · exact ih (List.mem_cons_of_mem _ h)

/-- Side by side, the last piece of one text and the first of the next are one piece. -/
theorem pieces_glue {left right last first : List Char} {front back : List (List Char)}
    (hleft : pieces separates left = front ++ [last])
    (hright : pieces separates right = first :: back) :
    pieces separates (left ++ right) = front ++ (last ++ first) :: back := by
  induction left generalizing front last with
  | nil =>
      obtain ⟨rfl, rfl⟩ : front = [] ∧ last = [] := by
        cases front <;> simp_all [pieces]
      simpa using hright
  | cons letter rest ih =>
      by_cases hletter : separates letter = true
      · rw [List.cons_append, pieces, if_pos hletter]
        rw [pieces, if_pos hletter] at hleft
        cases front with
        | nil => exact absurd (List.cons.inj hleft).2 (pieces_ne_nil separates rest)
        | cons head others =>
            obtain ⟨rfl, hrest⟩ : [] = head ∧ pieces separates rest = others ++ [last] := by
              simpa using hleft
            rw [ih hrest, List.cons_append]
      · have hclear : separates letter = false := by simpa using hletter
        obtain ⟨head, others, hrest⟩ := List.exists_cons_of_ne_nil (pieces_ne_nil separates rest)
        rw [pieces_cons hclear hrest] at hleft
        rw [List.cons_append]
        cases front with
        | nil =>
            obtain ⟨rfl, rfl⟩ : letter :: head = last ∧ others = [] := by simpa using hleft
            have hglued : pieces separates (rest ++ right) = [] ++ (head ++ first) :: back :=
              ih hrest
            exact pieces_cons hclear hglued
        | cons top middle =>
            obtain ⟨rfl, rfl⟩ : letter :: head = top ∧ others = middle ++ [last] := by
              simpa using hleft
            have hglued : pieces separates (rest ++ right) =
                (head :: middle) ++ (last ++ first) :: back := ih hrest
            exact pieces_cons hclear hglued

/-- A separator keeps the pieces around it apart. -/
theorem pieces_separator {mark : Char} (h : separates mark = true) (left right : List Char) :
    pieces separates (left ++ mark :: right) = pieces separates left ++ pieces separates right := by
  obtain ⟨front, last, hleft⟩ := (List.eq_nil_or_concat (pieces separates left)).resolve_left
    (pieces_ne_nil separates left)
  rw [List.concat_eq_append] at hleft
  have hright : pieces separates (mark :: right) = [] :: pieces separates right := by
    simp [pieces, h]
  rw [pieces_glue hleft hright, hleft]
  simp

/-- Pieces that are joined and cut again are the same. -/
theorem pieces_join {mark : Char} {list : List (List Char)} (hne : list ≠ [])
    (h : ∀ piece ∈ list, mark ∉ piece) : pieces (· == mark) (join [mark] list) = list := by
  have hpiece : ∀ piece ∈ list, pieces (· == mark) piece = [piece] :=
    fun piece hpiece => pieces_of_notMem (h piece hpiece)
  induction list with
  | nil => exact absurd rfl hne
  | cons piece rest ih =>
      cases rest with
      | nil => exact hpiece piece List.mem_cons_self
      | cons second others =>
          have hrest := ih (by simp) (fun other hother => h other (List.mem_cons_of_mem _ hother))
            (fun other hother => hpiece other (List.mem_cons_of_mem _ hother))
          rw [join, List.append_assoc, List.singleton_append, pieces_separator (by simp), hrest,
            hpiece piece List.mem_cons_self, List.singleton_append]
          simp

/-- What follows the start of a text is what it was put before. -/
@[simp]
theorem dropStart_append (start rest : List Char) : dropStart? start (start ++ rest) = some rest := by
  induction start with
  | nil => rfl
  | cons letter others ih => simpa [dropStart?] using ih

/-- What follows the start of a text is there exactly if the text begins with it. -/
theorem dropStart_eq_some_iff {start text rest : List Char} :
    dropStart? start text = some rest ↔ text = start ++ rest := by
  refine ⟨fun h => ?_, fun h => h ▸ dropStart_append start rest⟩
  induction start generalizing text with
  | nil => exact Option.some.inj h
  | cons letter others ih =>
      cases text with
      | nil => cases h
      | cons first later =>
          rw [dropStart?] at h
          split at h
          · next heq =>
              obtain rfl : letter = first := by simpa using heq
              rw [ih h, List.cons_append]
          · cases h

/-- What precedes the end of a text is what it was put after. -/
@[simp]
theorem dropEnd_append (front ending : List Char) :
    dropEnd? ending (front ++ ending) = some front := by
  simp [dropEnd?]

/-- A text is cut where a mark occurs first. -/
theorem cutAt_eq_some_iff {mark : Char} {text before after : List Char} :
    cutAt mark text = some (before, after) ↔ text = before ++ mark :: after ∧ mark ∉ before := by
  induction text generalizing before with
  | nil => simp [cutAt]
  | cons letter rest ih =>
      by_cases hletter : letter = mark
      · subst hletter
        cases before with
        | nil => simp [cutAt]
        | cons first others => simp +contextual [cutAt]
      · have hdiffers : (letter == mark) = false := by simpa using hletter
        simp only [cutAt, hdiffers, Bool.false_eq_true, if_false, Option.map_eq_some_iff,
          Prod.mk.injEq, Prod.exists]
        constructor
        · rintro ⟨front, back, hcut, rfl, rfl⟩
          obtain ⟨rfl, hmark⟩ := ih.1 hcut
          simpa [Ne.symm hletter] using hmark
        · rintro ⟨heq, hmark⟩
          cases before with
          | nil => exact absurd (List.cons.inj heq).1 hletter
          | cons first others =>
              obtain ⟨rfl, rfl⟩ := List.cons.inj heq
              exact ⟨others, after,
                ih.2 ⟨rfl, fun hmem => hmark (List.mem_cons_of_mem _ hmem)⟩, rfl, rfl⟩

end Stencil.Text
