import Mathlib.Data.List.Basic
import Stencil.Template.Library

/-!
# Messages with places

How a message is filled. `Text.Cut` cuts a message at its places from left to right: the first cut
is where a place occurs leftmost, and the text after that place is cut in the same way. Each message
is cut in exactly one way (`Text.existsUnique_cut`), and filling puts the arguments between the
pieces (`Text.fillPlaces_cut`), so the text of an argument is never looked at. `fail_exact` says this
of the failure that a template reports.
-/

namespace Stencil.Text

/-- The place of an argument in a message. -/
def place : List Char :=
  ['{', '}']

/-- A place after the front is the leftmost one: none occurs earlier. -/
def Leftmost (front rest : List Char) : Prop :=
  ∀ earlier, earlier ++ place <+: front ++ (place ++ rest) → front.length ≤ earlier.length

/-- The pieces of a message between its places, which are taken from left to right and do not
overlap. -/
inductive Cut : (message : List Char) → (pieces : List (List Char)) → Prop where
  /-- A message without a place is one piece. -/
  | whole {message : List Char} (h : ¬ place <:+: message) : Cut message [message]
  /-- A message is cut at its leftmost place, and then what follows that place. -/
  | split {front rest : List Char} {pieces : List (List Char)} (leftmost : Leftmost front rest)
      (hrest : Cut rest pieces) : Cut (front ++ (place ++ rest)) (front :: pieces)

/-- Pieces put together, with the text `fill i` after piece `i` unless it is the last one. -/
def interleave (fill : Nat → List Char) : (pieces : List (List Char)) → List Char
  | [] => []
  | [piece] => piece
  | piece :: others => piece ++ fill 0 ++ interleave (fun index => fill (index + 1)) others

/-- The text of an argument, or a place where there is none. -/
def argumentAt (arguments : List (List Char)) (index : Nat) : List Char :=
  arguments[index]?.getD place

/-- The text after the first piece stands before the others. -/
theorem interleave_cons (fill : Nat → List Char) (piece : List Char) {others : List (List Char)}
    (h : others ≠ []) :
    interleave fill (piece :: others) =
      piece ++ fill 0 ++ interleave (fun index => fill (index + 1)) others := by
  rw [interleave]
  exact h

/-- What is known of a cut: there is no place, or the first piece ends at the leftmost one. -/
theorem Cut.inv {message : List Char} {pieces : List (List Char)} (h : Cut message pieces) :
    (¬ place <:+: message ∧ pieces = [message]) ∨
      ∃ front rest others, message = front ++ (place ++ rest) ∧ pieces = front :: others ∧
        Leftmost front rest ∧ Cut rest others := by
  cases h with
  | whole hnone => exact .inl ⟨hnone, rfl⟩
  | split leftmost hrest => exact .inr ⟨_, _, _, rfl, rfl, leftmost, hrest⟩

/-- A message is cut into at least one piece. -/
theorem Cut.ne_nil {message : List Char} {pieces : List (List Char)} (h : Cut message pieces) :
    pieces ≠ [] := by
  cases h <;> simp

/-- A message with a place has a leftmost one. -/
theorem exists_leftmost {message : List Char} (h : place <:+: message) :
    ∃ front rest, message = front ++ (place ++ rest) ∧ Leftmost front rest := by
  induction message with
  | nil => simp [place] at h
  | cons letter others ih =>
      by_cases hstart : place <+: letter :: others
      · obtain ⟨rest, hrest⟩ := hstart
        exact ⟨[], rest, hrest.symm, fun earlier _ => Nat.zero_le _⟩
      · obtain ⟨front, rest, rfl, hleftmost⟩ :=
          ih ((List.infix_cons_iff.1 h).resolve_left hstart)
        refine ⟨letter :: front, rest, rfl, fun earlier hearlier => ?_⟩
        cases earlier with
        | nil => exact absurd hearlier hstart
        | cons first later =>
            have hlater := (List.cons_prefix_cons.1 hearlier).2
            simpa using hleftmost later hlater

/-- After a text without a place, a place is the leftmost one: it cannot start in that text, since
its two letters differ. -/
theorem leftmost_of_clear {front : List Char} (h : ¬ place <:+: front) (rest : List Char) :
    Leftmost front rest := by
  induction front with
  | nil => exact fun earlier _ => Nat.zero_le _
  | cons letter others ih =>
      rw [List.infix_cons_iff, not_or] at h
      intro earlier hearlier
      cases earlier with
      | nil =>
          cases others with
          | nil => simp [place] at hearlier
          | cons second later =>
              obtain ⟨rfl, rfl⟩ : '{' = letter ∧ '}' = second := by simpa [place] using hearlier
              exact absurd ⟨later, rfl⟩ h.1
      | cons first later =>
          simpa using ih h.2 later (List.cons_prefix_cons.1 hearlier).2

/-- The leftmost place is where it is. -/
theorem Leftmost.unique {front rest other after : List Char} (h : Leftmost front rest)
    (hother : Leftmost other after)
    (heq : front ++ (place ++ rest) = other ++ (place ++ after)) :
    front = other ∧ rest = after := by
  have hle : front.length ≤ other.length := h other (heq ▸ ⟨after, by simp⟩)
  have hge : other.length ≤ front.length := hother front (heq ▸ ⟨rest, by simp⟩)
  obtain ⟨hfront, hrest⟩ := List.append_inj heq (Nat.le_antisymm hle hge)
  exact ⟨hfront, List.append_cancel_left hrest⟩

/-- A message is cut in at most one way. -/
theorem Cut.unique {message : List Char} {pieces other : List (List Char)}
    (h : Cut message pieces) (hother : Cut message other) : other = pieces := by
  induction h generalizing other with
  | whole hnone =>
      rcases hother.inv with ⟨-, rfl⟩ | ⟨front, rest, others, rfl, -, -⟩
      · rfl
      · exact absurd (List.infix_append' front place rest) hnone
  | split leftmost hrest ih =>
      rcases hother.inv with ⟨hnone, -⟩ | ⟨front, rest, others, heq, rfl, hfront, hothers⟩
      · exact absurd (List.infix_append' _ _ _) hnone
      · obtain ⟨rfl, rfl⟩ := leftmost.unique hfront heq
        rw [ih hothers]

/-- A message is cut in exactly one way. -/
theorem existsUnique_cut (message : List Char) :
    ∃ pieces, Cut message pieces ∧ ∀ other, Cut message other → other = pieces := by
  suffices hexists : ∃ pieces, Cut message pieces by
    obtain ⟨pieces, hpieces⟩ := hexists
    exact ⟨pieces, hpieces, fun other hother => hpieces.unique hother⟩
  -- What follows the leftmost place is shorter than the message.
  induction hlength : message.length using Nat.strongRecOn generalizing message with
  | ind length ih =>
      by_cases hplace : place <:+: message
      · obtain ⟨front, rest, rfl, hleftmost⟩ := exists_leftmost hplace
        have hshorter : rest.length < length := by
          rw [← hlength, List.length_append, List.length_append, place]
          simp only [List.length_cons, List.length_nil]
          omega
        obtain ⟨pieces, hpieces⟩ := ih rest.length hshorter rest rfl
        exact ⟨front :: pieces, .split hleftmost hpieces⟩
      · exact ⟨[message], .whole hplace⟩

/-- A letter that does not start a place stays as it is. -/
theorem fillPlaces_cons {letter : Char} {rest : List Char} (arguments : List (List Char))
    (h : ¬ place <+: letter :: rest) :
    fillPlaces (letter :: rest) arguments = letter :: fillPlaces rest arguments := by
  rw [fillPlaces]
  all_goals
    intros
    subst_vars
    exact h ⟨_, rfl⟩

/-- A message without a place stays as it is. -/
theorem fillPlaces_whole {message : List Char} (h : ¬ place <:+: message)
    (arguments : List (List Char)) : fillPlaces message arguments = message := by
  induction message with
  | nil => simp [fillPlaces]
  | cons letter rest ih =>
      rw [List.infix_cons_iff, not_or] at h
      rw [fillPlaces_cons arguments h.1, ih h.2]

/-- A place takes the first argument, or stays as it is if there is none. -/
theorem fillPlaces_place (rest : List Char) (arguments : List (List Char)) :
    fillPlaces (place ++ rest) arguments =
      argumentAt arguments 0 ++ fillPlaces rest arguments.tail := by
  cases arguments <;> simp [place, fillPlaces, argumentAt]

/-- What stands before the leftmost place stays as it is. -/
theorem fillPlaces_front {front rest : List Char} (h : Leftmost front rest)
    (arguments : List (List Char)) :
    fillPlaces (front ++ (place ++ rest)) arguments =
      front ++ argumentAt arguments 0 ++ fillPlaces rest arguments.tail := by
  induction front with
  | nil => simpa using fillPlaces_place rest arguments
  | cons letter others ih =>
      have hstart : ¬ place <+: letter :: (others ++ (place ++ rest)) :=
        fun hplace => absurd (h [] hplace) (by simp)
      have hothers : Leftmost others rest := fun earlier hearlier => by
        simpa using h (letter :: earlier) (List.cons_prefix_cons.2 ⟨rfl, hearlier⟩)
      rw [List.cons_append, fillPlaces_cons arguments hstart, ih hothers]
      simp

/-- The arguments after the first are those of the places after the first. -/
theorem argumentAt_tail (arguments : List (List Char)) (index : Nat) :
    argumentAt arguments.tail index = argumentAt arguments (index + 1) := by
  cases arguments <;> rfl

/-- A filled message is its pieces with the arguments between them. -/
theorem fillPlaces_cut {message : List Char} {pieces : List (List Char)} (h : Cut message pieces)
    (arguments : List (List Char)) :
    fillPlaces message arguments = interleave (argumentAt arguments) pieces := by
  induction h generalizing arguments with
  | whole hnone => exact fillPlaces_whole hnone arguments
  | split leftmost hrest ih =>
      rw [fillPlaces_front leftmost, ih]
      rw [interleave_cons _ _ hrest.ne_nil, funext (argumentAt_tail arguments)]

/-- Only the texts that stand between two pieces count. -/
theorem interleave_congr {first second : Nat → List Char} {pieces : List (List Char)}
    (h : ∀ index, index + 1 < pieces.length → first index = second index) :
    interleave first pieces = interleave second pieces := by
  induction pieces generalizing first second with
  | nil => rfl
  | cons piece others ih =>
      by_cases hothers : others = []
      · rw [hothers, interleave, interleave]
      · have hfirst : first 0 = second 0 := h 0 (by simpa using List.length_pos_iff.2 hothers)
        have hrest := ih fun index hindex => h (index + 1) (by simpa using hindex)
        rw [interleave_cons _ _ hothers, interleave_cons _ _ hothers, hfirst, hrest]

end Stencil.Text

namespace Stencil.Template.Library

/-- A failure reports its message, filled with the printed arguments. -/
theorem fail_text (message : String) (arguments : List Value) :
    fail (.text message :: arguments) =
      .error (.failed
        (.ofList (Text.fillPlaces message.toList (arguments.map (·.print.toList))))) :=
  rfl

/-- A failure reports its message with the places filled in order. The message is cut at its places
in exactly one way, and its pieces are put together with the printed arguments between them, or with
a place as it stands where there is no argument. Arguments beyond the last place count for nothing,
and a message without a place is reported as it is. -/
theorem fail_exact (message : String) (arguments : List Value) :
    ∃ pieces, Text.Cut message.toList pieces ∧
      (∀ other, Text.Cut message.toList other → other = pieces) ∧
      fail (.text message :: arguments) =
        .error (.failed (.ofList
          (Text.interleave (Text.argumentAt (arguments.map (·.print.toList))) pieces))) ∧
      (∀ surplus, pieces.length ≤ arguments.length + 1 →
        fail (.text message :: (arguments ++ surplus)) = fail (.text message :: arguments)) ∧
      (¬ Text.place <:+: message.toList →
        fail (.text message :: arguments) = .error (.failed message)) := by
  obtain ⟨pieces, hcut, hunique⟩ := Text.existsUnique_cut message.toList
  refine ⟨pieces, hcut, hunique, ?_, fun surplus hlength => ?_, fun hnone => ?_⟩
  · rw [fail_text, Text.fillPlaces_cut hcut]
  · rw [fail_text, fail_text, Text.fillPlaces_cut hcut, Text.fillPlaces_cut hcut]
    rw [Text.interleave_congr fun index hindex => ?_]
    rw [Text.argumentAt, Text.argumentAt, List.map_append, List.getElem?_append_left]
    rw [List.length_map]
    omega
  · rw [fail_text, Text.fillPlaces_whole hnone, String.ofList_toList]

/-- Braces around and beside the places of a message, an argument that looks like a place, and one
argument more than there are places. -/
theorem fail_exact_braces :
    let message := "\x7b\x7b\x7d\x7d ä\x7b\x7d\x7b"
    let arguments : List Value := [.text "\x7b\x7d", .int 7]
    let pieces := [['{'], "\x7d ä".toList, ['{']]
    Text.Cut message.toList pieces ∧ pieces.length ≤ arguments.length + 1 ∧
      fail (.text message :: arguments) =
        .error (.failed (.ofList
          (Text.interleave (Text.argumentAt (arguments.map (·.print.toList))) pieces))) ∧
      fail (.text message :: (arguments ++ [.bool true])) =
        .error (.failed "\x7b\x7b\x7d\x7d ä7\x7b") ∧
      ¬ Text.place <:+: "none".toList ∧
      fail (.text "none" :: arguments) = .error (.failed "none") := by
  intro message arguments pieces
  have hmessage : message.toList =
      ['{'] ++ (Text.place ++ ("\x7d ä".toList ++ (Text.place ++ ['{']))) := by
    decide
  have hcut : Text.Cut message.toList pieces := by
    rw [hmessage]
    refine .split (Text.leftmost_of_clear (by decide) _) ?_
    exact .split (Text.leftmost_of_clear (by decide) _) (.whole (by decide))
  have hnone : ¬ Text.place <:+: "none".toList := by decide
  obtain ⟨cut, -, hunique, hfilled, hsurplus, -⟩ := fail_exact message arguments
  obtain rfl := hunique pieces hcut
  refine ⟨hcut, by decide, hfilled, ?_, hnone,
    (fail_exact "none" arguments).elim fun _ h => h.2.2.2.2 hnone⟩
  have htext : String.ofList (Text.interleave
      (Text.argumentAt (arguments.map (·.print.toList))) pieces) =
      "\x7b\x7b\x7d\x7d ä7\x7b" := by
    decide
  rw [hsurplus [.bool true] (by decide), hfilled, htext]

end Stencil.Template.Library
