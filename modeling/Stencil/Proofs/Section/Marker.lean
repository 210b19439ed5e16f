import Mathlib.Data.List.TakeWhile
import Stencil.Proofs.Text.Line
import Stencil.Section.Block

/-!
# Markers and terminators

A line is a marker if its content, the line without its terminator, ends in a token, one white space
character and a name; which one it is depends on the token alone (`ofLine_of_cut`). A marker does not
depend on how its line ends. `cut_terminated` is the fact that the merge rests on: a marker line
without a terminator can take that of another line, and cutting gives both parts back, because the
name at the end of a marker holds no white space and so no carriage return.
-/

namespace Stencil.Section

open Text (Line EndsLine IsLine cutTerminator isBlank)

/-- The three ways in which a line can end. -/
def IsTerminator (text : List Char) : Prop :=
  text = [] ∨ text = ['\n'] ∨ text = ['\r', '\n']

/-- What is cut off a line is a terminator. -/
theorem cut_is_terminator (line : Line) : IsTerminator (cutTerminator line).2 := by
  unfold cutTerminator
  split
  · exact .inr (.inr rfl)
  · exact .inr (.inl rfl)
  · exact .inl rfl

/-- Nothing is cut off a line without a line feed at its end. -/
theorem cut_unended {line : Line} (h : ¬ EndsLine line) : cutTerminator line = (line, []) := by
  have hhead : line.reverse.head? ≠ some '\n' := by
    simpa [EndsLine] using h
  unfold cutTerminator
  split
  · next heq => simp [heq] at hhead
  · next heq => simp [heq] at hhead
  · rfl

/-- A terminator is cut off a content that does not end like one. -/
theorem cut_append {content terminator : List Char} (hterminator : IsTerminator terminator)
    (hends : ¬ EndsLine content) (hreturn : content.getLast? ≠ some '\r') :
    cutTerminator (content ++ terminator) = (content, terminator) := by
  rcases hterminator with rfl | rfl | rfl
  · simpa using cut_unended hends
  · have hhead : content.reverse.head? ≠ some '\r' := by simpa using hreturn
    unfold cutTerminator
    rw [List.reverse_append]
    cases hrev : content.reverse with
    | nil => simp_all
    | cons letter rest =>
        have hletter : letter ≠ '\r' := by simpa [hrev] using hhead
        have hcontent : content = (letter :: rest).reverse := by
          rw [← hrev, List.reverse_reverse]
        simp [hletter, hcontent]
  · unfold cutTerminator
    simp

/-- A line that ends has a terminator with a line feed. -/
theorem ends_cut {line : Line} (h : EndsLine line) :
    (cutTerminator line).2 = ['\n'] ∨ (cutTerminator line).2 = ['\r', '\n'] := by
  rcases cut_is_terminator line with hnone | hcut
  · have hhead : line.reverse.head? = some '\n' := by simpa [EndsLine] using h
    unfold cutTerminator at hnone
    split at hnone
    · simp at hnone
    · simp at hnone
    · next _ hno =>
        cases hrev : line.reverse with
        | nil => simp [hrev] at hhead
        | cons letter rest =>
            obtain rfl : letter = '\n' := by simpa [hrev] using hhead
            exact absurd hrev (hno rest)
  · exact hcut

/-- The name can stand in a marker: it is not empty and holds no white space. -/
def IsSectionName (name : List Char) : Prop :=
  name ≠ [] ∧ ∀ letter ∈ name, Text.isBlank letter = false

instance (name : List Char) : Decidable (IsSectionName name) :=
  -- The letters of the name are looked at, not all characters that there are.
  @instDecidableAnd _ _ inferInstance (List.decidableBAll (Text.isBlank · = false) name)

/-- A name that can stand in a marker does not end like a line. -/
theorem IsSectionName.last {name : List Char} (h : IsSectionName name) (before : List Char)
    {letter : Char} (hblank : isBlank letter = true) : (before ++ name).getLast? ≠ some letter := by
  rw [List.getLast?_append_of_ne_nil _ h.1]
  intro hlast
  rw [h.2 letter (List.mem_of_getLast? hlast)] at hblank
  cases hblank

/-- A line with a name after the last white space character of its content is a marker exactly if a
token stands before that. -/
theorem ofLine_of_cut {line : Line} {before name : List Char} {blank : Char}
    (hname : IsSectionName name) (hblank : isBlank blank = true)
    (hline : (cutTerminator line).1 = before ++ blank :: name) :
    Marker.ofLine? line =
      if beginToken <:+ before then some (.opening name)
      else if endToken <:+ before then some (.closing name)
      else none := by
  obtain ⟨hne, hclear⟩ := hname
  have hstretch : ∀ letter ∈ name.reverse, (!isBlank letter) = true := by
    intro letter hletter
    rw [hclear letter (List.mem_reverse.1 hletter)]
    rfl
  simp [Marker.ofLine?, hline, List.takeWhile_append_of_pos hstretch,
    List.dropWhile_append_of_pos hstretch, hblank, hne, List.isPrefixOf_iff_prefix,
    List.reverse_prefix]

/-- A line that is a marker has a name after the last white space character of its content. -/
theorem cut_of_ofLine {line : Line} {marker : Marker} (h : Marker.ofLine? line = some marker) :
    ∃ before blank name, IsSectionName name ∧ isBlank blank = true ∧
      (cutTerminator line).1 = before ++ blank :: name := by
  unfold Marker.ofLine? at h
  generalize (cutTerminator line).1 = content at h ⊢
  cases hdrop : content.reverse.dropWhile (!isBlank ·) with
  | nil => simp [hdrop] at h
  | cons blank start =>
      have hsplit := List.takeWhile_append_dropWhile (p := (!isBlank ·)) (l := content.reverse)
      have hblank := List.head?_dropWhile_not (!isBlank ·) content.reverse
      rw [hdrop] at hsplit hblank
      refine ⟨start.reverse, blank, (content.reverse.takeWhile (!isBlank ·)).reverse,
        ⟨?_, ?_⟩, by simpa using hblank, ?_⟩
      · rintro hempty
        simp [hdrop, hempty] at h
      · intro letter hletter
        simpa using List.mem_takeWhile_imp (List.mem_reverse.1 hletter)
      · simpa using (congrArg List.reverse hsplit).symm

/-- The content of a marker line does not end in a carriage return. -/
theorem marker_not_return {line : Line} {marker : Marker}
    (h : Marker.ofLine? line = some marker) :
    (cutTerminator line).1.getLast? ≠ some '\r' := by
  obtain ⟨before, blank, name, hname, -, hcut⟩ := cut_of_ofLine h
  rw [hcut, List.append_cons]
  exact hname.last _ (by decide)

/-- The marker of a line is that of its content. -/
theorem marker_of_cut {first second : Line}
    (h : (cutTerminator first).1 = (cutTerminator second).1) :
    Marker.ofLine? first = Marker.ofLine? second := by
  unfold Marker.ofLine?
  rw [h]

/-- A marker line without a terminator can take any, and cutting gives both parts back. -/
theorem cut_terminated {line : Line} {marker : Marker} (h : Marker.ofLine? line = some marker)
    (hends : ¬ EndsLine line) {terminator : List Char} (hterminator : IsTerminator terminator) :
    cutTerminator (line ++ terminator) = (line, terminator) := by
  have hreturn := marker_not_return h
  rw [cut_unended hends] at hreturn
  exact cut_append hterminator hends hreturn

/-- A marker line without a terminator stays the same marker with any. -/
theorem marker_terminated {line : Line} {marker : Marker} (h : Marker.ofLine? line = some marker)
    (hends : ¬ EndsLine line) {terminator : List Char} (hterminator : IsTerminator terminator) :
    Marker.ofLine? (line ++ terminator) = some marker := by
  rw [← h]
  apply marker_of_cut
  rw [cut_terminated h hends hterminator, cut_unended hends]

/-- The line opens the section exactly if it is the marker that opens it. -/
theorem opens_iff {name : List Char} {line : Line} :
    opens name line = true ↔ Marker.ofLine? line = some (.opening name) := by
  simp [opens]

/-- The line closes the section exactly if it is the marker that closes it. -/
theorem closes_iff {name : List Char} {line : Line} :
    closes name line = true ↔ Marker.ofLine? line = some (.closing name) := by
  simp [closes]

/-- A line opens at most one section. -/
theorem opens_unique {first second : List Char} {line : Line} (h : opens first line = true)
    (hsecond : opens second line = true) : first = second := by
  rw [opens_iff] at h hsecond
  rw [h] at hsecond
  simpa using hsecond

end Stencil.Section
