import Stencil.Proofs.Section.Enclosed
import Stencil.Proofs.Text.Piece

/-!
# The grammar of markers

Which lines are markers, and of what: those whose content, the line without its terminator, ends in
a token, one white space character and a name. The name is the longest stretch at the end without
white space, so a line is written as a marker in one way only, and a search for the pattern comes to
the same marker wherever it finds it (`marker_exact`).
-/

namespace Stencil.Section

open Text (Line cutTerminator isBlank)

/-- What is left of a line without one line feed at its end, or without one carriage return and line
feed. -/
inductive IsContent : (content line : List Char) → Prop where
  | unended {line : List Char} : line.getLast? ≠ some '\n' → IsContent line line
  | feed {content : List Char} : content.getLast? ≠ some '\r' →
      IsContent content (content ++ ['\n'])
  | returned (content : List Char) : IsContent content (content ++ ['\r', '\n'])

namespace Marker

/-- The token of a marker. -/
def token : Marker → List Char
  | .opening _ => beginToken
  | .closing _ => endToken

/-- The name in a marker. -/
def name : Marker → List Char
  | .opening name => name
  | .closing name => name

/-- The text is the token, one white space character and the name. -/
def Is (marker : Marker) (text : List Char) : Prop :=
  IsSectionName marker.name ∧ ∃ blank, isBlank blank = true ∧
    text = marker.token ++ blank :: marker.name

/-- The text ends in the marker. -/
def Ends (marker : Marker) (text : List Char) : Prop :=
  ∃ before rest, text = before ++ rest ∧ marker.Is rest

/-- The name after a token, if the text is the token, one white space character and a name. -/
def nameAfter? (token text : List Char) : Option (List Char) :=
  match Text.dropStart? token text with
  | some (blank :: name) =>
    if isBlank blank = true ∧ IsSectionName name then some name else none
  | _ => none

/-- The marker that a text is. -/
def whole? (text : List Char) : Option Marker :=
  ((nameAfter? beginToken text).map .opening).or ((nameAfter? endToken text).map .closing)

/-- The marker that is found first by trying every place in a text, from the left. -/
def search? (text : List Char) : Option Marker :=
  text.tails.findSome? whole?

end Marker

variable {content line text : List Char} {marker other : Marker}

/-- Cutting the terminator off leaves the content. -/
theorem cut_of_isContent (h : IsContent content line) : (cutTerminator line).1 = content := by
  cases h with
  | unended hends => rw [cut_unended hends]
  | returned => simp [cutTerminator]
  | feed hreturn =>
      rcases List.eq_nil_or_concat content with rfl | ⟨front, letter, rfl⟩
      · rfl
      · have hletter : letter ≠ '\r' := by simpa using hreturn
        simp [cutTerminator, hletter]

/-- Every line has one content. -/
theorem existsUnique_isContent (line : List Char) : ∃! content, IsContent content line := by
  have hexists : ∃ content, IsContent content line := by
    by_cases hfeed : line.getLast? = some '\n'
    · obtain ⟨front, rfl⟩ := List.getLast?_eq_some_iff.1 hfeed
      by_cases hreturn : front.getLast? = some '\r'
      · obtain ⟨content, rfl⟩ := List.getLast?_eq_some_iff.1 hreturn
        exact ⟨content, by simpa using IsContent.returned content⟩
      · exact ⟨front, .feed hreturn⟩
    · exact ⟨line, .unended hfeed⟩
  obtain ⟨content, hcontent⟩ := hexists
  exact ⟨content, hcontent, fun other hother =>
    (cut_of_isContent hother).symm.trans (cut_of_isContent hcontent)⟩

/-- A name after a token stands there after one white space character. -/
theorem nameAfter_eq_some_iff {token name : List Char} :
    Marker.nameAfter? token text = some name ↔
      IsSectionName name ∧ ∃ blank, isBlank blank = true ∧ text = token ++ blank :: name := by
  constructor
  · intro h
    unfold Marker.nameAfter? at h
    split at h
    · next blank found hdrop =>
        obtain ⟨⟨hblank, hname⟩, hfound⟩ := Option.ite_none_right_eq_some.1 h
        obtain rfl := Option.some.inj hfound
        exact ⟨hname, blank, hblank, Text.dropStart_eq_some_iff.1 hdrop⟩
    · cases h
  · rintro ⟨hname, blank, hblank, rfl⟩
    simp [Marker.nameAfter?, hblank, hname]

/-- A line whose content ends in a marker is that marker. -/
theorem ofLine_of_ends (hline : (cutTerminator line).1 = content) (h : marker.Ends content) :
    Marker.ofLine? line = some marker := by
  obtain ⟨before, rest, rfl, hname, blank, hblank, rfl⟩ := h
  rw [← List.append_assoc] at hline
  rw [ofLine_of_cut hname hblank hline]
  have htoken : marker.token <:+ before ++ marker.token := List.suffix_append _ _
  cases marker with
  | opening name => exact if_pos htoken
  | closing name =>
      -- Neither token ends in the other, so they cannot end the same text.
      have hother : ¬ beginToken <:+ before ++ endToken := fun hbegin =>
        (List.suffix_or_suffix_of_suffix hbegin (List.suffix_append before endToken)).elim
          (by decide) (by decide)
      exact (if_neg hother).trans (if_pos htoken)

/-- A line that is a marker has a content that ends in it. -/
theorem ends_of_ofLine (hline : (cutTerminator line).1 = content)
    (h : Marker.ofLine? line = some marker) : marker.Ends content := by
  obtain ⟨before, blank, name, hname, hblank, hcut⟩ := cut_of_ofLine h
  rw [ofLine_of_cut hname hblank hcut] at h
  rw [hline] at hcut
  subst hcut
  split at h
  · next hbegin =>
      obtain rfl := Option.some.inj h
      obtain ⟨front, rfl⟩ := hbegin
      exact ⟨front, _, List.append_assoc _ _ _, hname, blank, hblank, rfl⟩
  · obtain ⟨⟨front, rfl⟩, hmarker⟩ := Option.ite_none_right_eq_some.1 h
    obtain rfl := Option.some.inj hmarker
    exact ⟨front, _, List.append_assoc _ _ _, hname, blank, hblank, rfl⟩

/-- A text ends in one marker at most. -/
theorem ends_unique (h : marker.Ends text) (hother : other.Ends text) : marker = other := by
  have hline : (cutTerminator (text ++ ['\r', '\n'])).1 = text := cut_of_isContent (.returned text)
  exact Option.some.inj ((ofLine_of_ends hline h).symm.trans (ofLine_of_ends hline hother))

/-- A text that is a marker ends in it. -/
theorem Marker.Is.ends (h : marker.Is text) (before : List Char) :
    marker.Ends (before ++ text) :=
  ⟨before, text, rfl, h⟩

/-- The pattern stands for the markers that are whole texts. -/
theorem whole_eq_some_iff : Marker.whole? text = some marker ↔ marker.Is text := by
  have hopening (name : List Char) :
      Marker.nameAfter? beginToken text = some name ↔ (Marker.opening name).Is text :=
    nameAfter_eq_some_iff
  have hclosing (name : List Char) :
      Marker.nameAfter? endToken text = some name ↔ (Marker.closing name).Is text :=
    nameAfter_eq_some_iff
  rw [Marker.whole?]
  cases hbegin : Marker.nameAfter? beginToken text with
  | some name =>
      have hname := (hopening name).1 hbegin
      show some (Marker.opening name) = some marker ↔ _
      rw [Option.some_inj]
      exact ⟨fun h => h ▸ hname, fun h => ends_unique (hname.ends []) (h.ends [])⟩
  | none =>
      cases marker with
      | opening name => simp [← hopening, hbegin]
      | closing name => simp [← hclosing]

/-- A search for the pattern comes to the marker of the line. -/
theorem search_eq (hline : (cutTerminator line).1 = content) :
    Marker.search? content = Marker.ofLine? line := by
  have hfound {marker : Marker} (h : Marker.search? content = some marker) :
      marker.Ends content := by
    obtain ⟨rest, hrest, hwhole⟩ := List.exists_of_findSome?_eq_some h
    obtain ⟨before, rfl⟩ := (List.mem_tails _ _).1 hrest
    exact (whole_eq_some_iff.1 hwhole).ends before
  cases hmarker : Marker.ofLine? line with
  | some marker =>
      obtain ⟨before, rest, rfl, hwhole⟩ := ends_of_ofLine hline hmarker
      have hsome : (Marker.search? (before ++ rest)).isSome := by
        refine List.findSome?_isSome_iff.2 ⟨rest, (List.mem_tails _ _).2 ⟨before, rfl⟩, ?_⟩
        rw [whole_eq_some_iff.2 hwhole]
        rfl
      obtain ⟨found, hsearch⟩ := Option.isSome_iff_exists.1 hsome
      rw [hsearch, ends_unique (hfound hsearch) (hwhole.ends before)]
  | none =>
      rw [Option.eq_none_iff_forall_ne_some]
      intro marker h
      rw [ofLine_of_ends hline (hfound h)] at hmarker
      cases hmarker

/-- A text that ends in a marker does not end in white space. -/
theorem Marker.Ends.last (h : marker.Ends content) (before : List Char) {letter : Char}
    (hblank : isBlank letter = true) : (before ++ content).getLast? ≠ some letter := by
  obtain ⟨front, rest, rfl, hname, blank, -, rfl⟩ := h
  have hlast := hname.last (before ++ (front ++ (marker.token ++ [blank]))) hblank
  simpa using hlast

/-- Whatever is put before a marker line, it stays that marker. -/
theorem ofLine_append (h : Marker.ofLine? line = some marker) (before : List Char) :
    Marker.ofLine? (before ++ line) = some marker := by
  have hends := ends_of_ofLine rfl h
  have hcut : cutTerminator (before ++ (cutTerminator line).1 ++ (cutTerminator line).2) =
      (before ++ (cutTerminator line).1, (cutTerminator line).2) :=
    cut_append (cut_is_terminator line) (hends.last before (by decide))
      (hends.last before (by decide))
  rw [List.append_assoc, cut_parts] at hcut
  obtain ⟨front, rest, hsplit, hwhole⟩ := hends
  refine ofLine_of_ends (congrArg Prod.fst hcut) ?_
  rw [hsplit, ← List.append_assoc]
  exact hwhole.ends _

/-- Every line has one content, and is a marker exactly if its content ends in one: a token, one
white space character and a name without white space. A text ends in one marker at most, so it is
the one that a search from the left finds first, and the one that is found anywhere. What is put
before a marker line does not change it, nor do the terminators of lines. -/
theorem marker_exact :
    (∀ line : List Char, ∃! content, IsContent content line) ∧
    (∀ content line : List Char, IsContent content line →
      (∀ marker, Marker.ofLine? line = some marker ↔ marker.Ends content) ∧
      (∀ first second : Marker, first.Ends content → second.Ends content → first = second) ∧
      Marker.search? content = Marker.ofLine? line ∧
      ∀ before rest marker, content = before ++ rest → Marker.whole? rest = some marker →
        Marker.ofLine? line = some marker) ∧
    (∀ line before marker, Marker.ofLine? line = some marker →
      Marker.ofLine? (before ++ line) = some marker) ∧
    ∀ text : List Char, text.getLast? ≠ some '\r' → text.getLast? ≠ some '\n' →
      Marker.ofLine? (text ++ ['\n']) = Marker.ofLine? text ∧
        Marker.ofLine? (text ++ ['\r', '\n']) = Marker.ofLine? text := by
  refine ⟨existsUnique_isContent, fun content line hcontent => ?_,
    fun line before marker h => ofLine_append h before, fun text hreturn hfeed => ?_⟩
  · have hline := cut_of_isContent hcontent
    refine ⟨fun marker => ⟨ends_of_ofLine hline, ofLine_of_ends hline⟩,
      fun _ _ => ends_unique, search_eq hline, ?_⟩
    rintro before rest marker rfl hwhole
    exact ofLine_of_ends hline ((whole_eq_some_iff.1 hwhole).ends before)
  · have hcut := cut_of_isContent (.unended hfeed)
    exact ⟨marker_of_cut ((cut_of_isContent (.feed hreturn)).trans hcut.symm),
      marker_of_cut ((cut_of_isContent (.returned text)).trans hcut.symm)⟩

/-- Of two markers in a line the last one counts: white space stands in what follows the first
token, so that it is no name. The same text after other text, or without its terminator, is the same
marker. -/
theorem marker_exact_embedded :
    IsContent "//template:begin a//template:end b".toList
        "//template:begin a//template:end b\r\n".toList ∧
      (Marker.closing ['b']).Ends "//template:begin a//template:end b".toList ∧
      Marker.search? "//template:begin a//template:end b".toList = some (.closing ['b']) ∧
      Marker.ofLine? "fn //template:begin a//template:end b\r\n".toList =
        some (.closing ['b']) ∧
      Marker.ofLine? "//template:begin a//template:end b".toList = some (.closing ['b']) := by
  have hcontent : IsContent "//template:begin a//template:end b".toList
      "//template:begin a//template:end b\r\n".toList :=
    .returned "//template:begin a//template:end b".toList
  have hline : Marker.ofLine? "//template:begin a//template:end b\r\n".toList =
      some (.closing ['b']) := by decide +kernel
  obtain ⟨-, hexact, hprefix, hterminator⟩ := marker_exact
  obtain ⟨hends, -, hsearch, -⟩ := hexact _ _ hcontent
  have hunended := (hterminator "//template:begin a//template:end b".toList
    (by decide) (by decide)).2
  exact ⟨hcontent, (hends _).1 hline, hsearch.trans hline, hprefix _ "fn ".toList _ hline,
    hunended.symm.trans hline⟩

end Stencil.Section
