import Stencil.Proofs.FileSystem.Walk
import Stencil.Proofs.Text.Piece

/-!
# Paths and their segments

How the segments of a path change when another path follows it and when its parent is taken. A path
is built from segments by `Path.build`, and `segments_build` reads them back. A parent is built from
the segments before the last one, without those at their end that name no step (`parent_of_name`).
What follows a directory comes after segments that do not depend on it (`segments_join`).
-/

namespace Stencil.Path

open Text (pieces pieces_join pieces_separator)

variable {absolute : Bool} {list front : List FileName} {path : String}

/-- A path from its segments. -/
def build (absolute : Bool) (list : List FileName) : String :=
  .ofList (if absolute then '/' :: Text.join ['/'] list else Text.join ['/'] list)

/-- Segments that a path can have: no separator in any, and at the start of a path that does not
start at the root, one that is not empty. -/
structure Shaped (absolute : Bool) (list : List FileName) : Prop where
  clear : ∀ segment ∈ list, '/' ∉ segment
  first : absolute = false → list.head? ≠ some []

/-- Segments without those at the end that name no step. -/
def trim (absolute : Bool) (list : List FileName) : List FileName :=
  (fromLastStep absolute list.reverse).reverse

/-- The first segments of a path are those of a path. -/
theorem Shaped.left {back : List FileName} (h : Shaped absolute (front ++ back)) :
    Shaped absolute front := by
  refine ⟨fun segment hsegment => h.clear segment (List.mem_append_left _ hsegment), ?_⟩
  intro habsolute hhead
  exact h.first habsolute (by simp [List.head?_append, hhead])

/-- A path that is not empty has the segments of a path. -/
theorem shaped_segments (hpath : path ≠ "") : Shaped (isAbsolute path) (segments path) := by
  constructor
  · intro segment hsegment hmem
    have hclear := Text.pieces_clear hsegment '/' hmem
    simp at hclear
  · intro habsolute hhead
    have hbody : body path = path.toList := by simp [body, habsolute]
    rw [isAbsolute] at habsolute
    cases htext : path.toList with
    | nil => exact hpath (String.toList_eq_nil_iff.1 htext)
    | cons letter rest =>
        have hletter : (letter == '/') = false := by simpa [htext] using habsolute
        obtain ⟨first, others, hrest⟩ :=
          List.exists_cons_of_ne_nil (Text.pieces_ne_nil (· == '/') rest)
        have hpieces : pieces (· == '/') (letter :: rest) = (letter :: first) :: others :=
          Text.pieces_cons (by simpa using hletter) hrest
        rw [segments, hbody, htext, hpieces] at hhead
        simp at hhead

/-- A path built from no segments is the root or empty. -/
theorem body_build (h : Shaped absolute list) :
    isAbsolute (build absolute list) = absolute ∧
      body (build absolute list) = Text.join ['/'] list := by
  have habsolute : isAbsolute (build absolute list) = absolute := by
    cases absolute with
    | true => simp [isAbsolute, build]
    | false =>
        cases list with
        | nil => simp [isAbsolute, build, Text.join]
        | cons segment rest =>
            have hne : segment ≠ [] := fun heq => h.first rfl (by simp [heq])
            obtain ⟨letter, others, rfl⟩ := List.exists_cons_of_ne_nil hne
            have hletter : letter ≠ '/' := fun heq =>
              h.clear _ List.mem_cons_self (by simp [heq])
            cases rest <;> simp [isAbsolute, build, Text.join, hletter]
  refine ⟨habsolute, ?_⟩
  rw [body, habsolute]
  cases absolute <;> simp [build]

/-- The segments that a path is built from are its segments. -/
theorem segments_build (h : Shaped absolute list) (hne : list ≠ []) :
    segments (build absolute list) = list := by
  rw [segments, (body_build h).2, pieces_join hne h.clear]

/-- A path that is built from no segments has an empty one. -/
theorem segments_build_nil (absolute : Bool) : segments (build absolute []) = [[]] := by
  cases absolute <;> simp [segments, body, isAbsolute, build, Text.join, pieces]

/-- Segments from the last that names a step on are the last ones in reverse. -/
theorem suffix_fromLastStep (absolute : Bool) (list : List FileName) :
    fromLastStep absolute list <:+ list := by
  fun_induction fromLastStep absolute list with
  | case1 => exact List.suffix_refl _
  | case2 first _ => exact List.nil_suffix
  | case3 first _ => exact List.suffix_refl _
  | case4 last rest _ _ ih => exact ih.trans (List.suffix_cons _ _)
  | case5 last rest _ _ => exact List.suffix_refl _

/-- Taking segments from the last that names a step twice is taking them once. -/
theorem fromLastStep_twice (absolute : Bool) (list : List FileName) :
    fromLastStep absolute (fromLastStep absolute list) = fromLastStep absolute list := by
  fun_induction fromLastStep absolute list with
  | case1 => rfl
  | case2 first _ => rfl
  | case3 first hkept => rw [fromLastStep, if_neg hkept]
  | case4 last rest _ _ ih => exact ih
  | case5 last rest hrest hstep =>
      rw [fromLastStep, if_neg hstep]
      exact hrest

/-- Only segments that name no step are left out. -/
theorem names_fromLastStep (absolute : Bool) (list : List FileName) :
    names (fromLastStep absolute list) = names list := by
  fun_induction fromLastStep absolute list with
  | case1 => rfl
  | case2 first hidle =>
      have hstep : isIdle first = true := by
        rcases Bool.or_eq_true _ _ ▸ hidle with hempty | hroot
        · simp [isIdle, hempty]
        · exact (Bool.and_eq_true _ _ ▸ hroot).2
      simp [names, hstep]
  | case3 first _ => rfl
  | case4 last rest _ hidle ih => rw [ih]; simp [names, hidle]
  | case5 last rest _ _ => rfl

/-- Trimmed segments are the first ones. -/
theorem prefix_trim (absolute : Bool) (list : List FileName) : trim absolute list <+: list := by
  rw [← List.reverse_suffix, trim, List.reverse_reverse]
  exact suffix_fromLastStep absolute list.reverse

/-- Trimmed segments of a path are those of a path. -/
theorem Shaped.trimmed (h : Shaped absolute list) : Shaped absolute (trim absolute list) := by
  obtain ⟨back, hback⟩ := prefix_trim absolute list
  rw [← hback] at h
  exact h.left

/-- A trimmed segment is one of the segments. -/
theorem mem_of_trim {segment : FileName} (h : segment ∈ trim absolute list) : segment ∈ list :=
  (prefix_trim absolute list).subset h

/-- Trimmed segments stay as they are. -/
@[simp]
theorem trim_twice (absolute : Bool) (list : List FileName) :
    trim absolute (trim absolute list) = trim absolute list := by
  rw [trim, trim, List.reverse_reverse, fromLastStep_twice]

/-- Trimmed segments name the same steps. -/
@[simp]
theorem names_trim (absolute : Bool) (list : List FileName) :
    names (trim absolute list) = names list := by
  have h := names_fromLastStep absolute list.reverse
  rw [names, names, List.filter_reverse] at h
  rw [trim, names, List.filter_reverse, h, List.reverse_reverse, names]

/-- Segments that end in a name stay as they are. -/
theorem trim_of_name {name : FileName} (h : isIdle name = false) :
    trim absolute (front ++ [name]) = front ++ [name] := by
  have hne : name ≠ [] := fun heq => by simp [isIdle, heq] at h
  have hlast : fromLastStep absolute (name :: front.reverse) = name :: front.reverse := by
    cases hfront : front.reverse <;> simp [fromLastStep, h, hne]
  simp [trim, hlast]

/-- Trimmed segments end in a name, unless there are none or a single dot, with which a path can
start. -/
theorem trimmed_cases (h : trim absolute list = list) :
    list = [] ∨ (absolute = false ∧ list = [['.']]) ∨
      ∃ front name, list = front ++ [name] ∧ isIdle name = false := by
  rcases List.eq_nil_or_concat list with rfl | ⟨front, name, rfl⟩
  · exact .inl rfl
  · rw [List.concat_eq_append] at h ⊢
    cases hidle : isIdle name with
    | false => exact .inr (.inr ⟨front, name, rfl, hidle⟩)
    | true =>
        refine .inr (.inl ?_)
        have hlast : fromLastStep absolute (name :: front.reverse) = name :: front.reverse := by
          simpa [trim, List.reverse_eq_iff] using h
        cases hfront : front.reverse with
        | nil =>
            have hfront : front = [] := by simpa using hfront
            subst hfront
            rw [List.reverse_nil, fromLastStep] at hlast
            split at hlast
            · cases hlast
            · next hkept =>
                cases absolute <;> simp_all [isIdle]
        | cons second rest =>
            -- Leaving out an idle last segment would make the list shorter.
            rw [hfront, fromLastStep, if_pos hidle] at hlast
            · have hlength := (suffix_fromLastStep absolute (second :: rest)).length_le
              simp only [hlast, List.length_cons] at hlength
              omega
            · simp

/-- The parent of a path that ends in a name is built from the segments before the name. -/
theorem parent_of_name {name : FileName} (hsegments : segments path = front ++ [name])
    (hname : isIdle name = false) :
    parent? path = some (build (isAbsolute path) (trim (isAbsolute path) front)) := by
  have hlast : fromLastStep (isAbsolute path) (segments path).reverse = name :: front.reverse := by
    have htrim : trim (isAbsolute path) (front ++ [name]) = front ++ [name] := trim_of_name hname
    rw [trim, List.reverse_eq_iff] at htrim
    rw [hsegments, htrim]
    simp
  simp only [parent?, hlast, parent?.joined, build, trim]

/-- The parent of a path built from segments that end in a name. -/
theorem parent_build {name : FileName} (h : Shaped absolute (front ++ [name]))
    (hname : isIdle name = false) :
    parent? (build absolute (front ++ [name])) = some (build absolute (trim absolute front)) := by
  rw [parent_of_name (segments_build h (by simp)) hname, (body_build h).1]

/-- Only a path that does not start at the root can be empty. -/
theorem build_eq_empty (h : Shaped absolute list) :
    build absolute list = "" ↔ absolute = false ∧ list = [] := by
  constructor
  · intro hempty
    have habsolute : absolute = false := by
      rw [← (body_build h).1, hempty]
      rfl
    refine ⟨habsolute, ?_⟩
    by_contra hne
    have hlist := segments_build h hne
    rw [hempty] at hlist
    exact h.first habsolute (by rw [← hlist]; rfl)
  · rintro ⟨rfl, rfl⟩
    rfl

/-- A path built from trimmed segments goes on to its last step in them. -/
theorem stepSegments_build (h : Shaped absolute list) (htrim : trim absolute list = list) :
    FileSystem.stepSegments (build absolute list) = list := by
  rw [FileSystem.stepSegments, (body_build h).1]
  by_cases hne : list = []
  · subst hne
    simp [segments_build_nil, fromLastStep]
  · rw [segments_build h hne]
    exact htrim

/-- A path has at least as many characters as trimmed segments. -/
theorem length_le_build (htrim : trim absolute list = list) :
    list.length ≤ (build absolute list).length := by
  have hjoin : list.length ≤ (Text.join ['/'] list).length := by
    rcases trimmed_cases htrim with rfl | ⟨-, rfl⟩ | ⟨front, name, rfl, hname⟩
    · exact Nat.zero_le _
    · exact Nat.le_refl _
    · have hne : name ≠ [] := fun heq => by simp [isIdle, heq] at hname
      clear htrim
      induction front with
      | nil => exact List.length_pos_iff.2 hne
      | cons first rest ih =>
          rw [List.cons_append, Text.join]
          · simp only [List.length_append, List.length_cons, List.length_nil] at ih ⊢
            omega
          · simp
  rw [build, String.length_ofList]
  split
  · rw [List.length_cons]
    omega
  · exact hjoin

/-- A path that ends in a name is not empty. -/
theorem ne_empty_of_name {name : FileName} (hsegments : segments path = front ++ [name])
    (hname : isIdle name = false) : path ≠ "" := by
  rintro rfl
  have hempty : segments "" = [[]] := rfl
  rw [hempty, List.singleton_eq_append_iff] at hsegments
  rcases hsegments with ⟨-, hlast⟩ | ⟨-, hnil⟩
  · rw [(List.cons.inj hlast).1] at hname
    cases hname
  · cases hnil

/-- The path ends in a name and has no steps upwards. -/
structure NamesEntry (path : String) : Prop where
  last : ∃ front name, segments path = front ++ [name] ∧ isIdle name = false
  level : upward ∉ segments path

/-- The path of an entry is not empty. -/
theorem NamesEntry.ne_empty (h : NamesEntry path) : path ≠ "" := by
  obtain ⟨front, name, hsegments, hname⟩ := h.last
  exact ne_empty_of_name hsegments hname

/-- Text after a path that is not empty belongs to what the path says. -/
theorem body_append {base : String} (hbase : base ≠ "") (text : String) :
    isAbsolute (base ++ text) = isAbsolute base ∧
      body (base ++ text) = body base ++ text.toList := by
  obtain ⟨first, rest, hfirst⟩ := List.exists_cons_of_ne_nil
    (fun hnil => hbase (String.toList_eq_nil_iff.1 hnil))
  have habsolute : isAbsolute (base ++ text) = isAbsolute base := by
    simp [isAbsolute, hfirst]
  refine ⟨habsolute, ?_⟩
  rw [body, body, habsolute]
  split <;> simp [hfirst]

/-- A path that follows a directory comes after segments that do not depend on it, those of the
directory but for an empty one at their end. -/
theorem segments_join (base : String) :
    ∃ list, (segments base = list ∨ segments base = list ++ [[]]) ∧
      ∀ path, isAbsolute path = false →
        isAbsolute (join base path) = isAbsolute base ∧
          segments (join base path) = list ++ segments path := by
  have hrelative : ∀ path, isAbsolute path = false →
      segments path = pieces (· == '/') path.toList :=
    fun path hpath => by simp [segments, body, hpath]
  by_cases hbase : base = ""
  · subst hbase
    refine ⟨[], .inr rfl, fun path hpath => ?_⟩
    have hjoin : join "" path = path := by simp [join, hpath]
    rw [hjoin, hpath]
    exact ⟨rfl, rfl⟩
  · -- What is put between the directory and the path depends on how the directory ends.
    obtain ⟨front, last, hlast⟩ := (List.eq_nil_or_concat base.toList).resolve_left
      (fun hnil => hbase (String.toList_eq_nil_iff.1 hnil))
    rw [List.concat_eq_append] at hlast
    by_cases hslash : last = '/'
    · -- The directory brings its own separator, which may be the mark of the root.
      have hjoin : ∀ path, isAbsolute path = false → join base path = base ++ path :=
        fun path hpath => by simp [join, hpath, hlast, hslash]
      have hbody : body base = [] ∨ ∃ before, body base = before ++ ['/'] := by
        rw [body, hlast, hslash]
        split
        · cases front with
          | nil => exact .inl rfl
          | cons letter others => exact .inr ⟨others, rfl⟩
        · exact .inr ⟨front, rfl⟩
      rcases hbody with hbody | ⟨before, hbody⟩
      · refine ⟨[], .inr (by rw [segments, hbody]; rfl), fun path hpath => ?_⟩
        obtain ⟨habsolute, happend⟩ := body_append hbase path
        rw [hjoin path hpath, segments, happend, hbody, hrelative path hpath]
        exact ⟨habsolute, rfl⟩
      · refine ⟨pieces (· == '/') before, ?_, fun path hpath => ?_⟩
        · rw [segments, hbody, pieces_separator (by simp)]
          exact .inr rfl
        · obtain ⟨habsolute, happend⟩ := body_append hbase path
          rw [hjoin path hpath, segments, happend, hbody, hrelative path hpath, List.append_assoc,
            List.singleton_append, pieces_separator (by simp)]
          exact ⟨habsolute, rfl⟩
    · refine ⟨segments base, .inl rfl, fun path hpath => ?_⟩
      have hjoin : join base path = base ++ ("/" ++ path) := by
        simp only [join, hpath, hlast, List.getLast?_append, List.getLast?_singleton]
        simp [String.append_assoc]
      obtain ⟨habsolute, happend⟩ := body_append hbase ("/" ++ path)
      have hseparated : body base ++ ("/" ++ path).toList = body base ++ '/' :: path.toList := by
        simp
      rw [hjoin, segments, happend, hseparated, pieces_separator (by simp), hrelative path hpath,
        segments]
      exact ⟨habsolute, rfl⟩

/-- Paths with the same segments are identified alike after a directory. -/
theorem identity_join {base other : String} (hpath : isAbsolute path = false)
    (hother : isAbsolute other = false) (h : segments path = segments other) :
    identity (join base path) = identity (join base other) := by
  obtain ⟨list, -, hjoin⟩ := segments_join base
  obtain ⟨habsolute, hsegments⟩ := hjoin path hpath
  obtain ⟨habsolute', hsegments'⟩ := hjoin other hother
  rw [identity, identity, habsolute, habsolute', hsegments, hsegments', h]

/-- The names of segments come in their order. -/
theorem names_append (list back : List FileName) :
    names (list ++ back) = names list ++ names back :=
  List.filter_append _ _

end Stencil.Path
