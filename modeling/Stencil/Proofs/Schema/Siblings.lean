import Mathlib.Data.Finset.Card
import Mathlib.Data.List.Induction
import Mathlib.Data.List.Lex
import Mathlib.Data.List.Sort
import Stencil.Proofs.Schema.Position

/-!
# Siblings in a tree

The attributes that stand in one list: those whose positions differ in the last number only. A walk
meets the attributes of one list in its order, with others between them (`visits_at`), and the names
that an attribute's earlier siblings have are those of attributes at lesser positions of its list
(`mem_earlierNames`).
-/

namespace Stencil.Schema

open Attribute (visitsAll)

/-- The attributes right below a way: the children of the last one on it, or those at the top. -/
def siblingsBelow (attributes above : List Attribute) : List Attribute :=
  above.getLast?.elim attributes (·.children)

/-- The attributes, which may be the same one, stand in one list and have one external name. -/
def Visit.Namesakes (first second : Visit) : Prop :=
  first.position.dropLast = second.position.dropLast ∧
    first.attr.field.tfName = second.attr.field.tfName

/-- The external names of the attributes that stand before one in its list. -/
def Visit.earlierNames (attributes : List Attribute) (visit : Visit) : List String :=
  ((siblingsBelow attributes visit.above).map (·.field.tfName)).take
    (visit.position.getD visit.above.length 0)

variable {attributes above : List Attribute} {place : List Nat} {visit : Visit}

/-- Below an attribute there are the siblings below what is below it. -/
theorem siblingsBelow_cons (attributes above : List Attribute) (attr : Attribute) :
    siblingsBelow attributes (attr :: above) = siblingsBelow attr.children above := by
  cases above with
  | nil => rfl
  | cons first rest => rw [siblingsBelow, List.getLast?_cons_cons]; rfl

/-- The way to a position leads to its place, and from there to one of the siblings. -/
theorem way_concat (attributes : List Attribute) (place : List Nat) (index : Nat) :
    way? attributes (place ++ [index]) = (way? attributes place).bind fun above =>
      (siblingsBelow attributes above)[index]?.map fun attr => above ++ [attr] := by
  induction place generalizing attributes with
  | nil => cases h : attributes[index]? <;> simp [way?, siblingsBelow, h]
  | cons first rest ih =>
      rw [List.cons_append, way?, way?]
      cases attributes[first]? with
      | none => rfl
      | some attr =>
          rw [Option.bind_some, Option.bind_some, ih]
          cases way? attr.children rest with
          | none => rfl
          | some above =>
              simp only [Option.bind_some, Option.map_some, siblingsBelow_cons, Option.map_map]
              rfl

/-- An attribute stands in a tree exactly if it is one of the siblings at its place. -/
theorem in_iff_sibling : visit.In attributes ↔
    ∃ place index, visit.position = place ++ [index] ∧
      way? attributes place = some visit.above ∧
      (siblingsBelow attributes visit.above)[index]? = some visit.attr := by
  obtain ⟨position, above, attr⟩ := visit
  constructor
  · intro h
    rcases List.eq_nil_or_concat position with rfl | ⟨place, index, rfl⟩
    · simp [Visit.In, way?, Visit.way] at h
    · rw [List.concat_eq_append] at h
      rw [Visit.In, way_concat, Option.bind_eq_some_iff] at h
      obtain ⟨found, hfound, h⟩ := h
      obtain ⟨other, hother, hway⟩ := Option.map_eq_some_iff.1 h
      obtain ⟨rfl, hlast⟩ := List.append_inj' hway rfl
      obtain rfl : other = attr := by simpa using hlast
      exact ⟨place, index, List.concat_eq_append, hfound, hother⟩
  · rintro ⟨place, index, rfl, hplace, hattr⟩
    simp [Visit.In, way_concat, hplace, hattr, Visit.way]

/-- The attribute that stands in a list at a place. -/
theorem in_of_sibling (h : way? attributes place = some above) {index : Nat} {attr : Attribute}
    (hattr : (siblingsBelow attributes above)[index]? = some attr) :
    Visit.In ⟨place ++ [index], above, attr⟩ attributes :=
  in_iff_sibling.2 ⟨place, index, rfl, h, hattr⟩

/-- Positions in one list are ordered as the numbers of the siblings. -/
theorem concat_lt_concat {first second : Nat} :
    place ++ [first] < place ++ [second] ↔ first < second := by
  induction place with
  | nil => simp [List.cons_lt_cons_iff]
  | cons index rest ih => simp [ih]

/-- Names are those of earlier siblings if there are so many of these. -/
theorem earlierNames_concat {index : Nat} (h : way? attributes place = some visit.above)
    (hposition : visit.position = place ++ [index]) :
    visit.earlierNames attributes =
      ((siblingsBelow attributes visit.above).map (·.field.tfName)).take index := by
  rw [Visit.earlierNames, hposition, length_way h]
  simp

/-- Below an attribute the names of earlier siblings are those that they are below it. -/
theorem earlierNames_below (attributes : List Attribute) (index : Nat) (attr : Attribute)
    (visit : Visit) :
    (visit.below index attr).earlierNames attributes = visit.earlierNames attr.children := by
  rw [Visit.earlierNames, Visit.below, siblingsBelow_cons]
  rfl

/-- The names of earlier siblings are those at lesser positions of one list. -/
theorem mem_earlierNames (h : visit.In attributes) {name : String} :
    name ∈ visit.earlierNames attributes ↔
      ∃ earlier : Visit, earlier.In attributes ∧ earlier.position < visit.position ∧
        earlier.position.dropLast = visit.position.dropLast ∧
        earlier.attr.field.tfName = name := by
  obtain ⟨place, index, hposition, hplace, -⟩ := in_iff_sibling.1 h
  rw [earlierNames_concat hplace hposition, hposition, List.dropLast_concat,
    List.mem_iff_getElem?]
  simp only [List.getElem?_take, List.getElem?_map, Option.ite_none_right_eq_some,
    Option.map_eq_some_iff]
  constructor
  · rintro ⟨other, hless, attr, hattr, hname⟩
    exact ⟨⟨place ++ [other], visit.above, attr⟩, in_of_sibling hplace hattr,
      concat_lt_concat.2 hless, List.dropLast_concat, hname⟩
  · rintro ⟨earlier, hearlier, hless, hlevel, hname⟩
    obtain ⟨level, other, hother, hway, hattr⟩ := in_iff_sibling.1 hearlier
    rw [hother, List.dropLast_concat] at hlevel
    subst hlevel
    rw [hother, concat_lt_concat] at hless
    rw [Option.some.inj (hway.symm.trans hplace)] at hattr
    exact ⟨other, hless, earlier.attr, hattr, hname⟩

/-- What a walk meets in one list are its attributes, in their order. -/
theorem visits_at (h : way? attributes place = some above) :
    (visitsAll 0 attributes).filter (·.position.dropLast = place) =
      (siblingsBelow attributes above).zipIdx.map fun (attr, index) =>
        ⟨place ++ [index], above, attr⟩ := by
  have hmet : ((visitsAll 0 attributes).filter (·.position.dropLast = place)).Pairwise
      (·.position < ·.position) := (visits_sorted 0 attributes).filter _
  have hlisted : ((siblingsBelow attributes above).zipIdx.map fun (attr, index) =>
      (⟨place ++ [index], above, attr⟩ : Visit)).Pairwise (·.position < ·.position) := by
    have hnumbers : (siblingsBelow attributes above).zipIdx.Pairwise (·.2 < ·.2) := by
      rw [← List.pairwise_map, List.zipIdx_map_snd]
      exact List.pairwise_lt_range' 1
    exact List.pairwise_map.2 (hnumbers.imp concat_lt_concat.2)
  -- Both are in strict order, so they are the same if the same attributes are in them.
  have : Std.Asymm fun first second : Visit => first.position < second.position :=
    ⟨fun _ _ => List.lt_asymm⟩
  refine hmet.eq_of_mem_iff hlisted fun visit => ?_
  simp only [List.mem_filter, mem_visits, List.mem_map, List.mem_zipIdx_iff_getElem?,
    decide_eq_true_eq, Prod.exists]
  constructor
  · rintro ⟨hvisit, hlevel⟩
    obtain ⟨level, index, hposition, hway, hattr⟩ := in_iff_sibling.1 hvisit
    obtain rfl : level = place := by simpa [hposition] using hlevel
    obtain rfl : visit.above = above := Option.some.inj (hway.symm.trans h)
    exact ⟨visit.attr, index, hattr, by rw [← hposition]⟩
  · rintro ⟨attr, index, hattr, rfl⟩
    exact ⟨in_of_sibling h hattr, List.dropLast_concat⟩

/-- In a list of names those that repeat an earlier one are all but one of each. -/
theorem countP_repeated (names : List String) :
    names.zipIdx.countP (fun numbered => numbered.1 ∈ names.take numbered.2) +
      names.toFinset.card = names.length := by
  induction names using List.reverseRecOn with
  | nil => rfl
  | append_singleton names last ih =>
      have hearlier : names.zipIdx.countP
            (fun numbered => numbered.1 ∈ (names ++ [last]).take numbered.2) =
          names.zipIdx.countP (fun numbered => numbered.1 ∈ names.take numbered.2) := by
        refine List.countP_congr fun numbered hnumbered => ?_
        obtain ⟨hindex, -⟩ :=
          List.getElem?_eq_some_iff.1 (List.mem_zipIdx_iff_getElem?.1 hnumbered)
        rw [List.take_append_of_le_length hindex.le]
      have hlast : ([last].zipIdx names.length).countP
          (fun numbered => numbered.1 ∈ (names ++ [last]).take numbered.2) =
            if last ∈ names then 1 else 0 := by
        simp [List.countP_cons]
      have hdistinct : (names ++ [last]).toFinset.card =
          names.toFinset.card + if last ∈ names then 0 else 1 := by
        by_cases hmem : last ∈ names <;> simp [hmem]
      rw [List.zipIdx_append, List.countP_append, hearlier, Nat.zero_add, hlast, hdistinct,
        List.length_append, List.length_singleton]
      split <;> omega

end Stencil.Schema
