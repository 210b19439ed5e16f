import Stencil.Schema.Path

/-!
# Positions in a tree of attributes

A position counts the earlier siblings at every level, from the top down, and `way?` gives the
attributes that are met on the way to it. The lexicographic order of positions is the order in which
a walk meets attributes, parents before children and siblings in order: `located_eq_visits` says
that `located` is the walk by positions, and `findSome_visits` that what such a walk finds first
stands at the least position where anything is to be found.
-/

namespace Stencil.Schema

/-- The attributes on the way from the top to a position, the one at the position last. -/
def way? : List Attribute → (position : List Nat) → Option (List Attribute)
  | _, [] => some []
  | attributes, index :: rest =>
    attributes[index]?.bind fun attr => (way? attr.children rest).map (attr :: ·)

/-- An attribute met on a walk: its position, the attributes above it and itself. -/
structure Visit where
  position : List Nat
  above : List Attribute
  attr : Attribute

namespace Visit

/-- The attributes on the way to the one that is met. -/
def way (visit : Visit) : List Attribute :=
  visit.above ++ [visit.attr]

/-- The attribute is at its position in the tree. -/
def In (visit : Visit) (attributes : List Attribute) : Prop :=
  way? attributes visit.position = some visit.way

/-- What is met below an attribute, seen from the siblings of that attribute. -/
def below (index : Nat) (parent : Attribute) (visit : Visit) : Visit :=
  ⟨index :: visit.position, parent :: visit.above, visit.attr⟩

/-- The path of the attribute below a parent with a path. -/
def path (parent : String) (visit : Visit) : String :=
  (visit.way.map (·.field.tfName)).foldl childPath parent

end Visit

mutual

/-- What a walk meets from an attribute that has so many earlier siblings. -/
def Attribute.visits (index : Nat) : Attribute → List Visit
  | ⟨field, children⟩ =>
    ⟨[index], [], ⟨field, children⟩⟩ ::
      (Attribute.visitsAll 0 children).map (Visit.below index ⟨field, children⟩)

/-- What a walk meets from siblings that come after so many others. -/
def Attribute.visitsAll (index : Nat) : List Attribute → List Visit
  | [] => []
  | attr :: rest => attr.visits index ++ Attribute.visitsAll (index + 1) rest

end

open Attribute (visitsAll locatedAll)

/-- What holds of no attributes, and of siblings if it holds of the children of the first and of the
others, holds of all lists of attributes. -/
theorem forest_induction {motive : List Attribute → Prop} (nil : motive [])
    (cons : ∀ field children rest, motive children → motive rest →
      motive (⟨field, children⟩ :: rest)) : ∀ attributes, motive attributes
  | [] => nil
  | ⟨field, children⟩ :: rest =>
      cons field children rest (forest_induction nil cons children)
        (forest_induction nil cons rest)

/-- What holds of an attribute if it holds of its children holds of all attributes. -/
theorem attribute_induction {motive : Attribute → Prop}
    (step : ∀ attr : Attribute, (∀ child ∈ attr.children, motive child) → motive attr) :
    ∀ attr, motive attr := by
  have hall : ∀ attributes : List Attribute, ∀ attr ∈ attributes, motive attr := by
    intro attributes
    induction attributes using forest_induction with
    | nil => simp
    | cons field children rest ihChildren ihRest =>
        exact List.forall_mem_cons.2 ⟨step ⟨field, children⟩ ihChildren, ihRest⟩
  exact fun attr => hall [attr] attr List.mem_cons_self

/-- A walk meets an attribute, then what is below it, then its later siblings. -/
theorem visitsAll_cons (index : Nat) (attr : Attribute) (rest : List Attribute) :
    visitsAll index (attr :: rest) =
      ⟨[index], [], attr⟩ :: ((visitsAll 0 attr.children).map (Visit.below index attr) ++
        visitsAll (index + 1) rest) := by
  obtain ⟨field, children⟩ := attr
  simp [visitsAll, Attribute.visits]

/-- The way to a position has as many attributes as the position has numbers. -/
theorem length_way {attributes way : List Attribute} {position : List Nat}
    (h : way? attributes position = some way) : way.length = position.length := by
  induction position generalizing attributes way with
  | nil =>
      obtain rfl : [] = way := Option.some.inj h
      rfl
  | cons index rest ih =>
      obtain ⟨attr, -, h⟩ := Option.bind_eq_some_iff.1 h
      obtain ⟨below, hbelow, rfl⟩ := Option.map_eq_some_iff.1 h
      rw [List.length_cons, List.length_cons, ih hbelow]

/-- The way to a position below the first attribute. -/
theorem way_first (attr : Attribute) (rest : List Attribute) (position : List Nat) :
    way? (attr :: rest) (0 :: position) = (way? attr.children position).map (attr :: ·) :=
  rfl

/-- A walk meets the attributes at the positions of the tree and no others. -/
theorem mem_visitsAll {attributes : List Attribute} {index : Nat} {visit : Visit} :
    visit ∈ visitsAll index attributes ↔ ∃ offset rest,
      visit.position = (index + offset) :: rest ∧
        way? attributes (offset :: rest) = some visit.way := by
  induction attributes using forest_induction generalizing index visit with
  | nil => simp [visitsAll, way?]
  | cons field children rest ihChildren ihRest =>
      rw [visitsAll_cons, List.mem_cons, List.mem_append, List.mem_map]
      constructor
      · rintro (rfl | ⟨inner, hinner, rfl⟩ | hlater)
        · exact ⟨0, [], rfl, rfl⟩
        · obtain ⟨offset, position, hposition, hway⟩ := ihChildren.1 hinner
          refine ⟨0, inner.position, rfl, ?_⟩
          rw [hposition, Nat.zero_add, way_first, hway]
          rfl
        · obtain ⟨offset, position, hposition, hway⟩ := ihRest.1 hlater
          exact ⟨offset + 1, position, by rw [hposition]; congr 1; omega, hway⟩
      · rintro ⟨offset, position, hposition, hway⟩
        cases offset with
        | zero =>
            obtain ⟨below, hbelow, hsplit⟩ := Option.map_eq_some_iff.1 hway
            obtain ⟨place, above, attr⟩ := visit
            obtain rfl : place = index :: position := hposition
            cases above with
            | nil =>
                -- Nothing is above the attribute, so it is the first one itself.
                obtain ⟨rfl, rfl⟩ := List.cons.inj hsplit
                obtain rfl : position = [] := List.length_eq_zero_iff.1 (length_way hbelow).symm
                exact .inl rfl
            | cons first others =>
                obtain ⟨rfl, rfl⟩ := List.cons.inj hsplit
                refine .inr (.inl ⟨⟨position, others, attr⟩, ihChildren.2 ?_, rfl⟩)
                cases position with
                | nil => simp [way?] at hbelow
                | cons second later => exact ⟨second, later, by simp, hbelow⟩
        | succ offset =>
            refine .inr (.inr (ihRest.2 ⟨offset, position, ?_, hway⟩))
            rw [hposition]
            congr 1
            omega

/-- From the top, a walk meets an attribute exactly if it is at its position. -/
theorem mem_visits {attributes : List Attribute} {visit : Visit} :
    visit ∈ visitsAll 0 attributes ↔ visit.In attributes := by
  rw [mem_visitsAll, Visit.In]
  constructor
  · rintro ⟨offset, rest, hposition, hway⟩
    rw [hposition, Nat.zero_add, hway]
  · intro h
    cases hposition : visit.position with
    | nil =>
        rw [hposition] at h
        simpa [Visit.way] using Option.some.inj h
    | cons offset rest => exact ⟨offset, rest, by rw [Nat.zero_add], hposition ▸ h⟩

/-- A walk meets attributes in the order of their positions. -/
theorem visits_sorted (index : Nat) (attributes : List Attribute) :
    (visitsAll index attributes).Pairwise (·.position < ·.position) := by
  -- Below an attribute positions go on from its own; its later siblings come after all of them.
  induction attributes using forest_induction generalizing index with
  | nil => exact .nil
  | cons field children rest ihChildren ihRest =>
      rw [visitsAll_cons, List.pairwise_cons, List.pairwise_append, List.pairwise_map]
      refine ⟨fun visit hvisit => ?_, ?_, ihRest _, fun inner hinner later hlater => ?_⟩
      · rcases List.mem_append.1 hvisit with hbelow | hlater
        · obtain ⟨inner, hinner, rfl⟩ := List.mem_map.1 hbelow
          obtain ⟨offset, position, hposition, -⟩ := mem_visitsAll.1 hinner
          rw [Visit.below, hposition, List.cons_lt_cons_iff]
          exact .inr ⟨rfl, List.nil_lt_cons _ _⟩
        · obtain ⟨offset, position, hposition, -⟩ := mem_visitsAll.1 hlater
          rw [hposition, List.cons_lt_cons_iff]
          exact .inl (by omega)
      · refine (ihChildren 0).imp fun hless => ?_
        exact List.cons_lt_cons_iff.2 (.inr ⟨rfl, hless⟩)
      · obtain ⟨inner, -, rfl⟩ := List.mem_map.1 hinner
        obtain ⟨offset, position, hposition, -⟩ := mem_visitsAll.1 hlater
        rw [Visit.below, hposition, List.cons_lt_cons_iff]
        exact .inl (by omega)

/-- What a walk finds first is at the least position where it finds anything. -/
theorem findSome_visits {α : Type} {found : Visit → Option α} {attributes : List Attribute}
    {value : α} :
    (visitsAll 0 attributes).findSome? found = some value ↔
      ∃ visit : Visit, visit.In attributes ∧ found visit = some value ∧
        ∀ earlier : Visit, earlier.In attributes → earlier.position < visit.position →
          found earlier = none := by
  have hsorted := visits_sorted 0 attributes
  constructor
  · intro h
    obtain ⟨before, visit, after, hsplit, hvisit, hbefore⟩ := List.findSome?_eq_some_iff.1 h
    refine ⟨visit, mem_visits.1 (by simp [hsplit]), hvisit, fun earlier hearlier hless => ?_⟩
    rw [← mem_visits, hsplit, List.mem_append] at hearlier
    rw [hsplit] at hsorted
    refine hbefore earlier (hearlier.resolve_right fun hmem => ?_)
    -- What is met from `visit` on has no lesser position.
    rcases List.mem_cons.1 hmem with rfl | hafter
    · exact absurd hless (List.lt_irrefl _)
    · have hlater := (List.pairwise_cons.1 (List.pairwise_append.1 hsorted).2.1).1 earlier hafter
      exact absurd hless (List.lt_asymm hlater)
  · rintro ⟨visit, hin, hvisit, hleast⟩
    obtain ⟨before, after, hsplit⟩ := List.append_of_mem (mem_visits.2 hin)
    refine List.findSome?_eq_some_iff.2
      ⟨before, visit, after, hsplit, hvisit, fun earlier hmem => ?_⟩
    rw [hsplit] at hsorted
    refine hleast earlier (mem_visits.1 (by simp [hsplit, hmem])) ?_
    exact (List.pairwise_append.1 hsorted).2.2 earlier hmem visit List.mem_cons_self

/-- Two attributes at one position are the same. -/
theorem Visit.In.unique {attributes : List Attribute} {first second : Visit}
    (h : first.In attributes) (hsecond : second.In attributes)
    (hposition : first.position = second.position) : first = second := by
  rw [In, hposition, hsecond] at h
  obtain ⟨position, above, attr⟩ := first
  obtain ⟨other, others, last⟩ := second
  obtain ⟨habove, hattr⟩ := List.append_inj' (Option.some.inj h) rfl
  simp_all

/-- Located attributes are those that a walk meets, each with its path. -/
theorem located_eq_visits (parent : String) (index : Nat) (attributes : List Attribute) :
    locatedAll parent attributes =
      (visitsAll index attributes).map fun visit => (visit.path parent, visit.attr) := by
  induction attributes using forest_induction generalizing parent index with
  | nil => rfl
  | cons field children rest ihChildren ihRest =>
      have hbelow : ∀ visit : Visit, (visit.below index ⟨field, children⟩).path parent =
          visit.path (childPath parent field.tfName) := fun visit => rfl
      rw [visitsAll_cons, locatedAll, Attribute.located, List.cons_append, List.map_cons,
        List.map_append, List.map_map, ← ihRest parent (index + 1)]
      congr 2
      simp only [Function.comp_def, hbelow]
      exact ihChildren _ 0

/-- Which attributes a walk meets does not depend on where it starts to count. -/
theorem visits_attrs (attributes : List Attribute) (index other : Nat) :
    (visitsAll index attributes).map (·.attr) = (visitsAll other attributes).map (·.attr) := by
  induction attributes generalizing index other with
  | nil => rfl
  | cons attr rest ih =>
      simp [visitsAll_cons, ih (index + 1) (other + 1), Function.comp_def, Visit.below]

/-- Something holds of every attribute of a tree. -/
def Everywhere (holds : Attribute → Prop) (attributes : List Attribute) : Prop :=
  ∀ visit ∈ visitsAll 0 attributes, holds visit.attr

/-- Something holds of every attribute if it does of those that a walk meets. -/
theorem everywhere_visits {holds : Attribute → Prop} (attributes : List Attribute) (index : Nat) :
    Everywhere holds attributes ↔ ∀ visit ∈ visitsAll index attributes, holds visit.attr := by
  rw [Everywhere, ← List.forall_mem_map (P := holds), visits_attrs attributes 0 index,
    List.forall_mem_map]

/-- What holds of every attribute holds of the first, of those below it and of the others. -/
theorem everywhere_cons {holds : Attribute → Prop} {attr : Attribute} {rest : List Attribute} :
    Everywhere holds (attr :: rest) ↔
      holds attr ∧ Everywhere holds attr.children ∧ Everywhere holds rest := by
  rw [Everywhere, visitsAll_cons, List.forall_mem_cons, List.forall_mem_append,
    List.forall_mem_map, everywhere_visits rest (0 + 1)]
  rfl

/-- What holds of every attribute holds of each at the top and of every one below it. -/
theorem everywhere_iff {holds : Attribute → Prop} {attributes : List Attribute} :
    Everywhere holds attributes ↔
      ∀ attr ∈ attributes, holds attr ∧ Everywhere holds attr.children := by
  induction attributes with
  | nil => simp [Everywhere, visitsAll]
  | cons attr rest ih => rw [everywhere_cons, List.forall_mem_cons, ih, and_assoc]

/-- What holds of every attribute holds of every one below each of them. -/
theorem Everywhere.below {holds : Attribute → Prop} {attributes : List Attribute}
    (h : Everywhere holds attributes) :
    Everywhere (fun attr => Everywhere holds attr.children) attributes := by
  induction attributes using forest_induction with
  | nil => simp [Everywhere, visitsAll]
  | cons field children rest ihChildren ihRest =>
      obtain ⟨-, hchildren, hrest⟩ := everywhere_cons.1 h
      exact everywhere_cons.2 ⟨hchildren, ihChildren hchildren, ihRest hrest⟩

/-- Something holds of the attributes at the top and of the children of each attribute. -/
def EveryLevel (holds : List Attribute → Prop) (attributes : List Attribute) : Prop :=
  holds attributes ∧ ∀ visit ∈ visitsAll 0 attributes, holds visit.attr.children

instance (holds : List Attribute → Prop) [DecidablePred holds] (attributes : List Attribute) :
    Decidable (EveryLevel holds attributes) :=
  inferInstanceAs (Decidable (_ ∧ _))

/-- An attribute is met at its place among its siblings. -/
theorem in_of_getElem {attributes : List Attribute} {attr : Attribute} {index : Nat}
    (h : attributes[index]? = some attr) : Visit.In ⟨[index], [], attr⟩ attributes := by
  simp [Visit.In, Visit.way, way?, h]

/-- What is met below an attribute is met from its siblings. -/
theorem Visit.In.below {attributes : List Attribute} {attr : Attribute} {index : Nat}
    (h : attributes[index]? = some attr) {visit : Visit} (hvisit : visit.In attr.children) :
    (visit.below index attr).In attributes := by
  rw [In] at hvisit
  simp [In, Visit.below, way, way?, h, hvisit]

/-- What holds at every level holds at every level below an attribute. -/
theorem EveryLevel.below {holds : List Attribute → Prop} {attributes : List Attribute}
    (h : EveryLevel holds attributes) {attr : Attribute} (hattr : attr ∈ attributes) :
    EveryLevel holds attr.children := by
  obtain ⟨index, hindex⟩ := List.mem_iff_getElem?.1 hattr
  refine ⟨h.2 _ (mem_visits.2 (in_of_getElem hindex)), fun visit hvisit => ?_⟩
  exact h.2 (visit.below index attr) (mem_visits.2 (.below hindex (mem_visits.1 hvisit)))

/-- What a walk meets is among the siblings that it starts from, or a child of something that it
meets. -/
theorem parent_of_visit {attributes : List Attribute} {index : Nat} {visit : Visit}
    (h : visit ∈ visitsAll index attributes) :
    visit.attr ∈ attributes ∨
      ∃ parent ∈ visitsAll index attributes, visit.attr ∈ parent.attr.children := by
  induction attributes using forest_induction generalizing index visit with
  | nil => simp [visitsAll] at h
  | cons field children rest ihChildren ihRest =>
      rw [visitsAll_cons] at h ⊢
      rw [List.mem_cons, List.mem_append, List.mem_map] at h
      rcases h with rfl | ⟨inner, hinner, rfl⟩ | hlater
      · exact .inl List.mem_cons_self
      · rcases ihChildren hinner with hchild | ⟨parent, hparent, hchild⟩
        · exact .inr ⟨_, List.mem_cons_self, hchild⟩
        · exact .inr ⟨_, List.mem_cons_of_mem _ (List.mem_append_left _
            (List.mem_map_of_mem hparent)), hchild⟩
      · rcases ihRest hlater with hsibling | ⟨parent, hparent, hchild⟩
        · exact .inl (List.mem_cons_of_mem _ hsibling)
        · exact .inr ⟨parent, List.mem_cons_of_mem _ (List.mem_append_right _ hparent), hchild⟩

/-- No attribute below stands deeper than so many levels. -/
def Levels (levels : Nat) (attributes : List Attribute) : Prop :=
  ∀ visit ∈ visitsAll 0 attributes, visit.position.length ≤ levels

/-- Below an attribute there is one level less. -/
theorem Levels.below {levels : Nat} {attributes : List Attribute} (h : Levels levels attributes)
    {attr : Attribute} (hattr : attr ∈ attributes) :
    0 < levels ∧ Levels (levels - 1) attr.children := by
  obtain ⟨index, hindex⟩ := List.mem_iff_getElem?.1 hattr
  have hself := h _ (mem_visits.2 (in_of_getElem hindex))
  refine ⟨hself, fun visit hvisit => ?_⟩
  have hbelow := h _ (mem_visits.2 (.below hindex (mem_visits.1 hvisit)))
  rw [Visit.below, List.length_cons] at hbelow
  omega

end Stencil.Schema
