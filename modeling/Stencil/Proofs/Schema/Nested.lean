import Mathlib.Data.List.Nodup
import Stencil.Proofs.Outcome
import Stencil.Proofs.Schema.Position
import Stencil.Schema.Nested

/-!
# Nested types of a tree

The composite attributes that are listed, where none lies too deep, are those that a walk through
the tree meets, in the order of their positions (`nestedTypes_ok`).
-/

namespace Stencil.Schema

open Attribute (visitsAll)

/-- The composite attributes that a walk meets. -/
def compositeVisits (index : Nat) (attributes : List Attribute) : List Visit :=
  (visitsAll index attributes).filter (·.attr.isComposite)

/-- A walk meets a composite attribute, then those below it, then those of its later siblings. -/
theorem compositeVisits_split (index : Nat) (attr : Attribute) (rest : List Attribute) :
    compositeVisits index (attr :: rest) =
      (if attr.isComposite then [⟨[index], [], attr⟩] else []) ++
        (compositeVisits 0 attr.children).map (Visit.below index attr) ++
          compositeVisits (index + 1) rest := by
  have hbelow : ((visitsAll 0 attr.children).map (Visit.below index attr)).filter
      (·.attr.isComposite) = (compositeVisits 0 attr.children).map (Visit.below index attr) := by
    rw [List.filter_map]
    rfl
  rw [compositeVisits, visitsAll_cons, List.filter_cons, List.filter_append, hbelow]
  split <;> rfl

/-- The attributes that such a walk meets, in the same order. -/
theorem compositeVisits_cons (index : Nat) (attr : Attribute) (rest : List Attribute) :
    (compositeVisits index (attr :: rest)).map (·.attr) =
      (if attr.isComposite then [attr] else []) ++ (compositeVisits 0 attr.children).map (·.attr) ++
        (compositeVisits (index + 1) rest).map (·.attr) := by
  rw [compositeVisits_split]
  split <;> simp [Function.comp_def, Visit.below]

/-- A walk meets no attribute twice. -/
theorem compositeVisits_nodup (index : Nat) (attributes : List Attribute) :
    (compositeVisits index attributes).Nodup := by
  refine List.Nodup.filter _ ((visits_sorted index attributes).imp fun {first second} hless => ?_)
  rintro rfl
  exact List.lt_irrefl _ hless

/-- What is listed from a depth on is what a walk meets. -/
theorem compositesFromAll_ok {maxDepth depth : Nat} {attributes types : List Attribute}
    (h : compositesFromAll maxDepth depth attributes = .ok types) (index : Nat) :
    types = (compositeVisits index attributes).map (·.attr) := by
  induction attributes using forest_induction generalizing depth types index with
  | nil => exact (Except.ok.inj h).symm
  | cons field children rest ihChildren ihRest =>
      rw [compositesFromAll, bind_ok_iff] at h
      obtain ⟨first, hfirst, h⟩ := h
      obtain ⟨others, hothers, h⟩ := bind_ok_iff.1 h
      obtain rfl : first ++ others = types := Except.ok.inj h
      rw [compositeVisits_cons, ihRest hothers (index + 1)]
      congr 1
      rw [Attribute.compositesFrom] at hfirst
      split at hfirst
      · next hempty =>
          obtain rfl : children = [] := by simpa using hempty
          exact (Except.ok.inj hfirst).symm
      · next hchildren =>
          split at hfirst
          · cases hfirst
          · obtain ⟨below, hbelow, hfirst⟩ := bind_ok_iff.1 hfirst
            rw [← Except.ok.inj hfirst, ihChildren hbelow 0]
            simp [Attribute.isComposite, hchildren]

/-- If the composite attributes from a depth on can be listed, none of them lies deeper than
allowed, and so no attribute lies more than one level deeper. -/
theorem compositesFromAll_levels {maxDepth depth : Nat} {attributes types : List Attribute}
    (h : compositesFromAll maxDepth depth attributes = .ok types) (hdepth : depth ≤ maxDepth + 1)
    (index : Nat) :
    ∀ visit ∈ visitsAll index attributes, visit.position.length + depth ≤ maxDepth + 2 ∧
      (visit.attr.isComposite = true → visit.position.length + depth ≤ maxDepth + 1) := by
  induction attributes using forest_induction generalizing depth types index with
  | nil => simp [visitsAll]
  | cons field children rest ihChildren ihRest =>
      rw [compositesFromAll, bind_ok_iff] at h
      obtain ⟨first, hfirst, h⟩ := h
      obtain ⟨others, hothers, -⟩ := bind_ok_iff.1 h
      have hrest := ihRest hothers hdepth (index + 1)
      rw [visitsAll_cons, List.forall_mem_cons, List.forall_mem_append, List.forall_mem_map]
      rw [Attribute.compositesFrom] at hfirst
      split at hfirst
      · next hempty =>
          obtain rfl : children = [] := by simpa using hempty
          refine ⟨⟨?_, by simp [Attribute.isComposite]⟩, by simp [visitsAll], hrest⟩
          rw [List.length_singleton]
          omega
      · split at hfirst
        · cases hfirst
        · obtain ⟨below, hbelow, -⟩ := bind_ok_iff.1 hfirst
          have hdeeper := ihChildren hbelow (by omega) 0
          refine ⟨?_, fun visit hvisit => ?_, hrest⟩
          · rw [List.length_singleton]
            omega
          · obtain ⟨hlevel, hcomposite⟩ := hdeeper visit hvisit
            refine ⟨?_, fun h => ?_⟩
            · rw [Visit.below, List.length_cons]
              omega
            · have hless := hcomposite h
              rw [Visit.below, List.length_cons]
              omega

/-- If the types of a tree can be listed, all composite attributes are within the levels allowed,
and all others at most one level deeper. -/
theorem nestedTypes_levels {maxDepth : Nat} {attributes types : List Attribute}
    (h : nestedTypes attributes maxDepth = .ok types) :
    Levels (maxDepth + 1) attributes ∧ ∀ visit ∈ visitsAll 0 attributes,
      visit.attr.isComposite = true → visit.position.length ≤ maxDepth := by
  have hlevels := compositesFromAll_levels h (by omega) 0
  refine ⟨fun visit hvisit => ?_, fun visit hvisit hcomposite => ?_⟩
  · have hlevel := (hlevels visit hvisit).1
    omega
  · have hlevel := (hlevels visit hvisit).2 hcomposite
    omega

/-- The types that are listed are the composite attributes of the tree, parents first. -/
theorem nestedTypes_ok {maxDepth : Nat} {attributes types : List Attribute}
    (h : nestedTypes attributes maxDepth = .ok types) :
    types = (compositeVisits 0 attributes).map (·.attr) :=
  compositesFromAll_ok h 0

/-- An attribute with children that a walk meets is listed. -/
theorem mem_nestedTypes {maxDepth : Nat} {attributes types : List Attribute}
    (h : nestedTypes attributes maxDepth = .ok types) {visit : Visit}
    (hvisit : visit ∈ visitsAll 0 attributes) (hcomposite : visit.attr.isComposite = true) :
    visit.attr ∈ types := by
  rw [nestedTypes_ok h]
  exact List.mem_map_of_mem (List.mem_filter.2 ⟨hvisit, hcomposite⟩)

/-- What holds of every attribute holds of every one at and below the types that are listed. -/
theorem everywhere_nestedTypes {holds : Attribute → Prop} {maxDepth : Nat}
    {attributes types : List Attribute} (h : Everywhere holds attributes)
    (htypes : nestedTypes attributes maxDepth = .ok types) : Everywhere holds types := by
  rw [everywhere_iff, nestedTypes_ok htypes, List.forall_mem_map]
  intro visit hvisit
  have hmet := (List.mem_filter.1 hvisit).1
  exact ⟨h visit hmet, h.below visit hmet⟩

/-- An attribute that has a child is composite. -/
theorem isComposite_of_mem {attr child : Attribute} (h : child ∈ attr.children) :
    attr.isComposite = true := by
  simpa [Attribute.isComposite] using List.ne_nil_of_mem h

end Stencil.Schema
