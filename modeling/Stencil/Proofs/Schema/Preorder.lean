import Stencil.Proofs.Schema.Nested

/-!
# Nested types in order

What listing the composite attributes of a tree comes to, whatever the tree and whatever the depth
allowed (`nestedTypes_exact`): all of them in the order of their positions if none lies too deep,
and else the fault of the first one that lies one level too deep. Deeper ones are never reached,
because the way to them leads through one that is already too deep.
-/

namespace Stencil.Schema

open Attribute (visitsAll)

/-- No composite attribute of a tree lies deeper than allowed. -/
def Shallow (maxDepth : Nat) (attributes : List Attribute) : Prop :=
  ∀ visit : Visit, visit.In attributes → visit.attr.isComposite = true →
    visit.position.length ≤ maxDepth

/-- The composite attributes of a tree, each at one position, in the order of their positions. -/
structure Preorder (attributes : List Attribute) (visits : List Visit) : Prop where
  sorted : visits.Pairwise fun first second => first.position < second.position
  mem_iff : ∀ visit : Visit,
    visit ∈ visits ↔ visit.In attributes ∧ visit.attr.isComposite = true

/-- The first composite attribute of a tree among those at a level. -/
structure FirstAt (level : Nat) (attributes : List Attribute) (visit : Visit) : Prop where
  mem : visit.In attributes
  composite : visit.attr.isComposite = true
  depth : visit.position.length = level
  first : ∀ other : Visit, other.In attributes → other.attr.isComposite = true →
    other.position.length = level → ¬ other.position < visit.position

/-- A walk meets the composite attributes in order. -/
theorem preorder_compositeVisits (attributes : List Attribute) :
    Preorder attributes (compositeVisits 0 attributes) where
  sorted := (visits_sorted 0 attributes).filter _
  mem_iff visit := by
    show visit ∈ (visitsAll 0 attributes).filter (·.attr.isComposite) ↔ _
    rw [List.mem_filter, mem_visits]

/-- A composite attribute that no walk meets another one of its level before is the first one. -/
theorem firstAt_of_split {level : Nat} {attributes : List Attribute} {before after : List Visit}
    {visit : Visit} (hsplit : compositeVisits 0 attributes = before ++ visit :: after)
    (hlevel : visit.position.length = level)
    (hbefore : ∀ earlier ∈ before, earlier.position.length ≠ level) :
    FirstAt level attributes visit := by
  obtain ⟨hsorted, hmem⟩ := preorder_compositeVisits attributes
  rw [hsplit] at hsorted hmem
  obtain ⟨hin, hcomposite⟩ := (hmem visit).1 (List.mem_append_right _ List.mem_cons_self)
  refine ⟨hin, hcomposite, hlevel, ?_⟩
  intro other hother hcomposite' hlevel' hless
  rcases List.mem_append.1 ((hmem other).2 ⟨hother, hcomposite'⟩) with hearlier | hlater
  · exact hbefore other hearlier hlevel'
  · -- Nothing that is met from `visit` on has a lesser position.
    rcases List.mem_cons.1 hlater with rfl | hafter
    · exact List.lt_irrefl _ hless
    · have hrest := (List.pairwise_append.1 hsorted).2.1
      exact List.lt_asymm ((List.pairwise_cons.1 hrest).1 other hafter) hless

/-- Among attributes met from a depth on, the first that is one level too deep makes this fault. -/
def Offends (maxDepth depth : Nat) (visits : List Visit) (fault : DepthExceeded) : Prop :=
  ∃ before visit after, visits = before ++ visit :: after ∧
    visit.position.length + depth = maxDepth + 2 ∧
    (∀ earlier ∈ before, earlier.position.length + depth ≠ maxDepth + 2) ∧
    fault = ⟨visit.attr.field.typeName, maxDepth + 1, maxDepth⟩

namespace Offends

variable {maxDepth depth : Nat} {visits : List Visit} {fault : DepthExceeded}

/-- What is met later does not matter. -/
theorem append (h : Offends maxDepth depth visits fault) (later : List Visit) :
    Offends maxDepth depth (visits ++ later) fault := by
  obtain ⟨before, visit, after, rfl, hlevel, hbefore, hfault⟩ := h
  exact ⟨before, visit, after ++ later, by simp, hlevel, hbefore, hfault⟩

/-- What is met earlier does not matter if none of it is one level too deep. -/
theorem prepend (h : Offends maxDepth depth visits fault) {earlier : List Visit}
    (hearlier : ∀ visit ∈ earlier, visit.position.length + depth ≤ maxDepth + 1) :
    Offends maxDepth depth (earlier ++ visits) fault := by
  obtain ⟨before, visit, after, rfl, hlevel, hbefore, hfault⟩ := h
  refine ⟨earlier ++ before, visit, after, by simp, hlevel, ?_, hfault⟩
  intro other hother
  rcases List.mem_append.1 hother with h | h
  · have hother := hearlier other h
    omega
  · exact hbefore other h

/-- What is met below an attribute lies one level deeper. -/
theorem below (h : Offends maxDepth (depth + 1) visits fault) (index : Nat) (attr : Attribute) :
    Offends maxDepth depth (visits.map (Visit.below index attr)) fault := by
  obtain ⟨before, visit, after, rfl, hlevel, hbefore, hfault⟩ := h
  refine ⟨before.map (Visit.below index attr), visit.below index attr,
    after.map (Visit.below index attr), by simp, ?_, ?_, hfault⟩
  · show visit.position.length + 1 + depth = maxDepth + 2
    omega
  · rw [List.forall_mem_map]
    intro earlier hearlier
    have hother := hbefore earlier hearlier
    show earlier.position.length + 1 + depth ≠ maxDepth + 2
    omega

end Offends

/-- A sibling at a depth fails to be listed because of itself or of something below it. -/
theorem compositesFrom_error {maxDepth depth : Nat} {attr : Attribute} {fault : DepthExceeded}
    (h : attr.compositesFrom maxDepth depth = .error fault) :
    attr.isComposite = true ∧ (maxDepth < depth ∧ fault = ⟨attr.field.typeName, depth, maxDepth⟩ ∨
      depth ≤ maxDepth ∧ compositesFromAll maxDepth (depth + 1) attr.children = .error fault) := by
  obtain ⟨field, children⟩ := attr
  rw [Attribute.compositesFrom] at h
  split at h
  · cases h
  · next hchildren =>
      refine ⟨by simpa [Attribute.isComposite] using hchildren, ?_⟩
      split at h
      · next hdeep => exact .inl ⟨hdeep, (Except.error.inj h).symm⟩
      · next hshallow =>
          obtain hbelow | ⟨below, -, hpure⟩ := bind_error_iff.1 h
          · exact .inr ⟨Nat.le_of_not_lt hshallow, hbelow⟩
          · cases hpure

/-- If the composite attributes from a depth on cannot be listed, the fault is that of the first one
a walk meets one level too deep. -/
theorem compositesFromAll_error {maxDepth depth : Nat} {attributes : List Attribute}
    {fault : DepthExceeded} (h : compositesFromAll maxDepth depth attributes = .error fault)
    (hdepth : depth ≤ maxDepth + 1) (index : Nat) :
    Offends maxDepth depth (compositeVisits index attributes) fault := by
  induction attributes using forest_induction generalizing depth fault index with
  | nil => cases h
  | cons field children rest ihChildren ihRest =>
      rw [compositesFromAll, bind_error_iff] at h
      rcases h with hfirst | ⟨first, hfirst, hothers⟩
      · obtain ⟨hcomposite, hself | ⟨hshallow, hbelow⟩⟩ := compositesFrom_error hfirst
        · -- The depth is the first that is not allowed, so the first sibling stands in it.
          obtain ⟨hdeep, rfl⟩ := hself
          obtain rfl : depth = maxDepth + 1 := by omega
          rw [compositeVisits_split, if_pos hcomposite]
          refine ⟨[], ⟨[index], [], ⟨field, children⟩⟩, _, rfl, ?_, by simp, rfl⟩
          show 1 + (maxDepth + 1) = maxDepth + 2
          omega
        · rw [compositeVisits_split, if_pos hcomposite]
          have hchildren := (ihChildren hbelow (by omega) 0).below index ⟨field, children⟩
          refine (hchildren.prepend ?_).append _
          intro visit hvisit
          obtain rfl := List.mem_singleton.1 hvisit
          show 1 + depth ≤ maxDepth + 1
          omega
      · -- The first sibling and what is below it are listed, so none of that is too deep.
        obtain hothers | ⟨others, -, hpure⟩ := bind_error_iff.1 hothers
        · have hlisted : compositesFromAll maxDepth depth [⟨field, children⟩] =
              .ok (first ++ []) := by
            rw [compositesFromAll, hfirst]
            rfl
          have hlevels := compositesFromAll_levels hlisted hdepth index
          have hsplit : compositeVisits index (⟨field, children⟩ :: rest) =
              compositeVisits index [⟨field, children⟩] ++ compositeVisits (index + 1) rest := by
            rw [compositeVisits_split, compositeVisits_split index _ []]
            simp [compositeVisits, visitsAll]
          rw [hsplit]
          refine (ihRest hothers hdepth (index + 1)).prepend ?_
          intro visit hvisit
          obtain ⟨hmet, hcomposite⟩ := List.mem_filter.1 hvisit
          exact (hlevels visit hmet).2 hcomposite
        · cases hpure

/-- The composite attributes of a tree are listed in order, each once, if none lies too deep. Else
the first of those that lie one level too deep is the fault. -/
theorem nestedTypes_exact (attributes : List Attribute) (maxDepth : Nat) :
    (Shallow maxDepth attributes → ∃ visits, Preorder attributes visits ∧
      nestedTypes attributes maxDepth = .ok (visits.map (·.attr))) ∧
    (¬ Shallow maxDepth attributes → ∃ visit, FirstAt (maxDepth + 1) attributes visit ∧
      nestedTypes attributes maxDepth =
        .error ⟨visit.attr.field.typeName, maxDepth + 1, maxDepth⟩) := by
  cases h : nestedTypes attributes maxDepth with
  | ok types =>
      have hshallow : Shallow maxDepth attributes := by
        intro visit hvisit hcomposite
        exact (nestedTypes_levels h).2 visit (mem_visits.2 hvisit) hcomposite
      refine ⟨fun _ => ⟨compositeVisits 0 attributes, preorder_compositeVisits attributes, ?_⟩,
        fun hdeep => absurd hshallow hdeep⟩
      rw [nestedTypes_ok h]
  | error fault =>
      obtain ⟨before, visit, after, hsplit, hlevel, hbefore, hfault⟩ :=
        compositesFromAll_error h (by omega) 0
      have hfirst : FirstAt (maxDepth + 1) attributes visit := by
        refine firstAt_of_split hsplit (by omega) ?_
        intro earlier hearlier
        have hother := hbefore earlier hearlier
        omega
      refine ⟨fun hshallow => ?_, fun _ => ⟨visit, hfirst, by rw [hfault]⟩⟩
      have hdepth := hshallow visit hfirst.mem hfirst.composite
      have hlevel' := hfirst.depth
      omega

end Stencil.Schema
