import Mathlib.Data.List.Forall2

/-!
# Outcomes of steps that can fail

How a sequence of steps that can fail is taken apart when it is known to have a value.
-/

namespace Stencil

variable {ε α β : Type}

/-- A sequence has a value exactly if its first part and what follows have one. -/
theorem bind_ok_iff {first : Except ε α} {next : α → Except ε β} {value : β} :
    first >>= next = .ok value ↔ ∃ middle, first = .ok middle ∧ next middle = .ok value := by
  cases first with
  | error fault => simp [bind, Except.bind]
  | ok middle => simp [bind, Except.bind]

/-- A sequence fails exactly if its first part fails or what follows does. -/
theorem bind_error_iff {first : Except ε α} {next : α → Except ε β} {fault : ε} :
    first >>= next = .error fault ↔
      first = .error fault ∨ ∃ middle, first = .ok middle ∧ next middle = .error fault := by
  cases first with
  | error other => simp [bind, Except.bind]
  | ok middle => simp [bind, Except.bind]

/-- A value stays, whatever is said about faults. -/
@[simp]
theorem mapError_ok {ζ : Type} (say : ε → ζ) (value : α) :
    (Except.ok value : Except ε α).mapError say = .ok value :=
  rfl

/-- A fault becomes what is said about it. -/
@[simp]
theorem mapError_error {ζ : Type} (say : ε → ζ) (fault : ε) :
    (Except.error fault : Except ε α).mapError say = .error (say fault) :=
  rfl

/-- A step has a value whatever is said about its faults. -/
theorem mapError_ok_iff {ζ : Type} {outcome : Except ε α} {say : ε → ζ} {value : α} :
    outcome.mapError say = .ok value ↔ outcome = .ok value := by
  cases outcome <;> simp

/-- An outcome is known to have a value if its value is known. -/
theorem toOption_eq_some_iff {outcome : Except ε α} {value : α} :
    outcome.toOption = some value ↔ outcome = .ok value := by
  cases outcome <;> simp [Except.toOption]

/-- A list of steps has values exactly if each step has its value. -/
theorem mapM_ok_iff {step : α → Except ε β} {list : List α} {values : List β} :
    list.mapM step = .ok values ↔
      List.Forall₂ (fun item value => step item = .ok value) list values := by
  induction list generalizing values with
  | nil => simp [pure, Except.pure, eq_comm]
  | cons item rest ih =>
      simp only [List.mapM_cons, bind_ok_iff, ih, List.forall₂_cons_left_iff]
      constructor
      · rintro ⟨value, hvalue, others, hothers, hvalues⟩
        exact ⟨value, others, hvalue, hothers, (Except.ok.inj hvalues).symm⟩
      · rintro ⟨value, others, hvalue, hothers, rfl⟩
        exact ⟨value, hvalue, others, hothers, rfl⟩

/-- In lists that are related member by member, each member of the second has one of the first. -/
theorem exists_of_forall₂ {related : α → β → Prop} {list : List α} {values : List β}
    (h : List.Forall₂ related list values) {value : β} (hvalue : value ∈ values) :
    ∃ item ∈ list, related item value := by
  induction h with
  | nil => cases hvalue
  | cons hfirst _ ih =>
      rcases List.mem_cons.1 hvalue with rfl | hrest
      · exact ⟨_, List.mem_cons_self, hfirst⟩
      · obtain ⟨item, hitem, hrelated⟩ := ih hrest
        exact ⟨item, List.mem_cons_of_mem _ hitem, hrelated⟩

/-- Lists that are related member by member are also related as the members of the first allow. -/
theorem forall₂_imp_of_mem {related other : α → β → Prop} {list : List α} {values : List β}
    (h : List.Forall₂ related list values)
    (himp : ∀ item ∈ list, ∀ value, related item value → other item value) :
    List.Forall₂ other list values := by
  have hboth := (List.forall₂_and_left _ _).2 ⟨himp, h⟩
  exact hboth.imp fun item value ⟨hother, hvalue⟩ => hother value hvalue

/-- Values that are kept with the items that they are of are the values. -/
theorem mapM_paired (step : α → Except ε β) (list : List α) :
    (list.mapM fun item => (step item).map fun value => (item, value)).map (·.map (·.2)) =
      list.mapM step := by
  induction list with
  | nil => rfl
  | cons item rest ih =>
      simp only [List.mapM_cons, ← ih]
      cases step item with
      | error fault => rfl
      | ok value =>
          cases rest.mapM fun item => (step item).map fun value => (item, value) <;> rfl

end Stencil
