import Stencil.Proofs.Template.Kind

/-!
# Scopes with names of their kinds

In a scope in which what is bound is of its kind (`Typed`), every expression comes to a value of the
kind that the check gives it (`Expr.eval_kind`), provided that calls which leave the tree come to
texts that may be inserted (`Honest`). A scope stays so if a name is bound to a value of its kind
and if a loop is entered.
-/

namespace Stencil.Template

open Section (Level)

/-- The loop may be called again: it runs over attributes, and its body passes the check after calm
text. -/
def RunningLoop.Again (kinds : Kinds) (running : RunningLoop) : Prop :=
  ∃ name level, running.target = .name name ∧ kinds.Binds name ∧ kinds.of name = .attr ∧
    Stmt.flowAll kinds .calm running.body = some level ∧ Level.calm.rank ≤ level.rank

/-- What is bound in a scope may be, and is of its kind; and the recursive loops may be called
again. -/
structure Typed (tame : Prop) (kinds : Kinds) (scope : Scope) : Prop where
  proper : kinds.Proper
  bound : ∀ frame ∈ scope.frames, ∀ binding ∈ frame.bindings,
    kinds.Binds binding.1 ∧ HasKind tame kinds (kinds.of binding.1) binding.2
  loops : ∀ frame ∈ scope.frames, ∀ running, frame.loop = some running →
    running.recursive = true → running.Again kinds

/-- Calls that leave the tree come to texts that may be inserted. -/
structure Honest (tame : Prop) (kinds : Kinds) (invoke : Invoke) : Prop where
  macroIn : ∀ {scope : Scope} {home : Nat} {parameters : List String} {body : List Stmt}
    {arguments : List Value} {value : Value}, Typed tame kinds scope →
    (∀ parameter ∈ parameters, kinds.Binds parameter) →
    (Stmt.flowAll kinds .calm body).isSome →
    List.Forall₂ (HasKind tame kinds) (parameters.map kinds.of) arguments →
    invoke scope (.macroIn home ⟨parameters, [], body⟩) arguments [] = .ok value →
    HasKind tame kinds .text value
  loop : ∀ {scope : Scope} {running : RunningLoop} {items value : Value}, Typed tame kinds scope →
    running.Again kinds → HasKind tame kinds .attrs items →
    invoke scope (.loop running) [items] [] = .ok value → HasKind tame kinds .text value

variable {tame : Prop} {kinds : Kinds} {library : Library} {invoke : Invoke} {scope : Scope}
  {value : Value} {name : String} {kind : Kind}

section Names

/-- What is looked up is in the list, under its name. -/
theorem mem_of_lookup_eq {α : Type} {bound : List (String × α)} {found : α}
    (h : bound.lookup name = some found) : (name, found) ∈ bound := by
  obtain ⟨before, after, rfl, -⟩ := List.lookup_eq_some_iff.1 h
  simp

/-- The loop is no built-in function. -/
theorem ofName_loop : Builtin.ofName? "loop" = none := by decide

/-- The limit on nesting is no built-in function. -/
theorem ofName_limit : Builtin.ofName? depthLimitName = none := by decide

/-- What is found below a height is found in a frame. -/
theorem findBelow_mem {frames : List Frame} {limit : Nat}
    (h : Scope.findBelow? name limit frames = some value) :
    ∃ frame ∈ frames, frame.find? name = some value := by
  induction frames generalizing limit with
  | nil => cases h
  | cons frame rest ih =>
      rw [Scope.findBelow?] at h
      split at h
      · obtain ⟨other, hother, hfind⟩ := ih h
        exact ⟨other, List.mem_cons_of_mem _ hother, hfind⟩
      · split at h
        · next hfind =>
            obtain rfl := Option.some.inj h
            exact ⟨frame, List.mem_cons_self, hfind⟩
        · obtain ⟨other, hother, hfind⟩ := ih h
          exact ⟨other, List.mem_cons_of_mem _ hother, hfind⟩

/-- The innermost loop is that of a frame. -/
theorem loopOf_mem {frames : List Frame} {running : RunningLoop}
    (h : Scope.loopOf? frames = some running) : ∃ frame ∈ frames, frame.loop = some running := by
  induction frames with
  | nil => cases h
  | cons frame rest ih =>
      rw [Scope.loopOf?] at h
      split at h
      · next hloop =>
          obtain rfl := Option.some.inj h
          exact ⟨frame, List.mem_cons_self, hloop⟩
      · split at h
        · cases h
        · obtain ⟨other, hother, hloop⟩ := ih h
          exact ⟨other, List.mem_cons_of_mem _ hother, hloop⟩

/-- A name that may be bound hides nothing that means the same everywhere. -/
theorem Kinds.Binds.proper (h : kinds.Binds name) (hproper : kinds.Proper) :
    name ≠ "loop" ∧ name ≠ depthLimitName ∧ Builtin.ofName? name = none := by
  obtain ⟨kind, hkind⟩ := Option.isSome_iff_exists.1 h
  exact hproper (name, kind) (mem_of_lookup_eq hkind)

/-- A value in a frame is bound there, or the position of its loop. -/
theorem Typed.find_frame (h : Typed tame kinds scope) {frame : Frame}
    (hframe : frame ∈ scope.frames) (hfind : frame.find? name = some value) :
    kinds.Binds name ∧ HasKind tame kinds (kinds.of name) value ∨
      name = "loop" ∧ ∃ loop, value = .position loop := by
  rw [Frame.find?] at hfind
  split at hfind
  · next found hlookup =>
      obtain rfl := Option.some.inj hfind
      exact .inl (h.bound frame hframe _ (mem_of_lookup_eq hlookup))
  · split at hfind
    · next hname =>
        obtain ⟨running, -, rfl⟩ := Option.map_eq_some_iff.1 hfind
        exact .inr ⟨hname, _, rfl⟩
    · cases hfind

/-- A built-in function is found under its name. -/
theorem Typed.find_builtin (h : Typed tame kinds scope) {builtin : Builtin}
    (hbuiltin : Builtin.ofName? name = some builtin)
    (hfind : scope.find? library name = some value) :
    value = .function builtin := by
  have hframes : Scope.findBelow? name scope.frames.length scope.frames = none := by
    by_contra hsome
    obtain ⟨found, hfound⟩ := Option.ne_none_iff_exists'.1 hsome
    obtain ⟨frame, hframe, hvalue⟩ := findBelow_mem hfound
    rcases h.find_frame hframe hvalue with ⟨hbinds, -⟩ | ⟨rfl, -⟩
    · rw [(hbinds.proper h.proper).2.2] at hbuiltin
      cases hbuiltin
    · rw [ofName_loop] at hbuiltin
      cases hbuiltin
  have hlimit : name ≠ depthLimitName := by
    rintro rfl
    rw [ofName_limit] at hbuiltin
    cases hbuiltin
  rw [Scope.find?, hframes, Option.none_or, Library.global?, if_neg hlimit, hbuiltin] at hfind
  exact (Option.some.inj hfind).symm

/-- What is found under a name is of the kind that the check gives it. -/
theorem Typed.find (h : Typed tame kinds scope) (hfind : scope.find? library name = some value) :
    HasKind tame kinds (if name = "loop" then .position else kinds.of name) value := by
  rcases Option.or_eq_some_iff.1 hfind with hfound | ⟨-, hglobal⟩
  · obtain ⟨frame, hframe, hvalue⟩ := findBelow_mem hfound
    rcases h.find_frame hframe hvalue with ⟨hbinds, hkind⟩ | ⟨rfl, loop, rfl⟩
    · rwa [if_neg (hbinds.proper h.proper).1]
    · exact .position loop
  · -- What means the same everywhere may not be bound.
    split
    · next hname =>
        rw [hname, Library.global?, if_neg (by decide), ofName_loop] at hglobal
        cases hglobal
    · by_cases hbinds : kinds.Binds name
      · obtain ⟨-, hlimit, hbuiltin⟩ := hbinds.proper h.proper
        rw [Library.global?, if_neg hlimit, hbuiltin] at hglobal
        cases hglobal
      · rw [Kinds.of, Option.not_isSome_iff_eq_none.1 hbinds, Option.getD_none]
        exact .any value

/-- A call of a name comes to a value of the kind that the check gives it. -/
theorem callName_kind (hinvoke : Honest tame kinds invoke) (htyped : Typed tame kinds scope)
    {kindsOf : List Kind} {arguments : List Value}
    (harguments : List.Forall₂ (HasKind tame kinds) kindsOf arguments)
    (h : callName library invoke scope name arguments [] = .ok value) :
    HasKind tame kinds (kinds.call name kindsOf) value := by
  rw [callName] at h
  split at h
  · next hname =>
      -- The name of the loop: a recursive loop runs again over its one argument.
      rw [Kinds.call, if_pos hname]
      split
      · next hkinds =>
          rw [hkinds] at harguments
          obtain ⟨list, _, hlist, hnil, rfl⟩ := List.forall₂_cons_left_iff.1 harguments
          obtain rfl := List.forall₂_nil_left_iff.1 hnil
          split at h
          · next running hloop =>
              obtain ⟨frame, hframe, hrunning⟩ := loopOf_mem hloop
              split at h
              · next hagain =>
                  simp only [Bool.and_eq_true] at hagain
                  exact hinvoke.loop htyped (htyped.loops frame hframe running hrunning hagain.1.1)
                    hlist h
              · cases h
          · cases h
      · exact .any value
  · next hname =>
      split at h
      · next callee hfind =>
          cases hbuiltin : Builtin.ofName? name with
          | some builtin =>
              obtain rfl := htyped.find_builtin hbuiltin hfind
              exact .call hbuiltin hname harguments h
          | none =>
              have hcallee := htyped.find hfind
              rw [if_neg hname] at hcallee
              rw [Kinds.call, if_neg hname, hbuiltin]
              dsimp only
              split
              · next parameters hkind =>
                  rw [hkind] at hcallee
                  split
                  · next hparameters =>
                      rw [← hparameters] at harguments
                      cases hcallee with
                      | missing => cases h
                      | macroOf home hbinds hbody =>
                          exact hinvoke.macroIn htyped hbinds hbody harguments h
                  · exact .any value
              · exact .any value
      · cases h

mutual

/-- An expression comes to a value of the kind that the check gives it. -/
theorem Expr.eval_kind (hinvoke : Honest tame kinds invoke) (htyped : Typed tame kinds scope) :
    (expr : Expr) → {value : Value} → expr.eval library invoke scope = .ok value →
      HasKind tame kinds (expr.kind kinds) value
  | .literal (.text content), value, h => by
      obtain rfl := Except.ok.inj h
      rw [Expr.kind]
      split
      · next htame => exact .text (.of_tame fun _ => htame)
      · exact .any _
  | .var name, value, h => by
      obtain rfl := Except.ok.inj h
      rw [Expr.kind]
      cases hfind : scope.find? library name with
      | none => exact .missing _ false
      | some found => exact htyped.find hfind
  | .member base name, value, h => by
      rw [Expr.eval, bind_ok_iff] at h
      obtain ⟨held, hheld, hmember⟩ := h
      exact (Expr.eval_kind hinvoke htyped base hheld).member hmember
  | .choose condition yes no, value, h => by
      simp only [Expr.eval, bind_ok_iff] at h
      obtain ⟨-, -, answer, -, h⟩ := h
      rw [Expr.kind]
      split
      · next hkinds =>
          split at h
          · exact Expr.eval_kind hinvoke htyped yes h
          · exact hkinds ▸ Expr.eval_kind hinvoke htyped no h
      · exact .any value
  | .call name arguments [], value, h => by
      rw [Expr.eval, bind_ok_iff] at h
      obtain ⟨values, hvalues, hcall⟩ := h
      exact callName_kind hinvoke htyped
        (Expr.evalAll_kinds hinvoke htyped arguments hvalues) hcall
  | .literal .none, value, _ | .literal (.bool _), value, _ | .literal (.int _), value, _
  | .literal (.float _), value, _ | .list _, value, _ | .map _, value, _ | .item _ _, value, _
  | .unary _ _, value, _ | .binary _ _ _, value, _ | .both _ _, value, _ | .either _ _, value, _
  | .only _ _, value, _ | .filter _ _ _, value, _ | .test _ _ _, value, _
  | .call _ _ (_ :: _), value, _ | .callValue _ _ _, value, _ | .callMethod _ _ _ _, value, _ =>
      .any value

/-- Expressions come to values of the kinds that the check gives them. -/
theorem Expr.evalAll_kinds (hinvoke : Honest tame kinds invoke) (htyped : Typed tame kinds scope) :
    (exprs : List Expr) → {values : List Value} →
      Expr.evalAll library invoke scope exprs = .ok values →
      List.Forall₂ (HasKind tame kinds) (Expr.kindAll kinds exprs) values
  | [], values, h => by
      obtain rfl := Except.ok.inj h
      exact .nil
  | first :: rest, values, h => by
      simp only [Expr.evalAll, bind_ok_iff] at h
      obtain ⟨value, hvalue, others, hothers, h⟩ := h
      obtain rfl := Except.ok.inj h
      exact .cons (Expr.eval_kind hinvoke htyped first hvalue)
        (Expr.evalAll_kinds hinvoke htyped rest hothers)

end

end Names

section Scopes

/-- A name that may be bound is bound to a value of its kind. -/
theorem Typed.set (h : Typed tame kinds scope) (hbinds : kinds.Binds name)
    (hvalue : HasKind tame kinds (kinds.of name) value) :
    Typed tame kinds (scope.set name value) := by
  obtain ⟨frames, depth⟩ := scope
  cases frames with
  | nil => exact h
  | cons frame rest =>
      obtain ⟨hproper, hbound, hloops⟩ := h
      obtain ⟨hframe, hrest⟩ := List.forall_mem_cons.1 hbound
      exact ⟨hproper,
        List.forall_mem_cons.2 ⟨List.forall_mem_cons.2 ⟨⟨hbinds, hvalue⟩, hframe⟩, hrest⟩,
        List.forall_mem_cons.2 (List.forall_mem_cons.1 hloops)⟩

/-- The items that a loop has come to do not count. -/
theorem Typed.atIndex (h : Typed tame kinds scope) (index : Nat) :
    Typed tame kinds (scope.atIndex index) := by
  obtain ⟨frames, depth⟩ := scope
  cases frames with
  | nil => exact h
  | cons frame rest =>
      obtain ⟨hproper, hbound, hloops⟩ := h
      obtain ⟨hframe, hrest⟩ := List.forall_mem_cons.1 hloops
      refine ⟨hproper, List.forall_mem_cons.2 (List.forall_mem_cons.1 hbound),
        List.forall_mem_cons.2 ⟨?_, hrest⟩⟩
      intro running hrunning hrecursive
      obtain ⟨before, hbefore, rfl⟩ := Option.map_eq_some_iff.1 hrunning
      exact hframe before hbefore hrecursive

/-- A frame on top of a scope. -/
theorem Typed.cons (h : Typed tame kinds scope) {frame : Frame} {depth : Nat}
    (hbound : ∀ binding ∈ frame.bindings,
      kinds.Binds binding.1 ∧ HasKind tame kinds (kinds.of binding.1) binding.2)
    (hloop : ∀ running, frame.loop = some running → running.recursive = true →
      running.Again kinds) : Typed tame kinds ⟨frame :: scope.frames, depth⟩ where
  proper := h.proper
  bound := List.forall_mem_cons.2 ⟨hbound, h.bound⟩
  loops := List.forall_mem_cons.2 ⟨hloop, h.loops⟩

/-- The frame of a loop on top of a scope. -/
theorem Typed.push (h : Typed tame kinds scope) {running : RunningLoop} {inner : Scope}
    (hagain : running.recursive = true → running.Again kinds)
    (hpush : scope.push ⟨[], some running, none⟩ = .ok inner) : Typed tame kinds inner := by
  rw [Scope.push] at hpush
  split at hpush
  · cases hpush
  · obtain rfl := Except.ok.inj hpush
    refine h.cons (by simp) ?_
    rintro _ ⟨⟩
    exact hagain

end Scopes

end Stencil.Template
