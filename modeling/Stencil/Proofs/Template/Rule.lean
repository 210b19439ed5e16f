import Stencil.Proofs.Outcome
import Stencil.Proofs.Template.Scope

/-!
# Rules of rendering

What a template writes is put together from what its parts do: an expression decides a choice
(`Decides`) or is printed (`Prints`), and statements that leave the variables as they are write a
text or fail (`Writes`). Each form of expression and statement has its rule, and so have calls of
macros (`eval_macroIn`) and of the running loop (`eval_again`).
-/

namespace Stencil.Template

section

variable (library : Library) (invoke : Invoke) (scope : Scope)

/-- The expression counts as true or as false. -/
def Decides (expr : Expr) (answer : Bool) : Prop :=
  ∃ value, expr.eval library invoke scope = .ok value ∧ value.truth = .ok answer

/-- The expression prints as a text, or fails. -/
def Prints (expr : Expr) (outcome : Outcome String) : Prop :=
  (do
    let value ← expr.eval library invoke scope
    if value.isLoudlyUndefined then throw .undefinedValue else pure value.print) = outcome

/-- The statements write a text and leave all variables as they are, or fail. -/
def Writes (stmts : List Stmt) (outcome : Outcome String) : Prop :=
  Stmt.runAll library invoke scope stmts = (scope, ·) <$> outcome

/-- The statements write a text, whatever they do to variables, or fail. -/
def Leaves (stmts : List Stmt) (outcome : Outcome String) : Prop :=
  (·.2) <$> Stmt.runAll library invoke scope stmts = outcome

end

variable {library : Library} {invoke : Invoke} {scope : Scope} {expr other : Expr}
  {answer another : Bool} {outcome first second : Outcome String} {stmts rest : List Stmt}

section Value

variable {key : Expr} {arguments : List Expr} {value index : Value} {values : List Value}
  {name : String}

/-- A name that is found is its value. -/
theorem eval_var (h : scope.find? library name = some value) :
    (Expr.var name).eval library invoke scope = .ok value := by
  show Except.ok ((scope.find? library name).getD (.undefined false)) = _
  rw [h, Option.getD_some]

/-- A member of a value. -/
theorem eval_member (h : expr.eval library invoke scope = .ok value) (name : String) :
    (Expr.member expr name).eval library invoke scope = value.member name := by
  show (do (← expr.eval library invoke scope).member name) = _
  rw [h]
  rfl

/-- An item of a value. -/
theorem eval_item (h : expr.eval library invoke scope = .ok value)
    (hkey : key.eval library invoke scope = .ok index) :
    (Expr.item expr key).eval library invoke scope = value.item index := by
  show (do (← expr.eval library invoke scope).item (← key.eval library invoke scope)) = _
  rw [h, hkey]
  rfl

/-- Two values with an operator between them. -/
theorem eval_binary (op : BinaryOp) (h : expr.eval library invoke scope = .ok value)
    (hother : other.eval library invoke scope = .ok index) :
    (Expr.binary op expr other).eval library invoke scope = Value.applyBinary op value index := by
  show (do
    let left ← expr.eval library invoke scope
    let right ← other.eval library invoke scope
    Value.applyBinary op left right) = _
  rw [h, hother]
  rfl

/-- Values one after the other. -/
theorem evalAll_cons (h : expr.eval library invoke scope = .ok value)
    (hrest : Expr.evalAll library invoke scope arguments = .ok values) :
    Expr.evalAll library invoke scope (expr :: arguments) = .ok (value :: values) := by
  show (do
    let value ← expr.eval library invoke scope
    let values ← Expr.evalAll library invoke scope arguments
    pure (value :: values)) = _
  rw [h, hrest]
  rfl

/-- A list of values. -/
theorem eval_list (h : Expr.evalAll library invoke scope arguments = .ok values) :
    (Expr.list arguments).eval library invoke scope = .ok (.list values) := by
  show (do pure (Value.list (← Expr.evalAll library invoke scope arguments))) = _
  rw [h]
  rfl

/-- A call of a name with arguments by position. -/
theorem eval_call (h : Expr.evalAll library invoke scope arguments = .ok values) (name : String) :
    (Expr.call name arguments []).eval library invoke scope =
      callName library invoke scope name values [] := by
  show (do callName library invoke scope name (← Expr.evalAll library invoke scope arguments) []) = _
  rw [h]
  rfl

end Value

/-- A value chosen by a condition. -/
theorem eval_choose (h : Decides library invoke scope expr answer) (yes no : Expr) :
    (Expr.choose expr yes no).eval library invoke scope =
      if answer then yes.eval library invoke scope else no.eval library invoke scope := by
  obtain ⟨value, heval, htruth⟩ := h
  show (do
    let condition ← expr.eval library invoke scope
    if ← condition.truth then yes.eval library invoke scope
    else no.eval library invoke scope) = _
  simp only [heval, htruth, bind, Except.bind]

namespace Decides

/-- A negation. -/
theorem not (h : Decides library invoke scope expr answer) :
    Decides library invoke scope (.unary .not expr) (!answer) := by
  obtain ⟨value, heval, htruth⟩ := h
  refine ⟨.bool !answer, ?_, by cases answer <;> rfl⟩
  show (do (← expr.eval library invoke scope).applyUnary .not) = _
  simp only [heval, Value.applyUnary, htruth, bind, Except.bind, pure, Except.pure]

/-- A conjunction. The second part does not count if the first does not hold. -/
theorem both (h : Decides library invoke scope expr answer)
    (hother : answer = true → Decides library invoke scope other another) :
    Decides library invoke scope (.both expr other) (answer && another) := by
  obtain ⟨value, heval, htruth⟩ := h
  have hvalue : (Expr.both expr other).eval library invoke scope =
      if answer then other.eval library invoke scope else .ok value := by
    show (do
      let left ← expr.eval library invoke scope
      if ← left.truth then other.eval library invoke scope else pure left) = _
    simp only [heval, htruth, bind, Except.bind, pure, Except.pure]
  cases answer with
  | false => exact ⟨value, hvalue, htruth⟩
  | true =>
      obtain ⟨second, hsecond, htruth⟩ := hother rfl
      exact ⟨second, hvalue.trans hsecond, htruth⟩

/-- A disjunction. The second part does not count if the first holds. -/
theorem either (h : Decides library invoke scope expr answer)
    (hother : answer = false → Decides library invoke scope other another) :
    Decides library invoke scope (.either expr other) (answer || another) := by
  obtain ⟨value, heval, htruth⟩ := h
  have hvalue : (Expr.either expr other).eval library invoke scope =
      if answer then .ok value else other.eval library invoke scope := by
    show (do
      let left ← expr.eval library invoke scope
      if ← left.truth then pure left else other.eval library invoke scope) = _
    simp only [heval, htruth, bind, Except.bind, pure, Except.pure]
  cases answer with
  | true => exact ⟨value, hvalue, htruth⟩
  | false =>
      obtain ⟨second, hsecond, htruth⟩ := hother rfl
      exact ⟨second, hvalue.trans hsecond, htruth⟩

/-- A truth value. -/
theorem ofBool (h : expr.eval library invoke scope = .ok (.bool answer)) :
    Decides library invoke scope expr answer :=
  ⟨_, h, rfl⟩

/-- A text counts as true unless it is empty. -/
theorem ofText {text : String} (h : expr.eval library invoke scope = .ok (.text text)) :
    Decides library invoke scope expr (text != "") :=
  ⟨_, h, rfl⟩

/-- A test for nothing. -/
theorem isNone {value : Value} (h : expr.eval library invoke scope = .ok value) :
    Decides library invoke scope (.test "none" expr [])
      (match value with | .none => true | _ => false) := by
  refine ofBool ?_
  show (do
    let base ← expr.eval library invoke scope
    let arguments ← Expr.evalAll library invoke scope []
    Value.bool <$> Library.test "none" base arguments) = _
  simp only [h]
  cases value <;> rfl

end Decides

namespace Prints

/-- A text prints as itself. -/
theorem ofText {text : String} (h : expr.eval library invoke scope = .ok (.text text)) :
    Prints library invoke scope expr (.ok text) := by
  simp [Prints, h, Value.isLoudlyUndefined, Value.print, bind, Except.bind, pure, Except.pure]

/-- A value that is not missing prints as its text. -/
theorem ofValue {value : Value} (h : expr.eval library invoke scope = .ok value)
    (hdefined : value.isLoudlyUndefined = false) :
    Prints library invoke scope expr (.ok value.print) := by
  simp [Prints, h, hdefined, bind, Except.bind, pure, Except.pure]

/-- An expression that fails does not print. -/
theorem ofError {fault : Fault} (h : expr.eval library invoke scope = .error fault) :
    Prints library invoke scope expr (.error fault) := by
  simp [Prints, h, bind, Except.bind]

/-- An expression whose value is a text, or that fails. -/
theorem ofOutcome (h : expr.eval library invoke scope = .text <$> outcome) :
    Prints library invoke scope expr outcome := by
  cases outcome with
  | error fault => exact ofError h
  | ok text => exact ofText h

end Prints

/-- No statements leave the scope as it is. -/
theorem runAll_nil (scope : Scope) : Stmt.runAll library invoke scope [] = .ok (scope, "") := rfl

/-- Statements after a first one run in the scope that it leaves. -/
theorem runAll_cons (scope : Scope) (stmt : Stmt) (rest : List Stmt) :
    Stmt.runAll library invoke scope (stmt :: rest) = (do
      let (between, text) ← stmt.run library invoke scope
      let (after, others) ← Stmt.runAll library invoke between rest
      pure (after, text ++ others)) := rfl

/-- Statements after others run in the scope that those leave. -/
theorem runAll_append (scope : Scope) (stmts rest : List Stmt) :
    Stmt.runAll library invoke scope (stmts ++ rest) = (do
      let (between, text) ← Stmt.runAll library invoke scope stmts
      let (after, others) ← Stmt.runAll library invoke between rest
      pure (after, text ++ others)) := by
  induction stmts generalizing scope with
  | nil =>
      rw [List.nil_append, runAll_nil]
      simp only [bind, Except.bind, pure, Except.pure]
      cases Stmt.runAll library invoke scope rest <;> simp
  | cons stmt others ih =>
      rw [List.cons_append, runAll_cons, runAll_cons]
      simp only [bind, Except.bind, ih]
      cases stmt.run library invoke scope with
      | error fault => rfl
      | ok printed =>
          simp only
          cases Stmt.runAll library invoke printed.1 others with
          | error fault => rfl
          | ok more =>
              simp only [pure, Except.pure]
              cases Stmt.runAll library invoke more.1 rest <;> simp [String.append_assoc]

namespace Writes

/-- No statements. -/
theorem nil : Writes library invoke scope [] (.ok "") := rfl

/-- The text may be spelled in another way. -/
theorem as (h : Writes library invoke scope stmts first) (heq : first = second) :
    Writes library invoke scope stmts second :=
  heq ▸ h

/-- Statements that do not fail write a text. -/
theorem exists_text (h : Writes library invoke scope stmts outcome)
    (hok : ∃ text, outcome = .ok text) : ∃ text, Writes library invoke scope stmts (.ok text) := by
  obtain ⟨text, rfl⟩ := hok
  exact ⟨text, h⟩

/-- Statements and others after them. -/
theorem append (h : Writes library invoke scope stmts first)
    (hrest : Writes library invoke scope rest second) :
    Writes library invoke scope (stmts ++ rest) (andThen first second) := by
  rw [Writes, runAll_append, h]
  cases first with
  | error fault => rfl
  | ok text =>
      simp only [Functor.map, Except.map, bind, Except.bind, andThen]
      rw [hrest]
      cases second <;> rfl

/-- After a statement that fails, nothing runs. -/
theorem cons_error {stmt : Stmt} {fault : Fault}
    (h : Writes library invoke scope [stmt] (.error fault)) :
    Writes library invoke scope (stmt :: rest) (.error fault) := by
  rw [Writes, ← List.singleton_append, runAll_append, h]
  rfl

/-- A statement that leaves the scope as it is. -/
theorem single {stmt : Stmt} (h : stmt.run library invoke scope = (scope, ·) <$> first) :
    Writes library invoke scope [stmt] first := by
  rw [Writes, runAll_cons, h]
  cases first with
  | error fault => rfl
  | ok text => simp [runAll_nil, Functor.map, Except.map, bind, Except.bind, pure, Except.pure]

/-- A piece of text and others after it. -/
theorem text {content : String} (hrest : Writes library invoke scope rest second) :
    Writes library invoke scope (.text content :: rest) (andThen (.ok content) second) :=
  append (single rfl) hrest

/-- A printed expression and others after it. -/
theorem print (h : Prints library invoke scope expr first)
    (hrest : Writes library invoke scope rest second) :
    Writes library invoke scope (.print expr :: rest) (andThen first second) := by
  refine append (single ?_) hrest
  rw [← h]
  show (do
    let value ← expr.eval library invoke scope
    if value.isLoudlyUndefined then throw Fault.undefinedValue
    else pure (scope, value.print)) = _
  cases expr.eval library invoke scope with
  | error fault => rfl
  | ok value =>
      simp only [bind, Except.bind]
      split <;> rfl

/-- A choice on its own. -/
theorem choice {yes no : List Stmt} (h : Decides library invoke scope expr answer)
    (hchosen : Writes library invoke scope (if answer then yes else no) outcome) :
    Writes library invoke scope [.branch expr yes no] outcome := by
  refine single ?_
  obtain ⟨value, heval, htruth⟩ := h
  rw [← hchosen]
  show (do
    let condition ← expr.eval library invoke scope
    if ← condition.truth then Stmt.runAll library invoke scope yes
    else Stmt.runAll library invoke scope no) = _
  simp only [heval, htruth, bind, Except.bind]
  cases answer <;> rfl

/-- A choice and others after it. -/
theorem branch {yes no : List Stmt} {chosen : Outcome String}
    (h : Decides library invoke scope expr answer)
    (hchosen : Writes library invoke scope (if answer then yes else no) chosen)
    (hrest : Writes library invoke scope rest second) :
    Writes library invoke scope (.branch expr yes no :: rest) (andThen chosen second) :=
  append (choice h hchosen) hrest

/-- A choice between two texts. -/
theorem ifElse {yes no : List Stmt} {chosen otherwise : String}
    (h : Decides library invoke scope expr answer)
    (hyes : Writes library invoke scope yes (.ok chosen))
    (hno : Writes library invoke scope no (.ok otherwise)) :
    Writes library invoke scope [.branch expr yes no]
      (.ok (if answer then chosen else otherwise)) := by
  refine .choice h ?_
  cases answer
  · exact hno
  · exact hyes

/-- A part that is only written under a condition, and others after it. -/
theorem when {yes : List Stmt} {text : String} (h : Decides library invoke scope expr answer)
    (hyes : Writes library invoke scope yes (.ok text))
    (hrest : Writes library invoke scope rest second) :
    Writes library invoke scope (.branch expr yes [] :: rest)
      (andThen (.ok (if answer then text else "")) second) := by
  refine .branch h ?_ hrest
  cases answer
  · exact .nil
  · exact hyes

section Loop

variable {name : String} {recursive : Bool} {body : List Stmt} {α : Type} {make : α → Value}
  {items : List α} {text : α × Nat → Outcome String}

/-- A loop over items and others after it. -/
theorem loop (hitems : ∃ value, expr.eval library invoke scope = .ok value ∧
      value.items = .ok (items.map make))
    (hdepth : scope.depth ≤ maxNesting)
    (hbody : ∀ pair ∈ items.zipIdx, ∀ inner,
      AtItem scope name (loopAt name body recursive true items.length scope.loopDepth pair.2)
        (make pair.1) inner → Writes library invoke inner body (text pair))
    (hrest : Writes library invoke scope rest second) :
    Writes library invoke scope (.loop (.name name) expr recursive body [] :: rest)
      (andThen (textsOf text items.zipIdx) second) := by
  refine append (single ?_) hrest
  obtain ⟨value, heval, hvalue⟩ := hitems
  show (do
    let items ← (← expr.eval library invoke scope).items
    let printed ← runLoop (Stmt.runAll library invoke · body) scope (.name name) body recursive
      items
    if items.isEmpty then Stmt.runAll library invoke scope [] else pure (scope, printed)) = _
  simp only [heval, bind, Except.bind, hvalue, runLoop_texts hdepth hbody]
  cases items with
  | nil => rfl
  | cons item others => cases textsOf text (item :: others).zipIdx <;> rfl

/-- A loop over items that fail to be there. -/
theorem loop_error {fault : Fault} (h : expr.eval library invoke scope = .error fault) :
    Writes library invoke scope (.loop (.name name) expr recursive body [] :: rest)
      (.error fault) := by
  refine cons_error (single ?_)
  show expr.eval library invoke scope >>= _ = _
  rw [h]
  rfl

/-- A loop over the items for which a test holds, and others after it. -/
theorem loopIf {kept : α → Bool} {keep : Expr} (hitems : ∃ value,
      expr.eval library invoke scope = .ok value ∧ value.items = .ok (items.map make))
    (hdepth : scope.depth ≤ maxNesting)
    (hkeep : ∀ item ∈ items, ∀ index inner,
      AtItem scope name (loopAt name [] false false items.length scope.loopDepth index) (make item)
        inner → Decides library invoke inner keep (kept item))
    (hbody : ∀ pair ∈ (items.filter kept).zipIdx, ∀ inner,
      AtItem scope name (loopAt name body recursive true (items.filter kept).length scope.loopDepth
        pair.2) (make pair.1) inner → Writes library invoke inner body (text pair))
    (hrest : Writes library invoke scope rest second) :
    Writes library invoke scope (.loopIf (.name name) expr keep recursive body [] :: rest)
      (andThen (textsOf text (items.filter kept).zipIdx) second) := by
  refine append (single ?_) hrest
  obtain ⟨value, heval, hvalue⟩ := hitems
  have hselected : selectItems (fun inner => do (← keep.eval library invoke inner).truth) scope
      (.name name) (items.map make) = .ok ((items.filter kept).map make) := by
    refine selectItems_filter hdepth fun item hitem index inner hat => ?_
    obtain ⟨answer, hanswer, htruth⟩ := hkeep item hitem index inner hat
    rw [hanswer]
    exact htruth
  show (do
    let items ← (← expr.eval library invoke scope).items
    let items ← selectItems (fun inner => do (← keep.eval library invoke inner).truth) scope
      (.name name) items
    let printed ← runLoop (Stmt.runAll library invoke · body) scope (.name name) body recursive
      items
    if items.isEmpty then Stmt.runAll library invoke scope [] else pure (scope, printed)) = _
  simp only [heval, bind, Except.bind, hvalue] at hselected ⊢
  simp only [hselected, runLoop_texts hdepth hbody]
  cases hfiltered : items.filter kept with
  | nil => rfl
  | cons item others => cases textsOf text (item :: others).zipIdx <;> rfl

end Loop

end Writes

/-- What leaves the variables as they are leaves its text. -/
theorem Writes.leaves (h : Writes library invoke scope stmts outcome) :
    Leaves library invoke scope stmts outcome := by
  rw [Leaves, h]
  cases outcome <;> rfl

namespace Leaves

/-- A macro is declared in the template for the statements after it. -/
theorem define {name : String} {parameters : List String} {defaults : List Expr} {body : List Stmt}
    (h : Leaves library invoke (scope.set name
      (.macroIn scope.frames.length ⟨parameters, defaults, body⟩)) rest outcome) :
    Leaves library invoke scope (.define name parameters defaults body :: rest) outcome := by
  rw [← h, Leaves, runAll_cons]
  show _ <$> (do
    let (after, others) ← Stmt.runAll library invoke (scope.set name _) rest
    pure (after, "" ++ others)) = _
  cases Stmt.runAll library invoke _ rest <;>
    simp [Functor.map, Except.map, bind, Except.bind, pure, Except.pure]

/-- A variable is set for the statements after it. -/
theorem assign {name : String} {value : Value} (hvalue : expr.eval library invoke scope = .ok value)
    (h : Leaves library invoke (scope.set name value) rest outcome) :
    Leaves library invoke scope (.assign (.name name) expr :: rest) outcome := by
  rw [← h, Leaves, runAll_cons]
  show _ <$> (do
    let (between, text) ← (do pure (← scope.bind (.name name) (← expr.eval library invoke scope), ""))
    let (after, others) ← Stmt.runAll library invoke between rest
    pure (after, text ++ others)) = _
  simp only [hvalue, Scope.bind, pure, Except.pure, bind, Except.bind]
  cases Stmt.runAll library invoke _ rest <;> simp [Functor.map, Except.map]

end Leaves

section Call

variable {fuel : Nat}

/-- Arguments by position go to the parameters in order. -/
theorem bindArguments_positional {parameters : List String} {values : List Value}
    (h : parameters.length = values.length) :
    bindArguments parameters values [] = .ok (parameters.zip values) := by
  have hbound : (parameters.zipIdx.mapM fun pair => do
      pure (pair.1, ← argumentOf values [] pair.2 pair.1) : Outcome (List (String × Value))) =
      .ok (parameters.zip values) := by
    refine mapM_ok_iff.2 (List.forall₂_iff_get.2 ⟨by simp [h], fun index hindex hindex' => ?_⟩)
    have hvalue : index < values.length := by simpa [h] using hindex
    simp [argumentOf, hvalue, bind, Except.bind, pure, Except.pure]
  simp only [bindArguments, List.length_nil, Nat.sub_zero, List.take_length, List.zip_nil_left, h,
    Nat.lt_irrefl, if_false, hbound]
  rfl

/-- A call of a macro of the template comes to the text that its body leaves. -/
theorem eval_macroIn {name : String} {parameters : List String} {body : List Stmt}
    {arguments : List Expr} {values : List Value} (hname : name ≠ "loop")
    (hfind : scope.find? library name = some (.macroIn 1 ⟨parameters, [], body⟩))
    (harguments : Expr.evalAll library (Template.invoke library (fuel + 1)) scope arguments =
      .ok values)
    (hlength : parameters.length = values.length)
    (hdepth : scope.depth + macroCost ≤ maxNesting)
    (hbody : Leaves library (Template.invoke library fuel)
      (scope.inMacro (parameters.zip values)) body outcome) :
    (Expr.call name arguments []).eval library (Template.invoke library (fuel + 1)) scope =
      .text <$> outcome := by
  rw [← hbody, eval_call harguments]
  simp only [bind, Except.bind, callName, hname, if_false, hfind, callValue, Template.invoke,
    bindArguments_positional hlength, if_neg (Nat.not_lt.2 hdepth)]
  simp only [List.length_nil, Nat.sub_zero, List.drop_length, List.zip_nil_left, List.reverse_nil,
    fillDefaults]
  cases hrun : Stmt.runAll library (Template.invoke library fuel)
    (scope.inMacro (parameters.zip values)) body <;>
    · rw [Scope.inMacro] at hrun
      simp only [pure, Except.pure, hrun]
      rfl

/-- A call of the running loop comes to the texts of the items it runs over again. -/
theorem eval_again {outer : Scope} {name : String} {body : List Stmt} {visible : Bool}
    {length depth index : Nat} {item value : Value} {argument : Expr} {α : Type} {make : α → Value}
    {items : List α} {text : α × Nat → Outcome String}
    (hscope : AtItem outer name (loopAt name body true visible length depth index) item scope)
    (hitems : argument.eval library (Template.invoke library (fuel + 1)) scope = .ok value ∧
      value.items = .ok (items.map make))
    (hdepth : scope.depth ≤ maxNesting)
    (hbody : ∀ pair ∈ items.zipIdx, ∀ inner,
      AtItem scope name (loopAt name body true true items.length (depth + 1) pair.2)
        (make pair.1) inner →
          Writes library (Template.invoke library fuel) inner body (text pair)) :
    (Expr.call "loop" [argument] []).eval library (Template.invoke library (fuel + 1)) scope =
      .text <$> textsOf text items.zipIdx := by
  have hloopDepth : scope.loopDepth = depth + 1 := by
    rw [Scope.loopDepth, hscope.loop_eq]
    rfl
  rw [eval_call (evalAll_cons hitems.1 rfl)]
  simp only [callName, if_true, hscope.loop_eq]
  simp only [loopAt, Template.invoke, hitems.2, bind, Except.bind]
  have htexts : runLoop (Stmt.runAll library (Template.invoke library fuel) · body) scope
      (.name name) body true (items.map make) = textsOf text items.zipIdx :=
    runLoop_texts hdepth (hloopDepth ▸ hbody)
  rw [htexts]
  cases textsOf text items.zipIdx <;> rfl

end Call

/-- What a template leaves is its text. -/
theorem renderStmts_of_leaves {template : List Stmt} {context : List (String × Value)}
    (h : Leaves library (Template.invoke library (maxNesting + 1)) (.ofContext context) template
      outcome) : renderStmts library template context = outcome := by
  rw [← h, renderStmts]
  cases Stmt.runAll library _ (.ofContext context) template <;> rfl

end Stencil.Template
