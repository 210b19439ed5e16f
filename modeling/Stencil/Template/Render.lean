import Stencil.Template.Grammar
import Stencil.Template.Scope

/-!
# Rendering

The text of a template in a context. Expressions change nothing; statements change the variables of
the innermost frame and yield text. Evaluation recurs along the tree of the template. Only calls of
macros and of recursive loops leave the tree; they go through a function that is a parameter here,
and `invoke` ties the knot: its counter bounds how deep calls stand in one another, and the limit on
nesting is reached before the counter runs out.
-/

namespace Stencil.Template

/-- What a call that leaves the tree of the template runs. -/
inductive Callee where
  | macroIn (home : Nat) (declared : Macro)
  | loop (running : RunningLoop)

/-- How calls that leave the tree of the template are run. The last arguments belong to the
names. -/
abbrev Invoke := Scope → Callee → List Value → List String → Outcome Value

/-- Keys and values in turn, as the entries of a map. -/
def pairUp : List Value → List (Value × Value)
  | key :: value :: rest => (key, value) :: pairUp rest
  | _ => []

/-- A map of entries in any order; a later entry replaces an earlier one with the same key. -/
def mapOf (entries : List (Value × Value)) : Value :=
  .map (entries.foldl (fun map (key, value) => Value.insertEntry key value map) [])

/-- Arguments in order, the named ones last as one map. -/
def positional (arguments : List Value) (named : List String) : List Value :=
  if named.isEmpty then arguments
  else
    let count := arguments.length - named.length
    let pairs := (named.map Value.text).zip (arguments.drop count)
    arguments.take count ++ [mapOf pairs]

/-- A call of a value. -/
def callValue (library : Library) (invoke : Invoke) (scope : Scope) (callee : Value)
    (arguments : List Value) (named : List String) : Outcome Value :=
  match callee with
  | .function builtin => library.call builtin (positional arguments named)
  | .macroIn home declared => invoke scope (.macroIn home declared) arguments named
  | _ => throw .unsupported

/-- A call of a name. The name of the loop runs the innermost loop again over other items. -/
def callName (library : Library) (invoke : Invoke) (scope : Scope) (name : String)
    (arguments : List Value) (named : List String) : Outcome Value :=
  if name = "loop" then
    match scope.loop? with
    | some running =>
      if running.recursive && arguments.length == 1 && named.isEmpty then
        invoke scope (.loop running) arguments []
      else throw .unsupported
    | none => throw .unsupported
  else
    match scope.find? library name with
    | some callee => callValue library invoke scope callee arguments named
    | none => throw .unknownFunction

/-- A call of a member of a value. -/
def callMember (library : Library) (invoke : Invoke) (scope : Scope) (base : Value) (name : String)
    (arguments : List Value) (named : List String) : Outcome Value :=
  match base with
  | .undefined _ => throw .undefinedValue
  | .map entries =>
    match Value.field? name entries with
    | some callee => callValue library invoke scope callee arguments named
    | none => throw .unknownMethod
  | _ => throw .unknownMethod

mutual

/-- The value of an expression. -/
def Expr.eval (library : Library) (invoke : Invoke) (scope : Scope) : Expr → Outcome Value
  | .literal value => pure (.ofLiteral value)
  | .var name => pure ((scope.find? library name).getD (.undefined false))
  | .list items => do
    let values ← Expr.evalAll library invoke scope items
    pure (.list values)
  | .map items => do
    let values ← Expr.evalAll library invoke scope items
    pure (mapOf (pairUp values))
  | .member base name => do
    let base ← base.eval library invoke scope
    base.member name
  | .item base key => do
    let base ← base.eval library invoke scope
    let key ← key.eval library invoke scope
    base.item key
  | .unary op operand => do
    let operand ← operand.eval library invoke scope
    operand.applyUnary op
  | .binary op left right => do
    let left ← left.eval library invoke scope
    let right ← right.eval library invoke scope
    Value.applyBinary op left right
  | .both left right => do
    let left ← left.eval library invoke scope
    if ← left.truth then right.eval library invoke scope else pure left
  | .either left right => do
    let left ← left.eval library invoke scope
    if ← left.truth then pure left else right.eval library invoke scope
  | .choose condition yes no => do
    let condition ← condition.eval library invoke scope
    if ← condition.truth then yes.eval library invoke scope else no.eval library invoke scope
  | .only condition yes => do
    let condition ← condition.eval library invoke scope
    if ← condition.truth then yes.eval library invoke scope else pure (.undefined true)
  | .filter name base arguments => do
    let base ← base.eval library invoke scope
    let arguments ← Expr.evalAll library invoke scope arguments
    Library.filter name base arguments
  | .test name base arguments => do
    let base ← base.eval library invoke scope
    let arguments ← Expr.evalAll library invoke scope arguments
    .bool <$> Library.test name base arguments
  | .call name arguments named => do
    let arguments ← Expr.evalAll library invoke scope arguments
    callName library invoke scope name arguments named
  | .callValue callee arguments named => do
    let callee ← callee.eval library invoke scope
    let arguments ← Expr.evalAll library invoke scope arguments
    Template.callValue library invoke scope callee arguments named
  | .callMethod base name arguments named => do
    let base ← base.eval library invoke scope
    let arguments ← Expr.evalAll library invoke scope arguments
    callMember library invoke scope base name arguments named

/-- The values of expressions, evaluated in order. -/
def Expr.evalAll (library : Library) (invoke : Invoke) (scope : Scope) :
    List Expr → Outcome (List Value)
  | [] => pure []
  | first :: rest => do
    let value ← first.eval library invoke scope
    let values ← Expr.evalAll library invoke scope rest
    pure (value :: values)

end

/-- A step for each item in order, with the target bound to it. Variables that a step sets are seen
by the next. -/
def eachItem (target : Target) (step : Scope → Outcome (Scope × String)) :
    (index : Nat) → List Value → Scope → Outcome (Scope × String)
  | _, [], scope => pure (scope, "")
  | index, item :: rest, scope => do
    let scope ← (scope.atIndex index).bind target item
    let (scope, text) ← step scope
    let (scope, others) ← eachItem target step (index + 1) rest scope
    pure (scope, text ++ others)

/-- The items for which a test holds, with the target bound to each in turn. -/
def keptItems (target : Target) (keep : Scope → Outcome Bool) :
    List Value → Scope → Outcome (List Value)
  | [], _ => pure []
  | item :: rest, scope => do
    let scope ← scope.bind target item
    let kept ← keep scope
    let others ← keptItems target keep rest scope
    pure (if kept then item :: others else others)

/-- A loop over items. Its frame is gone afterwards, and the variables with it. -/
def runLoop (step : Scope → Outcome (Scope × String)) (scope : Scope) (target : Target)
    (body : List Stmt) (recursive : Bool) (items : List Value) : Outcome String := do
  let position : LoopPosition := ⟨0, items.length, scope.loopDepth⟩
  let inner ← scope.push ⟨[], some ⟨target, body, recursive, true, position⟩, none⟩
  let (_, text) ← eachItem target step 0 items inner
  pure text

/-- The items that a loop keeps. The search runs in a frame of its own. -/
def selectItems (keep : Scope → Outcome Bool) (scope : Scope) (target : Target)
    (items : List Value) : Outcome (List Value) := do
  let position : LoopPosition := ⟨0, items.length, scope.loopDepth⟩
  let inner ← scope.push ⟨[], some ⟨target, [], false, false, position⟩, none⟩
  keptItems target keep items inner

mutual

/-- The scope after a statement, and the text it yields. -/
def Stmt.run (library : Library) (invoke : Invoke) (scope : Scope) :
    Stmt → Outcome (Scope × String)
  | .text content => pure (scope, content)
  | .print value => do
    let value ← value.eval library invoke scope
    if value.isLoudlyUndefined then throw .undefinedValue else pure (scope, value.print)
  | .branch condition yes no => do
    let condition ← condition.eval library invoke scope
    if ← condition.truth then Stmt.runAll library invoke scope yes
    else Stmt.runAll library invoke scope no
  | .loop target items recursive body orElse => do
    let items ← (← items.eval library invoke scope).items
    let printed ← runLoop (fun inner => Stmt.runAll library invoke inner body) scope target body
      recursive items
    if items.isEmpty then Stmt.runAll library invoke scope orElse else pure (scope, printed)
  | .loopIf target items keep recursive body orElse => do
    let items ← (← items.eval library invoke scope).items
    let items ← selectItems (fun inner => do (← keep.eval library invoke inner).truth) scope target
      items
    let printed ← runLoop (fun inner => Stmt.runAll library invoke inner body) scope target body
      recursive items
    if items.isEmpty then Stmt.runAll library invoke scope orElse else pure (scope, printed)
  | .assign target value => do
    let value ← value.eval library invoke scope
    let scope ← scope.bind target value
    pure (scope, "")
  | .capture name body => do
    let (scope, captured) ← Stmt.runAll library invoke scope body
    pure (scope.set name (.text captured), "")
  | .define name parameters defaults body =>
    pure (scope.set name (.macroIn scope.frames.length ⟨parameters, defaults, body⟩), "")

/-- The scope after statements in order, and the text they yield. -/
def Stmt.runAll (library : Library) (invoke : Invoke) (scope : Scope) :
    List Stmt → Outcome (Scope × String)
  | [] => pure (scope, "")
  | first :: rest => do
    let (scope, printed) ← first.run library invoke scope
    let (scope, others) ← Stmt.runAll library invoke scope rest
    pure (scope, printed ++ others)

end

/-- The argument of one parameter: by position, by name, or missing. -/
def argumentOf (positions : List Value) (named : List (String × Value)) (index : Nat)
    (parameter : String) : Outcome Value :=
  match positions[index]?, named.lookup parameter with
  | some _, some _ => throw .tooManyArguments
  | some value, none => pure value
  | none, some value => pure value
  | none, none => pure (.undefined false)

/-- The variables that the parameters of a macro are bound to. -/
def bindArguments (parameters : List String) (arguments : List Value) (named : List String) :
    Outcome (List (String × Value)) := do
  let count := arguments.length - named.length
  let positions := arguments.take count
  let pairs := named.zip (arguments.drop count)
  if parameters.length < positions.length then throw .tooManyArguments
  let bound ← parameters.zipIdx.mapM fun (parameter, index) => do
    pure (parameter, ← argumentOf positions pairs index parameter)
  if named.all (parameters.contains ·) then pure bound else throw .tooManyArguments

/-- Missing parameters bound to the values of their defaults, the last parameter first. -/
def fillDefaults (eval : Scope → Expr → Outcome Value) :
    List (String × Expr) → Scope → Outcome Scope
  | [], scope => pure scope
  | (parameter, value) :: rest, scope => do
    match (scope.frames.head?.bind (·.find? parameter)) with
    | some (.undefined _) =>
      let value ← eval scope value
      fillDefaults eval rest (scope.set parameter value)
    | _ => fillDefaults eval rest scope

/-- Runs calls that stand at most `fuel` deep in one another. -/
def invoke (library : Library) : (fuel : Nat) → Invoke
  | 0, _, _, _, _ => throw .unsupported
  | fuel + 1, scope, .loop running, arguments, _ => do
    match arguments with
    | [items] =>
      let items ← items.items
      let text ← runLoop (fun inner => Stmt.runAll library (invoke library fuel) inner running.body)
        scope running.target running.body running.recursive items
      pure (.text text)
    | _ => throw .unsupported
  | fuel + 1, scope, .macroIn home declared, arguments, named => do
    let bound ← bindArguments declared.parameters arguments named
    if maxNesting < scope.depth + macroCost then throw .unsupported
    let inner : Scope := ⟨⟨bound, none, some home⟩ :: scope.frames, scope.depth + macroCost⟩
    let plain := declared.parameters.length - declared.defaults.length
    let defaults := (declared.parameters.drop plain).zip declared.defaults
    let inner ← fillDefaults (fun scope value => value.eval library (invoke library fuel) scope)
      defaults.reverse inner
    let (_, text) ← Stmt.runAll library (invoke library fuel) inner declared.body
    pure (.text text)

/-- The text of a template in a context. -/
def renderStmts (library : Library) (template : List Stmt) (context : List (String × Value)) :
    Outcome String := do
  let (_, text) ← Stmt.runAll library (invoke library (maxNesting + 1)) (.ofContext context) template
  pure text

end Stencil.Template
