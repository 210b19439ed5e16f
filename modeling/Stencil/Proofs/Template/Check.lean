import Stencil.Proofs.Schema.Codec
import Stencil.Proofs.Section.Closing
import Stencil.Template.Render

/-!
# A check of what a template inserts

A template writes static text and, between it, what its expressions come to. The check follows the
statements of a tree and keeps track of what is known of the text so far, whatever the document says:
an expression may be printed only after calm text, and only if its kind says that it comes to a text
of the document, a number, or the text of a macro or of a recursive loop that passes the same check.
Conditions are not looked at, for they write nothing and bind nothing.
-/

namespace Stencil.Template

open Schema (AttributeKey)
open Section (Level Tame)

/-- What the check knows of a value. -/
inductive Kind where
  | any
  /-- It prints as a text that may be inserted. -/
  | text
  | texts
  | attr
  | attrs
  | position
  | macroOf (parameters : List String)
deriving DecidableEq

/-- The kind of the items of a value. -/
def Kind.item : Kind → Kind
  | .texts => .text
  | .attrs => .attr
  | _ => .any

/-- The keys of an attribute whose values templates insert. -/
def insertedKeys : List AttributeKey :=
  [.modelName, .tfName, .typeName, .description, .exampleValue, .testValue, .value]

/-- The kind of a member of a value. -/
def Kind.member (name : String) : Kind → Kind
  | .attr =>
    if name = AttributeKey.attributes.name then .attrs
    else if name ∈ insertedKeys.map (·.name) then .text
    else .any
  | .position => .text
  | _ => .any

/-- The kinds of the names that a template binds. A name has one kind wherever it is bound. -/
abbrev Kinds := List (String × Kind)

namespace Kinds

/-- The kind of a name. -/
def of (kinds : Kinds) (name : String) : Kind := (kinds.lookup name).getD .any

/-- The name may be bound. -/
def Binds (kinds : Kinds) (name : String) : Prop := (kinds.lookup name).isSome

instance (kinds : Kinds) (name : String) : Decidable (kinds.Binds name) :=
  inferInstanceAs (Decidable ((kinds.lookup name).isSome = true))

/-- The names that may be bound hide nothing that means the same everywhere. -/
def Proper (kinds : Kinds) : Prop :=
  ∀ entry ∈ kinds, entry.1 ≠ "loop" ∧ entry.1 ≠ depthLimitName ∧ Builtin.ofName? entry.1 = none

instance (kinds : Kinds) : Decidable kinds.Proper :=
  inferInstanceAs (Decidable (∀ entry ∈ kinds,
    entry.1 ≠ "loop" ∧ entry.1 ≠ depthLimitName ∧ Builtin.ofName? entry.1 = none))

/-- The kind of what a call of a name comes to. -/
def call (kinds : Kinds) (name : String) (arguments : List Kind) : Kind :=
  if name = "loop" then
    if arguments = [.attrs] then .text else .any
  else
    match Builtin.ofName? name with
    | some .fail | some .subtract | some .importParts => .text
    | some .nestedTypes => if arguments = [.attrs] then .attrs else .any
    | some _ => .any
    | none =>
      match kinds.of name with
      | .macroOf parameters => if parameters.map kinds.of = arguments then .text else .any
      | _ => .any

end Kinds

mutual

/-- The kind of what an expression comes to. -/
def Expr.kind (kinds : Kinds) : Expr → Kind
  | .literal (.text content) => if Tame content.toList then .text else .any
  | .var name => if name = "loop" then .position else kinds.of name
  | .member base name => (base.kind kinds).member name
  | .choose _ yes no => if yes.kind kinds = no.kind kinds then yes.kind kinds else .any
  | .call name arguments [] => kinds.call name (Expr.kindAll kinds arguments)
  | _ => .any

/-- The kinds of what expressions come to. -/
def Expr.kindAll (kinds : Kinds) : List Expr → List Kind
  | [] => []
  | first :: rest => first.kind kinds :: Expr.kindAll kinds rest

end

/-- The check of a loop, given what its body leads to from the level before it and from calm text. A
recursive loop runs over attributes, and is entered again wherever it may be called. -/
def loopFlow (kinds : Kinds) (level : Level) (target : Target) (items : Kind) (recursive : Bool)
    (orElse : List Stmt) (after again : Option Level) : Option Level :=
  match target, orElse with
  | .name name, [] =>
    if kinds.Binds name ∧ kinds.of name = items.item ∧ after.any (level.rank ≤ ·.rank) ∧
        (recursive → items = .attrs ∧ again.any (Level.calm.rank ≤ ·.rank)) then
      some level
    else none
  | _, _ => none

mutual

/-- What is known of the text after a statement, given what was known before, if the statement
passes the check. -/
def Stmt.flow (kinds : Kinds) (level : Level) : Stmt → Option Level
  | .text content => Level.after? content.toList
  | .print value => if value.kind kinds = .text ∧ level ≠ .quiet then some .quiet else none
  | .branch _ yes no => do
    let first ← Stmt.flowAll kinds level yes
    let second ← Stmt.flowAll kinds level no
    pure (first.least second)
  | .loop target items recursive body orElse =>
    loopFlow kinds level target (items.kind kinds) recursive orElse
      (Stmt.flowAll kinds level body) (Stmt.flowAll kinds .calm body)
  | .loopIf target items _ recursive body orElse =>
    loopFlow kinds level target (items.kind kinds) recursive orElse
      (Stmt.flowAll kinds level body) (Stmt.flowAll kinds .calm body)
  | .assign (.name name) value =>
    if kinds.Binds name ∧ kinds.of name = value.kind kinds then some level else none
  | .define name parameters [] body =>
    if kinds.Binds name ∧ kinds.of name = .macroOf parameters ∧
        (∀ parameter ∈ parameters, kinds.Binds parameter) ∧
        (Stmt.flowAll kinds .calm body).isSome then
      some level
    else none
  | .assign _ _ | .capture _ _ | .define _ _ _ _ => none

/-- What is known of the text after statements in order. -/
def Stmt.flowAll (kinds : Kinds) (level : Level) : List Stmt → Option Level
  | [] => some level
  | first :: rest => do
    let level ← first.flow kinds level
    Stmt.flowAll kinds level rest

end

end Stencil.Template
