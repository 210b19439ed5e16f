/-!
# Template trees

A template as a tree: pieces of text, expressions to print, and blocks. Calls keep their positional
arguments first and the named ones behind them, so that arguments are evaluated in the order in
which they are written.
-/

namespace Stencil.Template

/-- A constant in an expression. -/
inductive Literal where
  | none
  | bool (value : Bool)
  | int (value : Nat)
  | float (value : Float)
  | text (value : String)

/-- Operators before one operand. -/
inductive UnaryOp where
  | not
  | negate
deriving DecidableEq

/-- Operators between two operands that are both evaluated. -/
inductive BinaryOp where
  | add
  | subtract
  | multiply
  | divide
  | floorDivide
  | remainder
  | power
  | concat
  | equal
  | notEqual
  | less
  | lessOrEqual
  | greater
  | greaterOrEqual
  | contains
deriving DecidableEq

/-- Expressions. -/
inductive Expr where
  | literal (value : Literal)
  | var (name : String)
  /-- A list of the items' values. -/
  | list (items : List Expr)
  /-- A map of the items' values, each key followed by its value. -/
  | map (items : List Expr)
  | member (base : Expr) (name : String)
  | item (base key : Expr)
  | unary (op : UnaryOp) (operand : Expr)
  | binary (op : BinaryOp) (left right : Expr)
  | both (left right : Expr)
  | either (left right : Expr)
  | choose (test yes no : Expr)
  /-- A choice without an alternative, which prints nothing if the test fails. -/
  | only (test yes : Expr)
  | filter (name : String) (base : Expr) (arguments : List Expr)
  | test (name : String) (base : Expr) (arguments : List Expr)
  /-- A call of a name. The last arguments belong to the names in `named`. -/
  | call (name : String) (arguments : List Expr) (named : List String)
  /-- A call of a value that an expression yields. -/
  | callValue (callee : Expr) (arguments : List Expr) (named : List String)
  /-- A call of an attribute of a value. -/
  | callMethod (base : Expr) (name : String) (arguments : List Expr) (named : List String)

/-- What an assignment binds: a name, or the names that the items of a list go to. -/
inductive Target where
  | name (name : String)
  | unpack (targets : List String)

/-- The pieces of a template. -/
inductive Stmt where
  | text (text : String)
  | print (value : Expr)
  | branch (test : Expr) (yes no : List Stmt)
  | loop (target : Target) (items : Expr) (recursive : Bool) (body orElse : List Stmt)
  /-- A loop over the items for which `keep` holds. -/
  | loopIf (target : Target) (items keep : Expr) (recursive : Bool) (body orElse : List Stmt)
  | assign (target : Target) (value : Expr)
  /-- A name bound to the text of a block. -/
  | capture (name : String) (body : List Stmt)
  /-- A macro. The last parameters have defaults. -/
  | define (name : String) (parameters : List String) (defaults : List Expr) (body : List Stmt)

end Stencil.Template
