import Stencil.Template.Library

/-!
# Scopes

The variables that a place in a template sees. Frames are stacked; each belongs to the template, to
a running loop or to a running macro. From the frame of a macro the search for a name goes on at the
frame that declared the macro, and skips the frames of its callers. A macro is therefore given by
its declaration and a height in the stack, and sees what its declaring frame holds at the time of
the call.
-/

namespace Stencil.Template

/-- A loop that is running, with what it needs to run again over other items. -/
structure RunningLoop where
  target : Target
  body : List Stmt
  recursive : Bool
  /-- The loop has a variable of its own. The search for the items to keep has none. -/
  visible : Bool
  position : LoopPosition

/-- A frame of variables, the latest first. -/
structure Frame where
  bindings : List (String × Value)
  loop : Option RunningLoop
  /-- In the frame of a macro, the height of the frame that declared it. -/
  home : Option Nat

/-- The value of a name in a frame. -/
def Frame.find? (frame : Frame) (name : String) : Option Value :=
  match frame.bindings.lookup name with
  | some value => some value
  | none =>
    if name = "loop" then
      (frame.loop.filter (·.visible)).map fun running => .position running.position
    else none

/-- The stack of frames, innermost first, and how deep calls and frames are nested. -/
structure Scope where
  frames : List Frame
  depth : Nat

/-- How deep calls and frames may be nested. -/
def maxNesting : Nat := 500

/-- How much deeper a macro stands than its caller: the cost of the call and its two frames. -/
def macroCost : Nat := 6

namespace Scope

/-- The scope of a template over its context. -/
def ofContext (context : List (String × Value)) : Scope :=
  ⟨[⟨context, none, none⟩], 1⟩

/-- The value of a name in the frames up to the height `limit`. -/
def findBelow? (name : String) : (limit : Nat) → List Frame → Option Value
  | _, [] => none
  | limit, frame :: rest =>
    if limit < rest.length + 1 then findBelow? name limit rest
    else
      match frame.find? name with
      | some value => some value
      | none => findBelow? name (frame.home.getD rest.length) rest

/-- The value of a name. -/
def find? (library : Library) (scope : Scope) (name : String) : Option Value :=
  (findBelow? name scope.frames.length scope.frames).or (library.global? name)

/-- The innermost loop of the frames up to the frame of the running macro. -/
def loopOf? : List Frame → Option RunningLoop
  | [] => none
  | frame :: rest =>
    match frame.loop with
    | some running => some running
    | none => if frame.home.isSome then none else loopOf? rest

/-- The innermost running loop. -/
def loop? (scope : Scope) : Option RunningLoop := loopOf? scope.frames

/-- The depth of a loop that starts here: one more than that of the recursive loop it is in. -/
def loopDepth (scope : Scope) : Nat :=
  match scope.loop? with
  | some running => if running.recursive then running.position.depth + 1 else 0
  | none => 0

/-- A frame put on the stack. -/
def push (scope : Scope) (frame : Frame) : Outcome Scope :=
  if maxNesting < scope.depth then throw .unsupported
  else pure ⟨frame :: scope.frames, scope.depth + 1⟩

/-- A variable set in the innermost frame. -/
def set (scope : Scope) (name : String) (value : Value) : Scope :=
  match scope.frames with
  | [] => scope
  | frame :: rest =>
    { scope with frames := { frame with bindings := (name, value) :: frame.bindings } :: rest }

/-- Variables set in the innermost frame, in order. -/
def setAll (scope : Scope) : List (String × Value) → Scope
  | [] => scope
  | (name, value) :: rest => (scope.set name value).setAll rest

/-- A target bound to a value. -/
def bind (scope : Scope) (target : Target) (value : Value) : Outcome Scope :=
  match target with
  | .name name => pure (scope.set name value)
  | .unpack names =>
    let items : Option (List Value) :=
      match value with
      | .list items => some items
      | .map entries => some (entries.map (·.1))
      | _ => none
    match items with
    | some items =>
      if items.length = names.length then pure (scope.setAll (names.zip items))
      else throw .cannotUnpack
    | none => throw .cannotUnpack

/-- The loop of the innermost frame at its item with this index. -/
def atIndex (scope : Scope) (index : Nat) : Scope :=
  match scope.frames with
  | [] => scope
  | frame :: rest =>
    let loop := frame.loop.map fun running =>
      { running with position := { running.position with index } }
    { scope with frames := { frame with loop } :: rest }

end Scope

end Stencil.Template
