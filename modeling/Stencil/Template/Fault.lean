import Stencil.Schema.Nested
import Stencil.Schema.Reading

/-!
# Faults of rendering

Why a template that is well formed cannot be rendered. Only three kinds of fault say more than their
kind: a failure that the template asked for, a difference that does not fit, and attributes nested
too deep.
-/

namespace Stencil.Template

/-- Why rendering stops. -/
inductive Fault where
  /-- A missing value where a value counts. -/
  | undefinedValue
  | unknownFunction
  | unknownFilter
  | unknownTest
  | unknownMethod
  /-- An operation on values of a kind that it does not take. -/
  | unsupported
  | missingArgument
  | tooManyArguments
  /-- A value that does not have the items that names are to be bound to. -/
  | cannotUnpack
  /-- The template called for the failure. -/
  | failed (message : String)
  /-- A difference of two integers beyond 64 bits. -/
  | overflow (left right : Int)
  | tooDeep (fault : Schema.DepthExceeded)
  /-- An argument that is no attribute or list of the kind that a function takes. -/
  | undecodable (fault : Schema.DecodeFault)
deriving DecidableEq, Repr

/-- What the fault says beyond its kind. -/
def Fault.detail : Fault → Option String
  | .failed message => some message
  | .overflow left right => some s!"subtract({left}, {right}) overflows a 64-bit integer"
  | .tooDeep fault => some fault.message
  | .undecodable fault => fault.detail
  | _ => none

/-- What evaluation yields. -/
abbrev Outcome := Except Fault

end Stencil.Template
