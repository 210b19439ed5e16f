import Stencil.Log.Event
import Stencil.Project.Fault

/-!
# Traced results

A result together with the events on the way to it. The events up to a fault are kept, and the
result does not depend on them.
-/

namespace Stencil.Project

/-- The events that were reported and the result. -/
structure Traced (α : Type) where
  events : List Log.Event
  result : Except Fault α

namespace Traced

/-- A value without events. -/
def pure (value : α) : Traced α := ⟨[], .ok value⟩

/-- One result after another. -/
def bind (first : Traced α) (next : α → Traced β) : Traced β :=
  match first.result with
  | .ok value => ⟨first.events ++ (next value).events, (next value).result⟩
  | .error fault => ⟨first.events, .error fault⟩

instance : Monad Traced where
  pure := Traced.pure
  bind := Traced.bind

/-- An event. -/
def report (event : Log.Event) : Traced Unit := ⟨[event], .ok ()⟩

/-- A result without events. -/
def of (result : Except Fault α) : Traced α := ⟨[], result⟩

/-- The result of an operation on a file. -/
def onFile (action : FileAction) (path : String) (outcome : FileSystem.Outcome α) : Traced α :=
  of (outcome.mapError (.files action path))

/-- The result of a value is that value. -/
@[simp]
theorem result_pure (value : α) : (Pure.pure value : Traced α).result = .ok value := rfl

/-- Results are joined as results are. -/
@[simp]
theorem result_bind (first : Traced α) (next : α → Traced β) :
    (first >>= next).result = first.result >>= fun value => (next value).result := by
  change (Traced.bind first next).result = _
  unfold Traced.bind
  cases first.result <;> rfl

/-- A result without events is the result. -/
@[simp]
theorem result_of (result : Except Fault α) : (of result).result = result := rfl

end Traced

end Stencil.Project
