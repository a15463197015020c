import WorkspaceFleet.Fleet

/-!
# WorkspaceFleet.Activity

Work on a fleet that waits for daemons.

An `Activity` alternates between steps on the shared state, each of them atomic, and calls to daemons,
during which anything else may happen. At every call it says what becomes of the state if whoever
wanted the result gives up and the activity is abandoned there.
-/

namespace WorkspaceFleet

/-- Work on a fleet that comes to a result of type `α`. -/
inductive Activity (κ χ α : Type) where
  | done (result : α)
  /-- Changes the shared state by `write` and goes on with what `next` makes of the state before. -/
  | atomic (write : Fleet κ χ → Fleet κ χ) (next : Fleet κ χ → Activity κ χ α)
  /-- Calls the daemon of a server and goes on with what it answers. -/
  | call (serverId : String) (op : Operation κ) (abandon : Fleet κ χ → Fleet κ χ)
      (next : Except BackendError op.Answer → Activity κ χ α)

namespace Activity

variable {κ χ α β : Type}

def perform (step : Fleet κ χ → β × Fleet κ χ) (next : β → Activity κ χ α) : Activity κ χ α :=
  .atomic (fun f => (step f).2) (fun f => next (step f).1)

def map (g : α → β) : Activity κ χ α → Activity κ χ β
  | .done a => .done (g a)
  | .atomic write next => .atomic write (fun f => (next f).map g)
  | .call id op abandon next => .call id op abandon (fun r => (next r).map g)

end Activity
end WorkspaceFleet
