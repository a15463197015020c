import WorkspaceFleet.Backend
import WorkspaceFleet.Health.Event
import WorkspaceFleet.Ledger
import WorkspaceFleet.Placement.Placer

/-!
# WorkspaceFleet.Fleet

All that the parts of a running fleet share: the ledger of servers and workspaces, the clients by
which the daemons are reached, the round-robin cursor, and the events that the monitor has emitted.

`χ` is the type of a client.
-/

namespace WorkspaceFleet

/-- The shared state of a running fleet. -/
structure Fleet (κ χ : Type) where
  ledger : Ledger κ
  pool : Table χ
  placer : Placer
  /-- The events emitted so far, oldest first. -/
  events : List HealthEvent

namespace Fleet

variable {κ χ α ε : Type} [Quantity κ]

def registry (f : Fleet κ χ) : Registry κ := f.ledger.registry

def perform (f : Fleet κ χ) (op : Registry κ → Change κ α) : α × Fleet κ χ :=
  let p := f.ledger.perform op
  (p.1, { f with ledger := p.2 })

def attempt (f : Fleet κ χ) (refusal : Option Refusal) (lift : RegistryError → ε)
    (op : Registry κ → Change κ (Except ε α)) : Except ε α × Fleet κ χ :=
  let p := f.ledger.attempt refusal lift op
  (p.1, { f with ledger := p.2 })

def emit (f : Fleet κ χ) (e : HealthEvent) : Fleet κ χ := { f with events := f.events ++ [e] }

def client (f : Fleet κ χ) (id : String) : Except BackendError χ :=
  match f.pool.get? id with
  | some c => .ok c
  | none => .error (.noClient id)

end Fleet
end WorkspaceFleet
