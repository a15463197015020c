import WorkspaceFleet.Activity

/-!
# WorkspaceFleet.Orchestrator

Placing and destroying workspaces, and taking servers in and out.

A workspace is placed under a hold: capacity is reserved, the container is created and started, and the
hold becomes a record. On every failure, and wherever the placement is abandoned, the hold is given back.
A container that was created and cannot be kept is removed; that removal may fail unnoticed.

The store may refuse the writes of a placement and of a destruction. Servers are taken in and out on a
store that takes every write.
-/

namespace WorkspaceFleet

inductive OrchestratorError where
  | placement (cause : PlacementError)
  | backend (cause : BackendError)
  | registry (cause : RegistryError)
  /-- A hold could not be given back, and its server may count more than it hosts. -/
  | reservationRollback (id : Nat) (serverId : String) (cause : RegistryError)
  | serverNotFound (serverId : String)
  | workspaceNotFound (containerId : String)
  deriving DecidableEq, Repr

namespace OrchestratorError

def message : OrchestratorError → String
  | .placement e => e.message
  | .backend e => e.message
  | .registry e => e.message
  | .reservationRollback id serverId cause =>
    "failed to roll back reservation " ++ Text.Decimal.text id ++ " on server " ++ serverId ++ ": " ++
      cause.message
  | .serverNotFound id => "server not found: " ++ id
  | .workspaceNotFound id => "workspace not found: " ++ id

/-- The failure of the store behind the error, if there is one. -/
def source? : OrchestratorError → Option StoreError
  | .placement cause => cause.source?
  | .registry cause => cause.source?
  | _ => none

/-- Whether another server may do better. -/
def isTransient : OrchestratorError → Bool
  | .backend e => e.isUnavailable
  | _ => false

end OrchestratorError

structure PlacedWorkspace where
  serverId : String
  containerId : String
  strategy : Strategy
  deriving DecidableEq, Repr

def PlacedWorkspace.encode {κ : Type} (p : PlacedWorkspace) : Document κ :=
  .record [("server_id", .text p.serverId), ("container_id", .text p.containerId),
    ("strategy", p.strategy.encode)]

abbrev Outcome (α : Type) := Except OrchestratorError α

/-- What the store refuses while a workspace is placed: to take its hold, to make the hold a record, or
to give it back. -/
structure Refusals where
  reserving : Option Refusal
  committing : Option Refusal
  releasing : Option Refusal
  deriving DecidableEq, Repr

/-- The store takes every write. -/
def Refusals.none : Refusals := ⟨.none, .none, .none⟩

namespace Orchestrator

variable {κ χ : Type} [Quantity κ]

/-! ## Holds in use -/

def rollback (refused : Refusals) (hold : Reservation κ) (f : Fleet κ χ) :
    Outcome Unit × Fleet κ χ :=
  match f.attempt refused.releasing id (·.release hold) with
  | (.ok _, f) => (.ok (), f)
  | (.error e, f) => (.error (.reservationRollback hold.id hold.serverId e), f)

def letGo (refused : Refusals) (hold : Reservation κ) (f : Fleet κ χ) : Fleet κ χ :=
  (rollback refused hold f).2

/-- Makes a hold a record; if that fails the hold is let go. -/
def commitHold (refused : Refusals) (hold : Reservation κ) (containerId : String) (now : Nat)
    (f : Fleet κ χ) : Outcome (Workspace κ) × Fleet κ χ :=
  match f.attempt refused.committing id (·.commit hold containerId now) with
  | (.ok w, f) => (.ok w, f)
  | (.error e, f) => (.error (.registry e), letGo refused hold f)

/-- What an abandoned activity leaves where it holds nothing. -/
def keep (f : Fleet κ χ) : Fleet κ χ := f

/-! ## Placing -/

def find (f : Fleet κ χ) (req : Requirements κ) (strategy : Strategy) : Outcome (Placement κ) :=
  (f.placer.preview req strategy f.registry.listServers).mapError .placement

def reservePlaced (refused : Refusals) (req : Requirements κ) (strategy : Strategy) (f : Fleet κ χ) :
    Except PlacementError (Reservation κ) × Fleet κ χ :=
  let turn := f.placer.place req strategy f.registry.listServers
  { f with placer := turn.2 }.attempt refused.reserving .registry
    (·.reserveWith req.allocation (fun _ => turn.1.map Placement.serverId) .registry)

/-- Gives a hold back after a failure; a failure to do so is the one reported. -/
def failWith (refused : Refusals) (hold : Reservation κ) (cause : OrchestratorError) :
    Activity κ χ (Outcome String) :=
  .perform (rollback refused hold) fun
    | .ok () => .done (.error cause)
    | .error e => .done (.error e)

/-- Makes and starts a container under a hold, and records the workspace. -/
def launch (refused : Refusals) (hold : Reservation κ) (spec : ContainerSpec κ) (now : Nat) :
    Activity κ χ (Outcome String) :=
  let id := hold.serverId
  let abandon := letGo refused hold
  .call id (.create (spec.withLimits hold.allocation)) abandon fun
    | .error e => failWith refused hold (.backend e)
    | .ok (container : String) =>
      .call id (.start container) abandon fun
        | .error e =>
          .call id (.remove container) abandon fun _ => failWith refused hold (.backend e)
        | .ok _ =>
          .perform (commitHold refused hold container now) fun
            | .ok _ => .done (.ok container)
            | .error e => .call id (.remove container) keep fun _ => .done (.error e)

/-- Places a workspace: a server is chosen and held, and the container launched there. -/
def place (refused : Refusals) (req : Requirements κ) (strategy : Strategy) (spec : ContainerSpec κ)
    (now : Nat) : Activity κ χ (Outcome PlacedWorkspace) :=
  .perform (reservePlaced refused req strategy) fun
    | .error e => .done (.error (.placement e))
    | .ok hold =>
      (launch refused hold spec now).map fun result =>
        result.map (fun container => { serverId := hold.serverId, containerId := container, strategy })

/-- How a refused hold on a named server is reported: a server that is not known is a fault of the
configuration. -/
def reserveError : RegistryError → OrchestratorError
  | .serverNotFound id => .backend (.configuration ("unknown server " ++ id))
  | e => .registry e

def create (refused : Refusals) (serverId : String) (req : Requirements κ) (spec : ContainerSpec κ)
    (now : Nat) : Activity κ χ (Outcome String) :=
  .perform (fun f => f.attempt refused.reserving id (·.reserve serverId req.allocation)) fun
    | .error e => .done (.error (reserveError e))
    | .ok hold => launch refused hold spec now

/-! ## Destroying -/

/-- Stops and removes a workspace's container, and then drops its record. If the daemon fails the record
stays. The store may refuse a write of the removal. -/
def destroy (refused : Option Refusal) (containerId : String) :
    Activity κ χ (Outcome (Option (Workspace κ))) :=
  .perform (fun f => (f.registry.workspaces.get? containerId, f)) fun
    | none => .done (.ok none)
    | some w =>
      .call w.serverId (.stop containerId) keep fun
        | .error e => .done (.error (.backend e))
        | .ok _ =>
          .call w.serverId (.remove containerId) keep fun
            | .error e => .done (.error (.backend e))
            | .ok _ =>
              .perform (fun f => f.attempt refused id (·.removeWorkspace containerId)) fun
                | .ok removed => .done (.ok removed)
                | .error e => .done (.error (.registry e))

/-! ## Reports -/

def serverHealth (f : Fleet κ χ) (id : String) : Outcome (ServerHealth κ) :=
  match f.registry.servers.get? id with
  | some s => .ok s.health
  | none => .error (.serverNotFound id)

def workspaceHealth (f : Fleet κ χ) (id : String) : Outcome (WorkspaceHealth κ) :=
  match f.registry.workspaces.get? id with
  | some w => .ok w.health
  | none => .error (.workspaceNotFound id)

/-! ## Servers -/

/-- Takes a server in: its client is made first, then it is registered, then the client is put in
place. -/
def addServer (connect : Server κ → Except BackendError χ) (config : ServerConfig κ)
    (f : Fleet κ χ) : Outcome (Server κ) × Fleet κ χ :=
  let s := Server.ofConfig config
  match connect s with
  | .error e => (.error (.backend e), f)
  | .ok client =>
    match f.perform (·.addServer s) with
    | (.error e, f) => (.error (.registry e), f)
    | (.ok (), f) => (.ok s, { f with pool := f.pool.insert s.serverId client })

def removeServer (id : String) (f : Fleet κ χ) : Outcome (Server κ) × Fleet κ χ :=
  match f.perform (·.removeServer id) with
  | (.error e, f) => (.error (.registry e), f)
  | (.ok s, f) => (.ok s, { f with pool := f.pool.erase id })

end Orchestrator
end WorkspaceFleet
