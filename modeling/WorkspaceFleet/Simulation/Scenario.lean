import WorkspaceFleet.Simulation.World

/-!
# WorkspaceFleet.Simulation.Scenario

The steps of a scenario that take no time: everything that can be done to a simulated fleet in between its
requests and rounds.

A scenario takes holds by name. They are kept in a list, so that later steps can give them back, record
them, or put them under guard.
-/

namespace WorkspaceFleet
namespace Simulation
namespace World

def initial (monitor : MonitorConfig) (persistent : Bool) (wallClock : Nat) : World where
  now := 0
  wallClock := wallClock
  fleet := {
    ledger := ⟨.empty, if persistent then some .empty else none⟩
    pool := ∅, placer := .initial, events := [] }
  daemons := ∅
  monitor := monitor
  spare := .initial
  holds := []
  guards := []
  calls := []
  permits := max monitor.maxConcurrentChecks 1
  permitQueue := []
  tasks := []
  rounds := []
  signals := []
  ready := []
  fresh := 0

def withoutReports (w : World) : World := { w with calls := [], fleet := { w.fleet with events := [] } }

def onFleet {α : Type} (step : Fleet Float Unit → α × Fleet Float Unit) (w : World) : α × World :=
  let (a, fleet) := step w.fleet
  (a, { w with fleet })

def onRegistry {α : Type} (op : Registry Float → Change Float α) (w : World) : α × World :=
  w.onFleet (·.perform op)

/-! ## Servers and daemons -/

def attach (id : String) (w : World) : World :=
  { w with fleet := { w.fleet with pool := w.fleet.pool.insert id () } }

def attachScript (id : String) (rules : List (String × Rule)) (w : World) : World :=
  let daemon := (w.daemons.get? id).getD .usual
  { w.attach id with daemons := w.daemons.insert id { daemon with rules } }

/-- Takes the client of a server away. The answer tells whether there was one. -/
def detach (id : String) (w : World) : Bool × World :=
  (w.fleet.pool.contains id,
    { w with fleet := { w.fleet with pool := w.fleet.pool.erase id } })

/-- Registers a server, and gives it a client if it is to have one. -/
def register (s : Server Float) (withClient : Bool) (w : World) :
    Except RegistryError Unit × World :=
  match w.onRegistry (·.addServer s) with
  | (.ok (), w) => (.ok (), if withClient then w.attach s.serverId else w)
  | (.error e, w) => (.error e, w)

/-- Takes a configured server in. The answer tells also whether it got a client. -/
def addServer (connect : Server Float → Except BackendError Unit) (config : ServerConfig Float)
    (w : World) : Outcome (Server Float × Bool) × World :=
  match w.onFleet (Orchestrator.addServer connect config) with
  | (.ok s, w) => (.ok (s, w.fleet.pool.contains s.serverId), w.attach s.serverId)
  | (.error e, w) => (.error e, w)

/-! ## Holds -/

def keepHold {ε : Type} : Except ε (Reservation Float) × World → Except ε (Reservation Float) × World
  | (.ok hold, w) => (.ok hold, { w with holds := w.holds ++ [hold] })
  | (.error e, w) => (.error e, w)

def reserve (id : String) (a : Allocation Float) (w : World) :
    Except RegistryError (Reservation Float) × World :=
  keepHold (w.onRegistry (·.reserve id a))

/-- Takes a hold on a server that was picked beforehand. The answer tells also which servers the choice was
shown. -/
def reservePicked (pick : Option String) (a : Allocation Float) (w : World) :
    (List String × Except PlacementError (Reservation Float)) × World :=
  let seen := w.fleet.registry.serverIds
  let select (_ : List (Server Float)) := pick.elim (.error .missingAffinityTarget) .ok
  let (hold, w) := keepHold (w.onRegistry (·.reserveWith a select .registry))
  ((seen, hold), w)

/-- Takes a hold on the server that the spare placer chooses. -/
def reservePlaced (req : Requirements Float) (strategy : Strategy) (w : World) :
    Except PlacementError (Reservation Float) × World :=
  let (choice, spare) := w.spare.place req strategy w.fleet.registry.listServers
  keepHold ({ w with spare }.onRegistry
    (·.reserveWith req.allocation (fun _ => choice.map Placement.serverId) .registry))

def guardHold (hold : Reservation Float) (w : World) : World :=
  { w with guards := w.guards ++ [some hold] }

/-- The hold under a guard, which is used up thereby. -/
def useGuard? (n : Nat) (w : World) : Option (Reservation Float × World) :=
  (w.guards[n]?.join).map (fun hold => (hold, { w with guards := w.guards.set n none }))

/-! ## Restart -/

/-- The fleet after a restart: what the store holds, clients for the servers in it, and nothing else. The
daemons are not affected. -/
def reopen (w : World) : Except RegistryError World := do
  let ledger ←
    match w.fleet.ledger.store with
    | some store => Ledger.ofStore store
    | none => pure .inMemory
  let fresh := initial w.monitor false w.wallClock
  return { fresh with
    now := w.now
    daemons := w.daemons
    calls := w.calls
    fresh := w.fresh
    fleet := { fresh.fleet with
      ledger
      pool := ledger.registry.servers.map (fun _ _ => ()) } }

end World
end Simulation
end WorkspaceFleet
