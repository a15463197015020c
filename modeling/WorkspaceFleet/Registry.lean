import WorkspaceFleet.Store

/-!
# WorkspaceFleet.Registry

The servers, the recorded workspaces and the pending holds of a fleet, and the operations on them.

Capacity is counted on the server records. A hold takes it (`reserveWith`), and either gives it back
(`release`) or becomes a workspace record (`commit`), which gives it back when it is removed
(`removeWorkspace`). `reconcile` recomputes every counter from records and holds.

Every operation is a `Change`: a result, the registry afterwards, and the writes that carry the change
to the store, in order. The store may refuse a write, and an operation that is refused stops there. A
release has let go of its hold by then, and a removal of its record once the row is gone; every other
operation changes the memory after the write.
-/

namespace WorkspaceFleet

structure Registry (κ : Type) where
  servers : Table (Server κ)
  workspaces : Table (Workspace κ)
  /-- The holds that are neither given back nor recorded, oldest first. -/
  pending : List (Reservation κ)
  /-- The number of the next hold, a 64-bit word; after the last one the numbers begin again. -/
  nextReservation : Nat

/-- What an operation answers, what it leaves, and what it writes on the way. -/
structure Change (κ : Type) (α : Type) where
  result : α
  registry : Registry κ
  writes : List (Write κ)
  /-- What it leaves where the store refuses a write, by the number of writes before that one. -/
  refused : Nat → Registry κ

/-- The change with another answer. -/
def Change.map {κ α β : Type} (f : α → β) (c : Change κ α) : Change κ β :=
  ⟨f c.result, c.registry, c.writes, c.refused⟩

structure ServerCheck where
  status : ServerStatus
  consecutiveFailures : Nat
  lastError : Option String
  /-- A new observation; without one the earlier stays. -/
  observed : Option DaemonObservation
  checkedAt : Nat

structure UsageCorrection where
  serverId : String
  previousWorkspaceCount : Nat
  correctedWorkspaceCount : Nat
  deriving DecidableEq, Repr

structure Usage (κ : Type) where
  allocation : Allocation κ
  count : Nat

namespace Usage

variable {κ : Type} [Quantity κ]

def none : Usage κ :=
  ⟨{ cpuCores := Quantity.zero, memoryMb := 0, diskGb := 0 }, 0⟩

def add (u : Usage κ) (a : Allocation κ) : Usage κ where
  allocation := {
    cpuCores := u.allocation.cpuCores + a.cpuCores
    memoryMb := u.allocation.memoryMb + a.memoryMb
    diskGb := u.allocation.diskGb + a.diskGb }
  count := u.count + 1

end Usage

namespace Registry

variable {κ : Type} [Quantity κ] {α ε : Type}

def empty {κ : Type} : Registry κ := ⟨∅, ∅, [], 1⟩

def unchanged {κ : Type} (r : Registry κ) (result : α) : Change κ α := ⟨result, r, [], fun _ => r⟩

/-- A change whose one write comes before anything is changed in memory. -/
def changed {κ : Type} (r : Registry κ) (result : α) (after : Registry κ) (write : Write κ) :
    Change κ α := ⟨result, after, [write], fun _ => r⟩

/-! ## Servers -/

def listServers {κ : Type} (r : Registry κ) : List (Server κ) := r.servers.values

def serverIds {κ : Type} (r : Registry κ) : List String := r.servers.keys

def addServer {κ : Type} (r : Registry κ) (s : Server κ) : Change κ (Except RegistryError Unit) :=
  if r.servers.contains s.serverId then r.unchanged (.error (.duplicateServer s.serverId))
  else r.changed (.ok ()) { r with servers := r.servers.insert s.serverId s } (.putServer s)

/-- Takes a server out, unless workspaces or holds are counted on it. -/
def removeServer {κ : Type} (r : Registry κ) (id : String) :
    Change κ (Except RegistryError (Server κ)) :=
  match r.servers.get? id with
  | none => r.unchanged (.error (.serverNotFound id))
  | some s =>
    if 0 < s.workspaceCount then r.unchanged (.error (.serverHasWorkspaces id s.workspaceCount))
    else r.changed (.ok s) { r with servers := r.servers.erase id } (.deleteServer id)

def checked {κ : Type} (s : Server κ) (c : ServerCheck) : Server κ :=
  { s with
    status := c.status
    consecutiveFailures := c.consecutiveFailures
    lastError := c.lastError
    lastHealthCheckAt := some c.checkedAt
    observed := if c.observed.isSome then c.observed else s.observed }

/-- Records a check, and answers the status before it. -/
def recordServerCheck {κ : Type} (r : Registry κ) (id : String) (c : ServerCheck) :
    Change κ (Except RegistryError ServerStatus) :=
  match r.servers.get? id with
  | none => r.unchanged (.error (.serverNotFound id))
  | some s =>
    r.changed (.ok s.status) { r with servers := r.servers.insert id (checked s c) }
      (.putServer (checked s c))

/-! ## Holds -/

def reserve (r : Registry κ) (id : String) (a : Allocation κ) :
    Change κ (Except RegistryError (Reservation κ)) :=
  match r.servers.get? id with
  | none => r.unchanged (.error (.serverNotFound id))
  | some s =>
    if s.fits a then
      let hold := { id := r.nextReservation, serverId := id, allocation := a }
      r.changed (.ok hold)
        { r with
          servers := r.servers.insert id (s.apply a)
          pending := r.pending ++ [hold]
          nextReservation := (r.nextReservation + 1) % word64 }
        (.putServer (s.apply a))
    else r.unchanged (.error (.capacityExhausted id))

/-- Takes a hold on the server that `select` names, shown all servers in the order of their ids. That it
has room is checked again. `lift` makes a refusal of the registry one of `select`'s errors. -/
def reserveWith (r : Registry κ) (a : Allocation κ) (select : List (Server κ) → Except ε String)
    (lift : RegistryError → ε) : Change κ (Except ε (Reservation κ)) :=
  match select r.listServers with
  | .error e => r.unchanged (.error e)
  | .ok id => (r.reserve id a).map (·.mapError lift)

def hold? {κ : Type} (r : Registry κ) (id : Nat) : Option (Reservation κ) :=
  r.pending.find? (·.id == id)

def withoutHold {κ : Type} (r : Registry κ) (id : Nat) : List (Reservation κ) :=
  r.pending.filter (·.id != id)

/-- Gives a hold back. The answer is false when it is no longer pending. -/
def release (r : Registry κ) (hold : Reservation κ) : Change κ (Except RegistryError Bool) :=
  match r.hold? hold.id with
  | none => r.unchanged (.ok false)
  | some held =>
    let r' := { r with pending := r.withoutHold hold.id }
    match r.servers.get? held.serverId with
    | none => r'.unchanged (.error (.serverNotFound held.serverId))
    | some s =>
      let s' := s.retract held.allocation
      let result :=
        match s.underflow? held.allocation with
        | some counter => .error (.counterUnderflow held.serverId counter)
        | none => .ok true
      r'.changed result { r' with servers := r.servers.insert held.serverId s' } (.putServer s')

/-- Makes a pending hold a workspace record. The counters were raised when it was taken and stay. -/
def commit (r : Registry κ) (hold : Reservation κ) (containerId : String) (startedAt : Nat) :
    Change κ (Except RegistryError (Workspace κ)) :=
  match r.hold? hold.id with
  | none => r.unchanged (.error (.reservationNotFound hold.id))
  | some _ =>
    let w := Workspace.ofReservation hold containerId startedAt
    r.changed (.ok w)
      { r with
        pending := r.withoutHold hold.id
        workspaces := r.workspaces.insert containerId w }
      (.putWorkspace w)

/-! ## Workspaces -/

/-- Every workspace, in the order of the containers' ids. -/
def listWorkspaces {κ : Type} (r : Registry κ) : List (Workspace κ) :=
  r.workspaces.values.mergeSort (fun a b => decide (a.containerId ≤ b.containerId))

/-- Changes a record, and answers it as it is then, unless it is gone. -/
def updateWorkspace {κ : Type} (r : Registry κ) (id : String) (f : Workspace κ → Workspace κ) :
    Change κ (Except RegistryError (Option (Workspace κ))) :=
  match r.workspaces.get? id with
  | none => r.unchanged (.ok none)
  | some w =>
    r.changed (.ok (some (f w))) { r with workspaces := r.workspaces.insert id (f w) }
      (.putWorkspace (f w))

/-- Removes a record and gives its capacity back. Only the call that removes it answers it. -/
def removeWorkspace (r : Registry κ) (id : String) :
    Change κ (Except RegistryError (Option (Workspace κ))) :=
  match r.workspaces.get? id with
  | none => r.unchanged (.ok none)
  | some w =>
    let r' := { r with workspaces := r.workspaces.erase id }
    match r.servers.get? w.serverId with
    | none => r.changed (.ok (some w)) r' (.deleteWorkspace id)
    | some s =>
      let s' := s.retract w.allocation
      ⟨.ok (some w), { r' with servers := r.servers.insert w.serverId s' },
        [.deleteWorkspace id, .putServer s'], fun taken => if taken = 0 then r else r'⟩

/-! ## Reconciliation -/

def allocationsOn {κ : Type} (r : Registry κ) (id : String) : List (Allocation κ) :=
  (r.workspaces.values.filter (·.serverId == id)).map (·.allocation) ++
    (r.pending.filter (·.serverId == id)).map (·.allocation)

def usageOn (r : Registry κ) (id : String) : Usage κ :=
  (r.allocationsOn id).foldl Usage.add Usage.none

def drifted (s : Server κ) (u : Usage κ) : Bool :=
  s.workspaceCount != u.count ||
  decide (Quantity.tolerance < Quantity.magnitude (s.cpuUsed - u.allocation.cpuCores)) ||
  s.memoryUsedMb != u.allocation.memoryMb || s.diskUsedGb != u.allocation.diskGb

def corrected {κ : Type} (s : Server κ) (u : Usage κ) : Server κ :=
  { s with
    cpuUsed := u.allocation.cpuCores
    memoryUsedMb := u.allocation.memoryMb
    diskUsedGb := u.allocation.diskGb
    workspaceCount := u.count }

def driftedServers (r : Registry κ) : List (Server κ) :=
  r.listServers.filter (fun s => drifted s (r.usageOn s.serverId))

/-- The registry with these servers in their places. -/
def updateServers {κ : Type} (r : Registry κ) (updates : List (Server κ)) : Registry κ :=
  { r with servers := updates.foldl (fun t s => t.insert s.serverId s) r.servers }

/-- Recomputes the counters of every server from records and holds, where they drifted. -/
def reconcile (r : Registry κ) : Change κ (Except RegistryError (List UsageCorrection)) :=
  let updates := r.driftedServers.map (fun s => corrected s (r.usageOn s.serverId))
  let corrections := r.driftedServers.map (fun s => {
    serverId := s.serverId
    previousWorkspaceCount := s.workspaceCount
    correctedWorkspaceCount := (r.usageOn s.serverId).count })
  ⟨.ok corrections, r.updateServers updates, updates.map .putServer,
    fun taken => r.updateServers (updates.take taken)⟩

/-! ## Restart -/

/-- A server as a restart finds it: nobody watched it meanwhile, so it is no longer taken for
healthy. -/
def reopened {κ : Type} (s : Server κ) : Server κ :=
  if s.status = .healthy then { s with status := .unhealthy } else s

/-- The registry that a store describes, with the counters reconciled. There are no holds. -/
def load (store : Store κ) : Except RegistryError (Change κ (List UsageCorrection)) := do
  let servers ← store.listServers.mapError .store
  let workspaces ← store.listWorkspaces.mapError .store
  let loaded : Registry κ := {
    servers := Table.ofList (servers.map (fun s => (s.serverId, reopened s)))
    workspaces := Table.ofList (workspaces.map (fun w => (w.containerId, w)))
    pending := []
    nextReservation := 1 }
  let c := loaded.reconcile
  let corrections ← c.result
  return c.map fun _ => corrections

end Registry
end WorkspaceFleet
