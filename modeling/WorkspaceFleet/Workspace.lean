import WorkspaceFleet.Server

/-!
# WorkspaceFleet.Workspace

Workspaces, the requests for them, and the holds that are taken on a server's capacity while the
container of a workspace is made.
-/

namespace WorkspaceFleet

/-- A request for a workspace: resources, labels that its server must have, and possibly the one
server that it must be placed on. -/
structure Requirements (κ : Type) where
  cpuCores : κ
  memoryMb : Nat
  diskGb : Nat
  affinity : Option String
  requiredLabels : Labels

namespace Requirements

variable {κ : Type}

def ofResources (cpuCores : κ) (memoryMb diskGb : Nat) : Requirements κ :=
  { cpuCores, memoryMb, diskGb, affinity := none, requiredLabels := ∅ }

def withAffinity (r : Requirements κ) (serverId : String) : Requirements κ :=
  { r with affinity := some serverId }

def withLabel (r : Requirements κ) (key : String) (value : LabelValue) : Requirements κ :=
  { r with requiredLabels := r.requiredLabels.insert key value }

def allocation (r : Requirements κ) : Allocation κ :=
  { cpuCores := r.cpuCores, memoryMb := r.memoryMb, diskGb := r.diskGb }

end Requirements

/-- A hold on the capacity of a server. -/
structure Reservation (κ : Type) where
  id : Nat
  serverId : String
  allocation : Allocation κ
  deriving DecidableEq, Repr, Inhabited

structure Workspace (κ : Type) where
  containerId : String
  serverId : String
  /-- The container's process is there. -/
  running : Bool
  /-- It is running and its probe succeeds. -/
  healthy : Bool
  cpuPercent : κ
  memoryUsageMb : Nat
  startedAt : Nat
  lastCheckAt : Option Nat
  lastError : Option String
  allocation : Allocation κ
  consecutiveProbeFailures : Nat
  deriving DecidableEq, Inhabited

structure WorkspaceHealth (κ : Type) where
  containerId : String
  serverId : String
  running : Bool
  healthy : Bool
  cpuPercent : κ
  memoryUsageMb : Nat
  startedAt : Nat
  lastCheckAt : Option Nat
  lastError : Option String

namespace Workspace

variable {κ : Type}

/-- The record of a workspace whose container was just started under a hold: running, and not healthy
before its first probe. -/
def ofReservation [Quantity κ] (r : Reservation κ) (containerId : String) (startedAt : Nat) :
    Workspace κ where
  containerId := containerId
  serverId := r.serverId
  running := true
  healthy := false
  cpuPercent := Quantity.zero
  memoryUsageMb := 0
  startedAt := startedAt
  lastCheckAt := none
  lastError := none
  allocation := r.allocation
  consecutiveProbeFailures := 0

def health (w : Workspace κ) : WorkspaceHealth κ where
  containerId := w.containerId
  serverId := w.serverId
  running := w.running
  healthy := w.healthy
  cpuPercent := w.cpuPercent
  memoryUsageMb := w.memoryUsageMb
  startedAt := w.startedAt
  lastCheckAt := w.lastCheckAt
  lastError := w.lastError

end Workspace
end WorkspaceFleet
