import WorkspaceFleet.Workspace

/-!
# WorkspaceFleet.Backend

What a server's daemon can be asked to do: make, start, stop and remove containers, run a command in
one, say how one fares and how the daemon itself fares. `Operation.Answer` is the type of what each
request brings back.
-/

namespace WorkspaceFleet

structure ContainerSpec (κ : Type) where
  name : Option String
  image : String
  cmd : List String
  env : Table String
  labels : Table String
  workingDir : Option String
  /-- The limit in cores; none at zero. -/
  cpuCores : κ
  /-- The limit in MiB; none at zero. -/
  memoryMb : Nat

def ContainerSpec.withLimits {κ : Type} (s : ContainerSpec κ) (a : Allocation κ) :
    ContainerSpec κ :=
  { s with cpuCores := a.cpuCores, memoryMb := a.memoryMb }

structure ContainerStats (κ : Type) where
  running : Bool
  cpuPercent : κ
  memoryUsageMb : Nat
  state : String
  deriving DecidableEq, Repr

def ContainerStats.stopped {κ : Type} [Quantity κ] (state : String) : ContainerStats κ :=
  { running := false, cpuPercent := Quantity.zero, memoryUsageMb := 0, state }

def ContainerStats.missing {κ : Type} [Quantity κ] : ContainerStats κ := stopped "missing"

structure ExecResult where
  exitCode : Int
  output : String
  deriving DecidableEq, Repr

def ExecResult.success (r : ExecResult) : Bool := r.exitCode == 0

/-- What a daemon says of itself; memory is in bytes. -/
structure DaemonInfo where
  containers : Nat
  containersRunning : Nat
  cpuCount : Nat
  memoryTotal : Nat
  serverVersion : Option String
  deriving DecidableEq, Repr

def DaemonInfo.observation (i : DaemonInfo) : DaemonObservation where
  containers := i.containers
  containersRunning := i.containersRunning
  cpuCount := i.cpuCount
  memoryTotalMb := i.memoryTotal / (1024 * 1024)
  serverVersion := i.serverVersion

inductive BackendError where
  | configuration (cause : String)
  | unavailable (serverId cause : String)
  deriving DecidableEq, Repr

namespace BackendError

def message : BackendError → String
  | .configuration cause => "configuration error: " ++ cause
  | .unavailable id cause => "runtime unavailable on server " ++ id ++ ": " ++ cause

def serverId? : BackendError → Option String
  | .configuration _ => none
  | .unavailable id _ => some id

/-- Whether the daemon failed, and another try may succeed. -/
def isUnavailable : BackendError → Bool
  | .configuration _ => false
  | .unavailable _ _ => true

def noClient (id : String) : BackendError := .configuration ("no runtime client for server " ++ id)

end BackendError

inductive Operation (κ : Type) where
  /-- Makes a container, without starting it. -/
  | create (spec : ContainerSpec κ)
  | start (containerId : String)
  | stop (containerId : String)
  /-- Removes a container, running or not. -/
  | remove (containerId : String)
  | exec (containerId : String) (cmd : List String)
  | stats (containerId : String)
  | info

def Operation.Answer {κ : Type} : Operation κ → Type
  | .create _ => String
  | .start _ => Unit
  | .stop _ => Unit
  | .remove _ => Unit
  | .exec _ _ => ExecResult
  | .stats _ => ContainerStats κ
  | .info => DaemonInfo

end WorkspaceFleet
