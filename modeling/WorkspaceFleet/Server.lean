import WorkspaceFleet.Label
import WorkspaceFleet.Transport

/-!
# WorkspaceFleet.Server

Servers: what is configured for one, what is recorded of it, and the capacity arithmetic.

A server declares processor cores, memory, disk space and a number of workspaces. Its record counts
what the workspaces and the pending holds use of each; `Server.fits` decides whether one more
allocation has room, `Server.apply` and `Server.retract` add and take one.
-/

namespace WorkspaceFleet

structure Allocation (κ : Type) where
  cpuCores : κ
  memoryMb : Nat
  diskGb : Nat
  deriving DecidableEq, Repr, Inhabited

/-- What the monitor makes of a server. -/
inductive ServerStatus where
  | healthy
  | unhealthy
  | offline
  deriving DecidableEq, Repr, Inhabited

structure ServerConfig (κ : Type) where
  serverId : String
  name : String
  host : String
  port : Nat
  transport : Transport
  totalCpuCores : κ
  totalMemoryMb : Nat
  totalDiskGb : Nat
  maxWorkspaces : Nat
  labels : Labels

/-- What a daemon said of itself at its last successful check. -/
structure DaemonObservation where
  containers : Nat
  containersRunning : Nat
  cpuCount : Nat
  memoryTotalMb : Nat
  serverVersion : Option String
  deriving DecidableEq, Repr, Inhabited

/-- A registered server: its configuration, its state of health and what is used of it. -/
structure Server (κ : Type) where
  serverId : String
  name : String
  host : String
  port : Nat
  transport : Transport
  totalCpuCores : κ
  totalMemoryMb : Nat
  totalDiskGb : Nat
  maxWorkspaces : Nat
  labels : Labels
  status : ServerStatus
  lastHealthCheckAt : Option Nat
  lastError : Option String
  consecutiveFailures : Nat
  observed : Option DaemonObservation
  cpuUsed : κ
  memoryUsedMb : Nat
  diskUsedGb : Nat
  workspaceCount : Nat

inductive Counter where
  | workspaces
  | cpu
  | memory
  | disk
  deriving DecidableEq, Repr

def Counter.name : Counter → String
  | .workspaces => "current_workspace_count"
  | .cpu => "current_cpu_used"
  | .memory => "current_memory_used_mb"
  | .disk => "current_disk_used_gb"

structure ServerHealth (κ : Type) where
  serverId : String
  status : ServerStatus
  lastHealthCheckAt : Option Nat
  lastError : Option String
  consecutiveFailures : Nat
  workspaceCount : Nat
  maxWorkspaces : Nat
  cpuUtilization : κ
  memoryUtilization : κ
  observed : Option DaemonObservation

namespace Server

variable {κ : Type} [Quantity κ]

open Quantity (zero tolerance larger share)

/-- The record of a server that was just registered. It counts as unhealthy until its first successful
check. -/
def ofConfig (c : ServerConfig κ) : Server κ where
  serverId := c.serverId
  name := if c.name = "" then c.serverId else c.name
  host := c.host
  port := c.port
  transport := c.transport
  totalCpuCores := c.totalCpuCores
  totalMemoryMb := c.totalMemoryMb
  totalDiskGb := c.totalDiskGb
  maxWorkspaces := c.maxWorkspaces
  labels := c.labels
  status := .unhealthy
  lastHealthCheckAt := none
  lastError := none
  consecutiveFailures := 0
  observed := none
  cpuUsed := zero
  memoryUsedMb := 0
  diskUsedGb := 0
  workspaceCount := 0

def baseUrl (s : Server κ) : String :=
  s.transport.scheme ++ "://" ++ s.host ++ ":" ++ Text.Decimal.text s.port

def isHealthy (s : Server κ) : Bool := s.status == .healthy

def freeCpu (s : Server κ) : κ := larger (s.totalCpuCores - s.cpuUsed) zero

def freeMemoryMb (s : Server κ) : Nat := s.totalMemoryMb - s.memoryUsedMb

def freeDiskGb (s : Server κ) : Nat := s.totalDiskGb - s.diskUsedGb

/-- Whether one more workspace with this allocation has room in every respect. -/
def fits (s : Server κ) (a : Allocation κ) : Bool :=
  decide (a.cpuCores ≤ s.totalCpuCores - s.cpuUsed + tolerance) &&
  decide (a.memoryMb ≤ s.freeMemoryMb) && decide (a.diskGb ≤ s.freeDiskGb) &&
  decide (s.workspaceCount < s.maxWorkspaces)

def cpuUtilization (s : Server κ) : κ := share s.cpuUsed s.totalCpuCores

def memoryUtilization (s : Server κ) : κ :=
  share (Quantity.ofInt s.memoryUsedMb) (Quantity.ofInt s.totalMemoryMb)

def apply (s : Server κ) (a : Allocation κ) : Server κ :=
  { s with
    cpuUsed := s.cpuUsed + a.cpuCores
    memoryUsedMb := s.memoryUsedMb + a.memoryMb
    diskUsedGb := s.diskUsedGb + a.diskGb
    workspaceCount := s.workspaceCount + 1 }

/-- The server with one workspace less; no counter goes below zero. -/
def retract (s : Server κ) (a : Allocation κ) : Server κ :=
  { s with
    cpuUsed := larger (s.cpuUsed - a.cpuCores) zero
    memoryUsedMb := s.memoryUsedMb - a.memoryMb
    diskUsedGb := s.diskUsedGb - a.diskGb
    workspaceCount := s.workspaceCount - 1 }

/-- The first counter that would go below zero if an allocation were taken away. -/
def underflow? (s : Server κ) (a : Allocation κ) : Option Counter :=
  if s.workspaceCount = 0 then some .workspaces
  else if s.cpuUsed + tolerance < a.cpuCores then some .cpu
  else if s.memoryUsedMb < a.memoryMb then some .memory
  else if s.diskUsedGb < a.diskGb then some .disk
  else none

def health (s : Server κ) : ServerHealth κ where
  serverId := s.serverId
  status := s.status
  lastHealthCheckAt := s.lastHealthCheckAt
  lastError := s.lastError
  consecutiveFailures := s.consecutiveFailures
  workspaceCount := s.workspaceCount
  maxWorkspaces := s.maxWorkspaces
  cpuUtilization := s.cpuUtilization
  memoryUtilization := s.memoryUtilization
  observed := s.observed

end Server
end WorkspaceFleet
