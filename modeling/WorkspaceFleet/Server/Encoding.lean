import WorkspaceFleet.Server

/-!
# WorkspaceFleet.Server.Encoding

The written forms of servers, of their configuration and of what is reported of them.
-/

namespace WorkspaceFleet

open Document

variable {κ : Type} [Quantity κ]

namespace Allocation

def encode (a : Allocation κ) : Document κ :=
  .record [("cpu_cores", quantity a.cpuCores), ("memory_mb", nat a.memoryMb),
    ("disk_gb", nat a.diskGb)]

def decode (d : Document κ) : Decoded (Allocation κ) := do
  let fs ← d.asFields ["cpu_cores", "memory_mb", "disk_gb"]
  return {
    cpuCores := ← field fs "cpu_cores" asQuantity
    memoryMb := ← field fs "memory_mb" (asNat word64)
    diskGb := ← field fs "disk_gb" (asNat word64) }

end Allocation

namespace ServerStatus

def words : List (String × ServerStatus) :=
  [("healthy", .healthy), ("unhealthy", .unhealthy), ("offline", .offline)]

def word : ServerStatus → String
  | .healthy => "healthy"
  | .unhealthy => "unhealthy"
  | .offline => "offline"

def encode {κ : Type} (s : ServerStatus) : Document κ := .text s.word

def decode {κ : Type} (d : Document κ) : Decoded ServerStatus := d.asWord words

end ServerStatus

namespace DaemonObservation

def encode {κ : Type} (o : DaemonObservation) : Document κ :=
  .record [("containers", nat o.containers), ("containers_running", nat o.containersRunning),
    ("cpu_count", nat o.cpuCount), ("memory_total_mb", nat o.memoryTotalMb),
    ("server_version", option .text o.serverVersion)]

def decode {κ : Type} (d : Document κ) : Decoded DaemonObservation := do
  let fs ← d.asFields
    ["containers", "containers_running", "cpu_count", "memory_total_mb", "server_version"]
  return {
    containers := ← field fs "containers" (asNat word32)
    containersRunning := ← field fs "containers_running" (asNat word32)
    cpuCount := ← field fs "cpu_count" (asNat word32)
    memoryTotalMb := ← field fs "memory_total_mb" (asNat word64)
    serverVersion := ← field? fs "server_version" asText }

end DaemonObservation

namespace ServerConfig

def fieldNames : List String :=
  ["server_id", "name", "host", "port", "transport", "total_cpu_cores", "total_memory_mb",
    "total_disk_gb", "max_workspaces", "labels"]

def encode (c : ServerConfig κ) : Document κ :=
  .record [("server_id", .text c.serverId), ("name", .text c.name), ("host", .text c.host),
    ("port", nat c.port), ("transport", c.transport.encode),
    ("total_cpu_cores", quantity c.totalCpuCores), ("total_memory_mb", nat c.totalMemoryMb),
    ("total_disk_gb", nat c.totalDiskGb), ("max_workspaces", nat c.maxWorkspaces),
    ("labels", table LabelValue.encode c.labels)]

/-- Reads the written form; name, transport and labels may be missing. -/
def decode (d : Document κ) : Decoded (ServerConfig κ) := do
  let fs ← d.asFields fieldNames
  return {
    serverId := ← field fs "server_id" asText
    name := ← fieldD fs "name" asText ""
    host := ← field fs "host" asText
    port := ← field fs "port" (asNat 65536)
    transport := ← fieldD fs "transport" Transport.decode .plain
    totalCpuCores := ← field fs "total_cpu_cores" asQuantity
    totalMemoryMb := ← field fs "total_memory_mb" (asNat word64)
    totalDiskGb := ← field fs "total_disk_gb" (asNat word64)
    maxWorkspaces := ← field fs "max_workspaces" (asNat word32)
    labels := ← fieldD fs "labels" (asTable LabelValue.decode) ∅ }

end ServerConfig

namespace Server

def fieldNames : List String :=
  ["server_id", "name", "host", "port", "transport", "total_cpu_cores", "total_memory_mb",
    "total_disk_gb", "max_workspaces", "labels", "status", "last_health_check_at", "last_error",
    "consecutive_failures", "observed", "current_cpu_used", "current_memory_used_mb",
    "current_disk_used_gb", "current_workspace_count"]

def encode (s : Server κ) : Document κ :=
  .record [("server_id", .text s.serverId), ("name", .text s.name), ("host", .text s.host),
    ("port", nat s.port), ("transport", s.transport.encode),
    ("total_cpu_cores", quantity s.totalCpuCores), ("total_memory_mb", nat s.totalMemoryMb),
    ("total_disk_gb", nat s.totalDiskGb), ("max_workspaces", nat s.maxWorkspaces),
    ("labels", table LabelValue.encode s.labels), ("status", s.status.encode),
    ("last_health_check_at", option nat s.lastHealthCheckAt),
    ("last_error", option .text s.lastError),
    ("consecutive_failures", nat s.consecutiveFailures),
    ("observed", option DaemonObservation.encode s.observed),
    ("current_cpu_used", quantity s.cpuUsed), ("current_memory_used_mb", nat s.memoryUsedMb),
    ("current_disk_used_gb", nat s.diskUsedGb),
    ("current_workspace_count", nat s.workspaceCount)]

/-- Reads the written form; the number of failures and what may be absent may be missing. -/
def decode (d : Document κ) : Decoded (Server κ) := do
  let fs ← d.asFields fieldNames
  return {
    serverId := ← field fs "server_id" asText
    name := ← field fs "name" asText
    host := ← field fs "host" asText
    port := ← field fs "port" (asNat 65536)
    transport := ← field fs "transport" Transport.decode
    totalCpuCores := ← field fs "total_cpu_cores" asQuantity
    totalMemoryMb := ← field fs "total_memory_mb" (asNat word64)
    totalDiskGb := ← field fs "total_disk_gb" (asNat word64)
    maxWorkspaces := ← field fs "max_workspaces" (asNat word32)
    labels := ← field fs "labels" (asTable LabelValue.decode)
    status := ← field fs "status" ServerStatus.decode
    lastHealthCheckAt := ← field? fs "last_health_check_at" (asNat word64)
    lastError := ← field? fs "last_error" asText
    consecutiveFailures := ← fieldD fs "consecutive_failures" (asNat word32) 0
    observed := ← field? fs "observed" DaemonObservation.decode
    cpuUsed := ← field fs "current_cpu_used" asQuantity
    memoryUsedMb := ← field fs "current_memory_used_mb" (asNat word64)
    diskUsedGb := ← field fs "current_disk_used_gb" (asNat word64)
    workspaceCount := ← field fs "current_workspace_count" (asNat word32) }

end Server

def ServerHealth.encode (h : ServerHealth κ) : Document κ :=
  .record [("server_id", .text h.serverId), ("status", h.status.encode),
    ("last_health_check_at", option nat h.lastHealthCheckAt),
    ("last_error", option .text h.lastError),
    ("consecutive_failures", nat h.consecutiveFailures),
    ("current_workspace_count", nat h.workspaceCount), ("max_workspaces", nat h.maxWorkspaces),
    ("cpu_utilization", quantity h.cpuUtilization),
    ("memory_utilization", quantity h.memoryUtilization),
    ("observed", option DaemonObservation.encode h.observed)]

end WorkspaceFleet
