import WorkspaceFleet.Server.Encoding
import WorkspaceFleet.Workspace

/-!
# WorkspaceFleet.Workspace.Encoding

The written forms of workspaces, of requests for them and of holds.
-/

namespace WorkspaceFleet

open Document

variable {κ : Type} [Quantity κ]

namespace Requirements

def encode (r : Requirements κ) : Document κ :=
  .record [("cpu_cores", quantity r.cpuCores), ("memory_mb", nat r.memoryMb),
    ("disk_gb", nat r.diskGb), ("affinity_server_id", option .text r.affinity),
    ("required_labels", table LabelValue.encode r.requiredLabels)]

/-- Reads the written form; target and labels may be missing. -/
def decode (d : Document κ) : Decoded (Requirements κ) := do
  let fs ← d.asFields
    ["cpu_cores", "memory_mb", "disk_gb", "affinity_server_id", "required_labels"]
  return {
    cpuCores := ← field fs "cpu_cores" asQuantity
    memoryMb := ← field fs "memory_mb" (asNat word64)
    diskGb := ← field fs "disk_gb" (asNat word64)
    affinity := ← field? fs "affinity_server_id" asText
    requiredLabels := ← fieldD fs "required_labels" (asTable LabelValue.decode) ∅ }

end Requirements

def Reservation.encode (r : Reservation κ) : Document κ :=
  .record [("id", nat r.id), ("server_id", .text r.serverId), ("allocation", r.allocation.encode)]

def Reservation.decode (d : Document κ) : Decoded (Reservation κ) := do
  let fs ← d.asFields ["id", "server_id", "allocation"]
  return {
    id := ← field fs "id" (asNat word64)
    serverId := ← field fs "server_id" asText
    allocation := ← field fs "allocation" Allocation.decode }

namespace Workspace

def fieldNames : List String :=
  ["container_id", "server_id", "running", "healthy", "cpu_percent", "memory_usage_mb",
    "started_at", "last_check_at", "last_error", "allocation", "consecutive_probe_failures"]

def encode (w : Workspace κ) : Document κ :=
  .record [("container_id", .text w.containerId), ("server_id", .text w.serverId),
    ("running", .bool w.running), ("healthy", .bool w.healthy),
    ("cpu_percent", quantity w.cpuPercent), ("memory_usage_mb", nat w.memoryUsageMb),
    ("started_at", nat w.startedAt), ("last_check_at", option nat w.lastCheckAt),
    ("last_error", option .text w.lastError), ("allocation", w.allocation.encode),
    ("consecutive_probe_failures", nat w.consecutiveProbeFailures)]

/-- Reads the written form; the number of failures and what may be absent may be missing. -/
def decode (d : Document κ) : Decoded (Workspace κ) := do
  let fs ← d.asFields fieldNames
  return {
    containerId := ← field fs "container_id" asText
    serverId := ← field fs "server_id" asText
    running := ← field fs "running" asBool
    healthy := ← field fs "healthy" asBool
    cpuPercent := ← field fs "cpu_percent" asQuantity
    memoryUsageMb := ← field fs "memory_usage_mb" (asNat word64)
    startedAt := ← field fs "started_at" (asNat word64)
    lastCheckAt := ← field? fs "last_check_at" (asNat word64)
    lastError := ← field? fs "last_error" asText
    allocation := ← field fs "allocation" Allocation.decode
    consecutiveProbeFailures := ← fieldD fs "consecutive_probe_failures" (asNat word32) 0 }

end Workspace

def WorkspaceHealth.encode (h : WorkspaceHealth κ) : Document κ :=
  .record [("container_id", .text h.containerId), ("server_id", .text h.serverId),
    ("running", .bool h.running), ("healthy", .bool h.healthy),
    ("cpu_percent", quantity h.cpuPercent), ("memory_usage_mb", nat h.memoryUsageMb),
    ("started_at", nat h.startedAt), ("last_check_at", option nat h.lastCheckAt),
    ("last_error", option .text h.lastError)]

end WorkspaceFleet
