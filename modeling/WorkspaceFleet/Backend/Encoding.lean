import WorkspaceFleet.Backend
import WorkspaceFleet.Server.Encoding

/-!
# WorkspaceFleet.Backend.Encoding

The written form of a container specification, and the form in which a daemon reports on itself.
-/

namespace WorkspaceFleet

open Document

variable {κ : Type} [Quantity κ]

namespace ContainerSpec

def ofImage (image : String) : ContainerSpec κ :=
  { name := none, image, cmd := [], env := ∅, labels := ∅, workingDir := none,
    cpuCores := Quantity.zero, memoryMb := 0 }

def encode (s : ContainerSpec κ) : Document κ :=
  .record [("name", option .text s.name), ("image", .text s.image),
    ("cmd", .list (s.cmd.map .text)), ("env", table .text s.env), ("labels", table .text s.labels),
    ("working_dir", option .text s.workingDir), ("cpu_cores", quantity s.cpuCores),
    ("memory_mb", nat s.memoryMb)]

/-- Reads the written form; only the image has to be there. -/
def decode (d : Document κ) : Decoded (ContainerSpec κ) := do
  let fs ← d.asFields
    ["name", "image", "cmd", "env", "labels", "working_dir", "cpu_cores", "memory_mb"]
  return {
    name := ← field? fs "name" asText
    image := ← field fs "image" asText
    cmd := ← fieldD fs "cmd" (asList asText) []
    env := ← fieldD fs "env" (asTable asText) ∅
    labels := ← fieldD fs "labels" (asTable asText) ∅
    workingDir := ← field? fs "working_dir" asText
    cpuCores := ← fieldD fs "cpu_cores" asQuantity Quantity.zero
    memoryMb := ← fieldD fs "memory_mb" (asNat word64) 0 }

end ContainerSpec

/-- Reads a daemon's report on itself; whatever is missing counts as nothing. -/
def DaemonInfo.decode {κ : Type} (d : Document κ) : Decoded DaemonInfo := do
  let fs ← d.asFields ["Containers", "ContainersRunning", "NCPU", "MemTotal", "ServerVersion"]
  return {
    containers := ← fieldD fs "Containers" (asNat word32) 0
    containersRunning := ← fieldD fs "ContainersRunning" (asNat word32) 0
    cpuCount := ← fieldD fs "NCPU" (asNat word32) 0
    memoryTotal := ← fieldD fs "MemTotal" (asNat word64) 0
    serverVersion := ← field? fs "ServerVersion" asText }

end WorkspaceFleet
