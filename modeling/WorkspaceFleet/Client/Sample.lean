import WorkspaceFleet.Document

/-!
# WorkspaceFleet.Client.Sample

The measurements that a daemon takes of a running container, and what is made of them.
-/

namespace WorkspaceFleet

open Document

structure CpuSample where
  totalUsage : Nat
  perCpuUsage : Option (List Nat)
  systemUsage : Option Nat
  onlineCpus : Option Nat

/-- Two successive measurements of the processors, and one of memory in bytes. -/
structure UsageSample where
  cpu : CpuSample
  previousCpu : CpuSample
  memory : Option Nat

namespace CpuSample

def none : CpuSample :=
  { totalUsage := 0, perCpuUsage := .none, systemUsage := .none, onlineCpus := .none }

/-- Reads the written form; whatever is missing was not measured. -/
def decode {κ : Type} (d : Document κ) : Decoded CpuSample := do
  let fs ← d.asFields ["cpu_usage", "system_cpu_usage", "online_cpus"]
  let usage ← fieldD fs "cpu_usage" (asFields ["total_usage", "percpu_usage"]) []
  return {
    totalUsage := ← fieldD usage "total_usage" (asNat word64) 0
    perCpuUsage := ← field? usage "percpu_usage" (asList (asNat word64))
    systemUsage := ← field? fs "system_cpu_usage" (asNat word64)
    onlineCpus := ← field? fs "online_cpus" (asNat word32) }

def processors (c : CpuSample) : Nat :=
  c.onlineCpus.getD ((c.perCpuUsage.map (fun l => max l.length 1)).getD 1)

end CpuSample

namespace UsageSample

def decode {κ : Type} (d : Document κ) : Decoded UsageSample := do
  let fs ← d.asFields ["cpu_stats", "precpu_stats", "memory_stats"]
  let cpu ← fieldD fs "cpu_stats" CpuSample.decode .none
  let previousCpu ← fieldD fs "precpu_stats" CpuSample.decode .none
  let memory ← fieldD fs "memory_stats" (asFields ["usage"]) []
  return { cpu, previousCpu, memory := ← field? memory "usage" (asNat word64) }

/-- What was used of the processors since the previous measurement, in percent of one of them. -/
def cpuPercent (s : UsageSample) : Float :=
  let used := s.cpu.totalUsage - s.previousCpu.totalUsage
  let passed := s.cpu.systemUsage.getD 0 - s.previousCpu.systemUsage.getD 0
  if used = 0 ∨ passed = 0 then 0
  else Float.ofNat used / Float.ofNat passed * Float.ofNat s.cpu.processors * 100

def memoryUsageMb (s : UsageSample) : Nat := s.memory.getD 0 / (1024 * 1024)

end UsageSample
end WorkspaceFleet
