import WorkspaceFleet.Document

/-!
# WorkspaceFleet.Health.Config

The settings of the monitor: how often it looks, how long it waits, how many failures it forgives,
and what it runs inside a workspace to see whether it answers.
-/

namespace WorkspaceFleet

structure MonitorConfig where
  serverInterval : Duration
  workspaceInterval : Duration
  callTimeout : Duration
  tickTimeout : Duration
  offlineThreshold : Nat
  unresponsiveThreshold : Nat
  maxConcurrentChecks : Nat
  /-- The command run inside a workspace; none at all means that every running workspace answers. -/
  probeCommand : List String
  deriving DecidableEq, Repr

inductive MonitorConfigError where
  | zeroInterval
  | zeroTimeout
  | zeroThreshold
  | zeroConcurrency
  deriving DecidableEq, Repr

def MonitorConfigError.message : MonitorConfigError → String
  | .zeroInterval => "monitor intervals must be greater than zero"
  | .zeroTimeout => "monitor timeouts must be greater than zero"
  | .zeroThreshold => "monitor thresholds must be at least 1"
  | .zeroConcurrency => "max_concurrent_checks must be at least 1"

namespace MonitorConfig

open Document

variable {κ : Type}

def default : MonitorConfig where
  serverInterval := .ofSecs 15
  workspaceInterval := .ofSecs 30
  callTimeout := .ofSecs 5
  tickTimeout := .ofSecs 20
  offlineThreshold := 3
  unresponsiveThreshold := 3
  maxConcurrentChecks := 8
  probeCommand := ["supervisorctl", "status"]

/-- Refuses settings under which the monitor would stand still. -/
def validate (c : MonitorConfig) : Except MonitorConfigError Unit :=
  if c.serverInterval.isZero ∨ c.workspaceInterval.isZero then .error .zeroInterval
  else if c.callTimeout.isZero ∨ c.tickTimeout.isZero then .error .zeroTimeout
  else if c.offlineThreshold = 0 ∨ c.unresponsiveThreshold = 0 then .error .zeroThreshold
  else if c.maxConcurrentChecks = 0 then .error .zeroConcurrency
  else .ok ()

def fieldNames : List String :=
  ["server_interval", "workspace_interval", "call_timeout", "tick_timeout", "offline_threshold",
    "unresponsive_threshold", "max_concurrent_checks", "probe_command"]

def encode (c : MonitorConfig) : Document κ :=
  .record [("server_interval", duration c.serverInterval),
    ("workspace_interval", duration c.workspaceInterval), ("call_timeout", duration c.callTimeout),
    ("tick_timeout", duration c.tickTimeout), ("offline_threshold", nat c.offlineThreshold),
    ("unresponsive_threshold", nat c.unresponsiveThreshold),
    ("max_concurrent_checks", nat c.maxConcurrentChecks),
    ("probe_command", .list (c.probeCommand.map .text))]

def decodeField (c : MonitorConfig) : String × Document κ → Decoded MonitorConfig
  | ("server_interval", d) => do return { c with serverInterval := ← d.asDuration }
  | ("workspace_interval", d) => do return { c with workspaceInterval := ← d.asDuration }
  | ("call_timeout", d) => do return { c with callTimeout := ← d.asDuration }
  | ("tick_timeout", d) => do return { c with tickTimeout := ← d.asDuration }
  | ("offline_threshold", d) => do return { c with offlineThreshold := ← d.asNat word32 }
  | ("unresponsive_threshold", d) => do return { c with unresponsiveThreshold := ← d.asNat word32 }
  | ("max_concurrent_checks", d) => do return { c with maxConcurrentChecks := ← d.asNat word64 }
  | ("probe_command", d) => do return { c with probeCommand := ← d.asList asText }
  | _ => .ok c

/-- Reads the written form, field by field in the order given; a missing field has its default. -/
def decode (d : Document κ) : Decoded MonitorConfig := do
  (← d.asFields fieldNames).foldlM decodeField default

end MonitorConfig
end WorkspaceFleet
