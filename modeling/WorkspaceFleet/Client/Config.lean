import WorkspaceFleet.Document

/-!
# WorkspaceFleet.Client.Config

The settings of the clients by which daemons are reached: how long a call may take, how many calls one
daemon gets at a time, and how long a container may take to stop.
-/

namespace WorkspaceFleet

structure ClientConfig where
  callTimeout : Duration
  maxConcurrentPerServer : Nat
  keepaliveIdlePerServer : Nat
  /-- How long a container may take to stop before it is killed, in seconds. -/
  stopGraceSecs : Nat
  deriving DecidableEq, Repr

namespace ClientConfig

open Document

variable {κ : Type}

def default : ClientConfig where
  callTimeout := .ofSecs 10
  maxConcurrentPerServer := 4
  keepaliveIdlePerServer := 2
  stopGraceSecs := 10

def fieldNames : List String :=
  ["call_timeout", "max_concurrent_per_server", "keepalive_idle_per_server", "stop_grace_secs"]

def encode (c : ClientConfig) : Document κ :=
  .record [("call_timeout", duration c.callTimeout),
    ("max_concurrent_per_server", nat c.maxConcurrentPerServer),
    ("keepalive_idle_per_server", nat c.keepaliveIdlePerServer),
    ("stop_grace_secs", nat c.stopGraceSecs)]

def decodeField (c : ClientConfig) : String × Document κ → Decoded ClientConfig
  | ("call_timeout", d) => do return { c with callTimeout := ← d.asDuration }
  | ("max_concurrent_per_server", d) => do
    return { c with maxConcurrentPerServer := ← d.asNat word64 }
  | ("keepalive_idle_per_server", d) => do
    return { c with keepaliveIdlePerServer := ← d.asNat word64 }
  | ("stop_grace_secs", d) => do return { c with stopGraceSecs := ← d.asNat word64 }
  | _ => .ok c

/-- Reads the written form, field by field in the order given; a missing field has its default. -/
def decode (d : Document κ) : Decoded ClientConfig := do
  (← d.asFields fieldNames).foldlM decodeField default

end ClientConfig
end WorkspaceFleet
