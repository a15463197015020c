import WorkspaceFleet.Client.Config
import WorkspaceFleet.Health.Config
import WorkspaceFleet.Server.Encoding

/-!
# WorkspaceFleet.Config

The configuration of a fleet: where its state is kept, how it is watched and reached, and the servers that
it consists of.
-/

namespace WorkspaceFleet

structure FleetConfig (κ : Type) where
  dataDir : Option String
  monitor : MonitorConfig
  pool : ClientConfig
  servers : List (ServerConfig κ)

inductive FleetConfigError where
  | monitor (cause : MonitorConfigError)
  | zeroConcurrency
  | emptyServerId
  | duplicateServerId (serverId : String)
  | emptyHost (serverId : String)
  | noCapacity (serverId : String)
  deriving DecidableEq, Repr

def FleetConfigError.message : FleetConfigError → String
  | .monitor cause => "[monitor]: " ++ cause.message
  | .zeroConcurrency => "[pool]: max_concurrent_per_server must be at least 1"
  | .emptyServerId => "[[servers]]: server_id must not be empty"
  | .duplicateServerId id => "[[servers]]: duplicate server_id " ++ id
  | .emptyHost id => "server " ++ id ++ ": host must not be empty"
  | .noCapacity id => "server " ++ id ++ ": declared capacity must be greater than zero"

namespace FleetConfig

open Document

variable {κ : Type} [Quantity κ]

def default {κ : Type} : FleetConfig κ where
  dataDir := none
  monitor := .default
  pool := .default
  servers := []

/-- Refuses a server that cannot be used; `seen` are the ids of the servers before it. -/
def validateServer (seen : List String) (s : ServerConfig κ) : Except FleetConfigError Unit :=
  if s.serverId = "" then .error .emptyServerId
  else if s.serverId ∈ seen then .error (.duplicateServerId s.serverId)
  else if s.host = "" then .error (.emptyHost s.serverId)
  else if s.totalCpuCores ≤ Quantity.zero ∨ s.totalMemoryMb = 0 ∨ s.maxWorkspaces = 0 then
    .error (.noCapacity s.serverId)
  else .ok ()

def validateServers (seen : List String) : List (ServerConfig κ) → Except FleetConfigError Unit
  | [] => .ok ()
  | s :: rest => do
    validateServer seen s
    validateServers (s.serverId :: seen) rest

def validate (c : FleetConfig κ) : Except FleetConfigError Unit := do
  c.monitor.validate.mapError .monitor
  if c.pool.maxConcurrentPerServer = 0 then throw .zeroConcurrency
  validateServers [] c.servers

def fieldNames : List String := ["data_dir", "monitor", "pool", "servers"]

def encode (c : FleetConfig κ) : Document κ :=
  .record [("data_dir", option .text c.dataDir), ("monitor", c.monitor.encode),
    ("pool", c.pool.encode), ("servers", .list (c.servers.map ServerConfig.encode))]

def decodeField (c : FleetConfig κ) : String × Document κ → Decoded (FleetConfig κ)
  | ("data_dir", d) => do return { c with dataDir := ← d.asOption asText }
  | ("monitor", d) => do return { c with monitor := ← MonitorConfig.decode d }
  | ("pool", d) => do return { c with pool := ← ClientConfig.decode d }
  | ("servers", d) => do return { c with servers := ← d.asList ServerConfig.decode }
  | _ => .ok c

/-- Reads the written form, field by field in the order given; a missing field has its default. -/
def decode (d : Document κ) : Decoded (FleetConfig κ) := do
  (← d.asFields fieldNames).foldlM decodeField default

end FleetConfig
end WorkspaceFleet
