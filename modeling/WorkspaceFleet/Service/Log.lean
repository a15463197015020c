import WorkspaceFleet.Document

/-!
# WorkspaceFleet.Service.Log

The records by which the service tells what it does.
-/

namespace WorkspaceFleet

inductive LogLevel where
  | info
  | warn
  deriving DecidableEq, Repr

def LogLevel.word : LogLevel → String
  | .info => "INFO"
  | .warn => "WARN"

/-- A record: a message, and fields that say more. -/
structure LogRecord where
  level : LogLevel
  message : String
  fields : List (String × Document Float)

namespace LogRecord

def encode (r : LogRecord) : Document Float :=
  .record (("message", .text r.message) :: r.fields)

def starting (config : String) : LogRecord :=
  ⟨.info, "deskgrid daemon starting", [("config", .text config)]⟩

/-- The store is open; its path is given in quotes. -/
def storeOpened (quotedPath : String) : LogRecord :=
  ⟨.info, "state store opened", [("path", .text quotedPath)]⟩

def serverRegistered (serverId host : String) : LogRecord :=
  ⟨.info, "server registered", [("server_id", .text serverId), ("host", .text host)]⟩

/-- A server was taken in earlier, with other capacity than is configured now. -/
def capacityDiffers (serverId : String) : LogRecord :=
  ⟨.warn, "configured capacity differs from persisted record; keeping persisted",
    [("server_id", .text serverId)]⟩

/-- A server that was taken in earlier is not configured any more. -/
def serverNotConfigured (serverId : String) (workspaces : Nat) : LogRecord :=
  ⟨.warn, "persisted server missing from configuration",
    [("server_id", .text serverId), ("workspaces", .nat workspaces)]⟩

def fleetLoaded (servers workspaces : Nat) : LogRecord :=
  ⟨.info, "fleet loaded", [("servers", .nat servers), ("workspaces", .nat workspaces)]⟩

def shutdownSignal : LogRecord := ⟨.info, "shutdown signal received", []⟩

def stopped (pending workspaces : Nat) : LogRecord :=
  ⟨.info, "deskgrid daemon stopped", [("pending", .nat pending), ("workspaces", .nat workspaces)]⟩

end LogRecord
end WorkspaceFleet
