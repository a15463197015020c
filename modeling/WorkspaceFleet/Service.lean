import WorkspaceFleet.Client
import WorkspaceFleet.Document.Toml
import WorkspaceFleet.Health.Monitor
import WorkspaceFleet.Service.Disk
import WorkspaceFleet.Service.Error
import WorkspaceFleet.Service.Log

/-!
# WorkspaceFleet.Service

The service: how it starts over a configuration and what is persisted, what it reports, and its first round
of checks.

At the start every persisted server keeps what is recorded of it, servers that are only configured are
registered, and each registered server gets a client. `Service.startup` does that and stops at the first
failure; `Service.checkConfig` refuses the configurations at which a start over an empty store would fail.
-/

namespace WorkspaceFleet

/-- What the service works on: the disk, and the records that it has left so far. -/
structure Session where
  disk : Disk
  log : List LogRecord

/-- Work of the service. What it has done to the disk and recorded stays where it fails. -/
abbrev Work := ExceptT ServiceError (StateM Session)

namespace Work

def note (r : LogRecord) : Work Unit := modify (fun s => { s with log := s.log ++ [r] })

def disk : Work Disk := do return (← get).disk

def onDisk (f : Disk → Disk) : Work Unit := modify (fun s => { s with disk := f s.disk })

def check {α : Type} (r : Except ServiceError α) : Work α := ExceptT.mk (pure r)

def carryOut {α : Type} (w : Work α) (disk : Disk) : Except ServiceError α × Session :=
  w.run.run ⟨disk, []⟩

end Work

namespace FleetConfig

def parse (text : String) : Except ConfigTextError (FleetConfig Float) :=
  match (Toml.parse text).map decode with
  | some (.ok c) =>
    match c.validate with
    | .ok () => .ok c
    | .error e => .error (.refused e)
  | _ => .error .unreadable

def load (files : Files) (path : String) : Except ServiceError (FleetConfig Float) := do
  let text ← (files.readText path).mapError (.readingConfig path)
  (parse text).mapError (.parsingConfig path)

end FleetConfig

namespace Service

def storeName : String := "deskgrid.redb"

def defaultDataDir : String := "/var/lib/deskgrid"

def defaultConfig : String := "deskgrid.toml"

/-! ## Configuration -/

/-- Refuses a configuration of which a client cannot be made. The answer is the number of servers. -/
def checkConfig (files : Files) (path : String) : Except ServiceError Nat := do
  let config ← FleetConfig.load files path
  for s in config.servers do
    let _ ← (Client.connect files config.pool (.ofConfig s)).mapError (.server s.serverId)
  return config.servers.length

/-! ## The store -/

/-- Keeps what is to be persisted of a ledger. -/
def keepLedger (dataDir : String) (ledger : Ledger Float) : Work Unit :=
  match ledger.store with
  | some store => .onDisk (·.saveStore (joinPath dataDir storeName) store)
  | none => pure ()

def openLedger (dataDir : String) : Work (Ledger Float) := do
  let files ← .check (((← Work.disk).files.createDirectory dataDir).mapError
    (.creatingDirectory dataDir))
  .onDisk (fun d => { d with files })
  let path := joinPath dataDir storeName
  let store ← .check (((← Work.disk).openStore path).elim (.error (.openingStore path)) .ok)
  .note (.storeOpened (Text.quoted path))
  let ledger ← .check ((Ledger.ofStore store).mapError .registry)
  keepLedger dataDir ledger
  return ledger

def statusReport (ledger : Ledger Float) : Document Float :=
  .record [("servers", .list (ledger.registry.listServers.map (fun s => s.health.encode))),
    ("workspaces", .list (ledger.registry.listWorkspaces.map (fun w => w.health.encode)))]

def status (dataDir : String) : Work (Document Float) := do
  return statusReport (← openLedger dataDir)

/-! ## Start -/

/-- Whether the capacity that is configured differs from what is recorded. -/
def capacityDiffers (recorded : Server Float) (configured : ServerConfig Float) : Bool :=
  !Quantity.equal recorded.totalCpuCores configured.totalCpuCores ||
    recorded.totalMemoryMb != configured.totalMemoryMb ||
    recorded.maxWorkspaces != configured.maxWorkspaces

/-- Takes a configured server in, unless it is there already. -/
def takeIn (dataDir : String) (config : ClientConfig) (fleet : Fleet Float Client)
    (s : ServerConfig Float) : Work (Fleet Float Client) := do
  match fleet.registry.servers.get? s.serverId with
  | some recorded =>
    if capacityDiffers recorded s then .note (.capacityDiffers s.serverId)
    return fleet
  | none =>
    let files := (← Work.disk).files
    let (added, fleet) := Orchestrator.addServer (Client.connect files config) s fleet
    let _ ← .check (added.mapError .orchestrator)
    keepLedger dataDir fleet.ledger
    .note (.serverRegistered s.serverId s.host)
    return fleet

/-- Gives a registered server a client, unless it has one. -/
def attach (config : FleetConfig Float) (fleet : Fleet Float Client) (s : Server Float) :
    Work (Fleet Float Client) := do
  if fleet.pool.contains s.serverId then return fleet
  else
    if ¬config.servers.any (·.serverId == s.serverId) then
      .note (.serverNotConfigured s.serverId s.workspaceCount)
    let files := (← Work.disk).files
    let client ← .check ((Client.connect files config.pool s).mapError .backend)
    return { fleet with pool := fleet.pool.insert s.serverId client }

/-- Loads the servers that are configured or recorded. -/
def loadFleet (dataDir : String) (config : FleetConfig Float) (ledger : Ledger Float) :
    Work (Fleet Float Client) := do
  let fleet : Fleet Float Client := { ledger, pool := ∅, placer := .initial, events := [] }
  let fleet ← config.servers.foldlM (takeIn dataDir config.pool) fleet
  let fleet ← fleet.registry.listServers.foldlM (attach config) fleet
  .note (.fleetLoaded fleet.pool.size fleet.registry.listWorkspaces.length)
  return fleet

structure Running where
  dataDir : String
  config : FleetConfig Float
  fleet : Fleet Float Client

/-- Starts the service. A directory that is given comes before the configured one. -/
def startup (configPath : String) (dataDir : Option String) : Work Running := do
  .note (.starting configPath)
  let config ← .check (FleetConfig.load (← Work.disk).files configPath)
  let dataDir := (dataDir.or config.dataDir).getD defaultDataDir
  let ledger ← openLedger dataDir
  let fleet ← loadFleet dataDir config ledger
  return { dataDir, config, fleet }

/-! ## Rounds -/

/-- What a client brings back where no request brings a response. -/
def unreachable (fleet : Fleet Float Client) (id : String) (op : Operation Float) :
    Reply op.Answer :=
  match fleet.client id with
  | .error e => .failed e
  | .ok client =>
    match (client.perform (fun () q => (.error (client.sendFailure q), ())) op ()).1 with
    | .ok a => .answered a
    | .error e => .failed e

/-- The first round over servers and workspaces, begun at the same time. -/
def firstRounds (answer : Fleet Float Client → String → (op : Operation Float) → Reply op.Answer)
    (now : Nat) (config : MonitorConfig) (fleet : Fleet Float Client) : Fleet Float Client :=
  let serverChecks := Monitor.planServers config fleet
  let (skipped, workspaceChecks, fleet) := Monitor.planWorkspaces config now fleet
  let found {F : Type} (checks : List (String × Check Float F)) : List (String × F) :=
    checks.map (fun e => (e.1, e.2.run (answer fleet)))
  let servers := found serverChecks
  let workspaces := found workspaceChecks
  let (_, fleet) := Monitor.settleServers config now (serverChecks.map (·.1)) servers fleet
  (Monitor.settleWorkspaces config now skipped (workspaceChecks.map (·.1)) workspaces fleet).2

/-- Starts the service, lets the monitor go round once with daemons that nobody can reach, and ends it. -/
def runOnce (configPath : String) (dataDir : Option String) (now : Nat) : Work Unit := do
  let s ← startup configPath dataDir
  let fleet := firstRounds unreachable now s.config.monitor s.fleet
  keepLedger s.dataDir fleet.ledger
  .note .shutdownSignal
  .note (.stopped fleet.registry.pending.length fleet.registry.listWorkspaces.length)

end Service
end WorkspaceFleet
