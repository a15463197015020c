import WorkspaceFleet.Fleet
import WorkspaceFleet.Health.Observation

/-!
# WorkspaceFleet.Health.Monitor

A round of the monitor: what it checks, and what it makes of the findings.

A round first plans its checks, then runs them side by side, and settles the findings in the order of
their keys once all are in or its time is up; a check that did not finish counts as a failure. The order
in which findings arrive therefore makes no difference. The time is up `tickTimeout` after the beginning
of the round, which must be an instant that the clock can show: it counts seconds in a signed 64-bit
word. The store takes every write of a round.
-/

namespace WorkspaceFleet

structure ServerSummary where
  checked : Nat
  healthy : Nat
  failed : Nat
  transitions : Nat
  deriving DecidableEq, Repr

def ServerSummary.encode {κ : Type} (s : ServerSummary) : Document κ :=
  .record [("checked", .nat s.checked), ("healthy", .nat s.healthy), ("failed", .nat s.failed),
    ("transitions", .nat s.transitions)]

structure WorkspaceSummary where
  checked : Nat
  removed : Nat
  /-- Not looked at, as the server is offline or not registered. -/
  skipped : Nat
  unhealthy : Nat
  corrections : Nat
  deriving DecidableEq, Repr

def WorkspaceSummary.encode {κ : Type} (s : WorkspaceSummary) : Document κ :=
  .record [("checked", .nat s.checked), ("removed", .nat s.removed), ("skipped", .nat s.skipped),
    ("unhealthy", .nat s.unhealthy), ("corrections", .nat s.corrections)]

namespace Monitor

variable {κ χ : Type} [Quantity κ]

def arrived? {F : Type} (findings : List (String × F)) (key : String) : Option F :=
  findings.reverse.lookup key

/-! ## Servers -/

def planServers (c : MonitorConfig) (f : Fleet κ χ) : List (String × Check κ ServerFinding) :=
  f.registry.serverIds.map (fun id => (id, .server c id))

def serverCheck (c : MonitorConfig) (now : Nat) (s : Server κ) (finding : ServerFinding) :
    ServerCheck :=
  let result := match finding with
    | .ok _ => .healthy
    | .error _ => .failed
  let t := (ServerTracker.ofServer s).record c.offlineThreshold result
  { status := t.status
    consecutiveFailures := t.consecutiveFailures
    lastError := match finding with
      | .ok _ => none
      | .error e => some e
    observed := finding.toOption
    checkedAt := now }

/-- Records a finding. The answer tells whether the server's status changed. -/
def applyServer (c : MonitorConfig) (now : Nat) (f : Fleet κ χ) (id : String)
    (finding : ServerFinding) : Bool × Fleet κ χ :=
  match f.registry.servers.get? id with
  | none => (false, f)
  | some s =>
    let check := serverCheck c now s finding
    match f.perform (·.recordServerCheck id check) with
    | (.error _, f) => (false, f)
    | (.ok previous, f) =>
      if previous = check.status then (false, f)
      else (true, f.emit (.serverStatusChanged id previous check.status check.lastError))

def settleServer (c : MonitorConfig) (now : Nat) (findings : List (String × ServerFinding))
    (acc : ServerSummary × Fleet κ χ) (id : String) : ServerSummary × Fleet κ χ :=
  let finding := (arrived? findings id).getD (.error unfinishedText)
  let (changed, f) := applyServer c now acc.2 id finding
  let s := acc.1
  ({ checked := s.checked + 1
     healthy := s.healthy + (if finding.isOk then 1 else 0)
     failed := s.failed + (if finding.isOk then 0 else 1)
     transitions := s.transitions + (if changed then 1 else 0) }, f)

/-- Ends a round over the servers: records a finding for every planned check. -/
def settleServers (c : MonitorConfig) (now : Nat) (planned : List String)
    (findings : List (String × ServerFinding)) (f : Fleet κ χ) : ServerSummary × Fleet κ χ :=
  planned.foldl (settleServer c now findings) (⟨0, 0, 0, 0⟩, f)

/-! ## Workspaces -/

/-- A workspace whose server cannot be asked: not healthy, and nothing else changes. -/
def unreached (now : Nat) (reason : String) (w : Workspace κ) : Workspace κ :=
  { w with healthy := false, lastError := some reason, lastCheckAt := some now }

def probed (c : MonitorConfig) (now : Nat) (result : CheckResult) (error : Option String)
    (stats : Option (ContainerStats κ)) (w : Workspace κ) : Workspace κ :=
  let t := (ProbeTracker.ofWorkspace w).record c.unresponsiveThreshold result
  let w := { w with
    healthy := t.healthy
    consecutiveProbeFailures := t.consecutiveFailures
    lastCheckAt := some now
    lastError := error }
  match stats with
  | some s => { w with running := true, cpuPercent := s.cpuPercent, memoryUsageMb := s.memoryUsageMb }
  | none => w

/-- Changes a record, and tells if that changed its health. The answer is its health afterwards; a record
that is gone counts as healthy. -/
def updateHealth (f : Fleet κ χ) (id : String) (change : Workspace κ → Workspace κ) :
    Bool × Fleet κ χ :=
  let before := (f.registry.workspaces.get? id).map (·.healthy)
  match f.perform (·.updateWorkspace id change) with
  | (.ok (some w), f) =>
    if some w.healthy = before then (w.healthy, f)
    else (w.healthy, f.emit (.workspaceHealthChanged id w.serverId w.healthy w.lastError))
  | (_, f) => (true, f)

/-- Removes a workspace whose container is gone. The answer tells whether this call removed it. -/
def removeGone (f : Fleet κ χ) (id state : String) : Bool × Fleet κ χ :=
  match f.perform (·.removeWorkspace id) with
  | (.ok (some w), f) => (true, f.emit (.workspaceGone id w.serverId state))
  | (_, f) => (false, f)

/-- Why the server of a workspace is not asked, given the statuses of the servers. -/
def skipReason? (servers : Table (Server κ)) (w : Workspace κ) : Option String :=
  match servers.get? w.serverId with
  | none => some "server not registered"
  | some s => if s.status = .offline then some "server offline" else none

/-- Begins a round over the workspaces: those whose server is not asked are marked at once, and the
others get a check. The number is that of the marked ones. -/
def planWorkspaces (c : MonitorConfig) (now : Nat) (f : Fleet κ χ) :
    Nat × List (String × Check κ (Observation κ)) × Fleet κ χ :=
  let servers := f.registry.servers
  f.registry.listWorkspaces.foldl (fun (skipped, checks, f) w =>
    match skipReason? servers w with
    | some reason =>
      (skipped + 1, checks, (updateHealth f w.containerId (unreached now reason)).2)
    | none => (skipped, checks ++ [(w.containerId, .workspace c w.serverId w.containerId)], f))
    (0, [], f)

def settleWorkspace (c : MonitorConfig) (now : Nat) (findings : List (String × Observation κ))
    (acc : WorkspaceSummary × Fleet κ χ) (id : String) : WorkspaceSummary × Fleet κ χ :=
  let s := { acc.1 with checked := acc.1.checked + 1 }
  match (arrived? findings id).getD (.unreachable unfinishedText) with
  | .gone state =>
    let (removed, f) := removeGone acc.2 id state
    ({ s with removed := s.removed + (if removed then 1 else 0) }, f)
  | .running stats result error =>
    let (healthy, f) := updateHealth acc.2 id (probed c now result error (some stats))
    ({ s with unhealthy := s.unhealthy + (if healthy then 0 else 1) }, f)
  | .unreachable cause =>
    let (healthy, f) := updateHealth acc.2 id (probed c now .failed (some cause) none)
    ({ s with unhealthy := s.unhealthy + (if healthy then 0 else 1) }, f)

def reconcile (f : Fleet κ χ) : Nat × Fleet κ χ :=
  match f.perform (·.reconcile) with
  | (.ok corrections, f) =>
    (corrections.length, corrections.foldl (fun f c =>
      f.emit (.usageCorrected c.serverId c.previousWorkspaceCount c.correctedWorkspaceCount)) f)
  | (.error _, f) => (0, f)

/-- Ends a round over the workspaces: records a finding for every planned check, and reconciles the
counters. -/
def settleWorkspaces (c : MonitorConfig) (now skipped : Nat) (planned : List String)
    (findings : List (String × Observation κ)) (f : Fleet κ χ) : WorkspaceSummary × Fleet κ χ :=
  let keys := (planned.mergeSort (fun a b => decide (a ≤ b))).eraseDups
  let (s, f) := keys.foldl (settleWorkspace c now findings) (⟨0, 0, skipped, 0, 0⟩, f)
  let (corrections, f) := reconcile f
  ({ s with corrections }, f)

end Monitor
end WorkspaceFleet
