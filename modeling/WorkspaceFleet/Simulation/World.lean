import WorkspaceFleet.Health.Monitor
import WorkspaceFleet.Orchestrator
import WorkspaceFleet.Simulation.Daemon

/-!
# WorkspaceFleet.Simulation.World

A fleet with scripted daemons under a virtual clock.

The clock stands still while anything can run. Checks of a round and the monitor's loops are tasks; a
task that can go on waits in a queue for its turn. The checks of all rounds share a number of permits,
which are handed out in the order of asking.
-/

namespace WorkspaceFleet
namespace Simulation

inductive RoundKind where
  | servers
  | workspaces
  deriving DecidableEq, Repr

inductive Finding where
  | server (finding : ServerFinding)
  | workspace (observation : Observation Float)

inductive RoundSummary where
  | servers (summary : ServerSummary)
  | workspaces (summary : WorkspaceSummary)

/-- A request on its way. -/
structure PendingCall where
  serverId : String
  rule : Rule
  readyAt : Nat

inductive CheckState where
  | queued (check : Check Float Finding)
  | admitted (check : Check Float Finding)
  /-- It waits for an answer, until `limitAt`. -/
  | asking (op : Operation Float) (call : PendingCall) (limitAt : Nat)
      (next : Reply op.Answer → Check Float Finding)

def CheckState.hasPermit : CheckState → Bool
  | .queued _ => false
  | _ => true

/-- The times at which a loop's rounds begin. -/
structure Ticker where
  next : Nat
  period : Nat

/-- The ticker after a round began. A round that begins late moves the ones after it. -/
def Ticker.fire (t : Ticker) (now : Nat) : Ticker :=
  { t with next := if t.next + 5 < now then now + t.period else t.next + t.period }

/-- What runs by itself. -/
inductive Task where
  | check (round : Nat) (key : String) (state : CheckState)
  /-- A loop of rounds, between rounds or within one; it heeds the signal of its group. -/
  | loop (kind : RoundKind) (group : Nat) (ticker : Option Ticker) (round : Option Nat)

inductive Signal where
  | run
  | stop
  /-- Nobody is left who could tell it anything. -/
  | abandoned
  deriving DecidableEq, Repr

structure Round where
  kind : RoundKind
  planned : List String
  /-- The workspaces marked without a check. -/
  skipped : Nat
  deadline : Nat
  findings : List (String × Finding)
  outstanding : List Nat
  /-- The loop that waits for the round. -/
  owner : Option Nat

structure World where
  /-- Milliseconds since the beginning. -/
  now : Nat
  /-- What the clock on the wall shows, in seconds. -/
  wallClock : Nat
  fleet : Fleet Float Unit
  daemons : Table ScriptedDaemon
  monitor : MonitorConfig
  /-- A placer beside the fleet's own. -/
  spare : Placer
  holds : List (Reservation Float)
  /-- The holds under guard; none where the guard was used up. -/
  guards : List (Option (Reservation Float))
  calls : List CallRecord
  permits : Nat
  /-- The checks that wait for a permit, first come first. -/
  permitQueue : List Nat
  /-- What runs by itself, in the order in which each began to wait for its time. -/
  tasks : List (Nat × Task)
  rounds : List (Nat × Round)
  signals : List (Nat × Signal)
  /-- The tasks that can go on, in the order of their turns. -/
  ready : List Nat
  /-- The next number for a task, a round or a group of loops. -/
  fresh : Nat

namespace World

def put {α : Type} (l : List (Nat × α)) (k : Nat) (v : α) : List (Nat × α) :=
  if l.any (·.1 == k) then l.map (fun e => if e.1 == k then (k, v) else e) else l ++ [(k, v)]

def drop {α : Type} (l : List (Nat × α)) (k : Nat) : List (Nat × α) := l.filter (·.1 != k)

/-- Lets a task wait for its time, behind those that wait already. -/
def await (w : World) (id : Nat) (t : Task) : World :=
  { w with tasks := drop w.tasks id ++ [(id, t)] }

def wake (w : World) (id : Nat) : World :=
  if w.ready.contains id then w else { w with ready := w.ready ++ [id] }

def addTask (w : World) (t : Task) : Nat × World :=
  (w.fresh, { w with
    tasks := w.tasks ++ [(w.fresh, t)], ready := w.ready ++ [w.fresh], fresh := w.fresh + 1 })

/-! ## Requests -/

/-- Makes a request, which fails at once where there is no client. -/
def beginCall (w : World) (serverId : String) (op : Operation Float) :
    Except BackendError PendingCall × World :=
  match w.fleet.client serverId with
  | .error e => (.error e, w)
  | .ok () =>
    let rule := ((w.daemons.get? serverId).getD .usual).rule op
    (.ok { serverId, rule, readyAt := w.now + rule.delayMs },
      { w with calls := w.calls ++ [CallRecord.ofOperation serverId op] })

def endCall (w : World) (call : PendingCall) (op : Operation Float) :
    Option (Except BackendError op.Answer) × World :=
  let daemon := (w.daemons.get? call.serverId).getD .usual
  let (answer, daemon) := daemon.answer call.serverId call.rule op
  (answer, { w with daemons := w.daemons.insert call.serverId daemon })

/-! ## Permits -/

/-- Gives a permit back: to the check that waits longest, if one does. -/
def releasePermit (w : World) : World :=
  match w.permitQueue with
  | [] => { w with permits := w.permits + 1 }
  | id :: rest =>
    let w := { w with permitQueue := rest }
    match w.tasks.lookup id with
    | some (.check round key (.queued c)) =>
      { w with tasks := put w.tasks id (.check round key (.admitted c)) }.wake id
    | _ => { w with permits := w.permits + 1 }

/-- Removes a check that goes no further, with what it holds. -/
def removeCheck (w : World) (id : Nat) : World :=
  match w.tasks.lookup id with
  | some (.check _ _ state) =>
    let w := { w with
      tasks := drop w.tasks id
      permitQueue := w.permitQueue.filter (· != id)
      ready := w.ready.filter (· != id) }
    if state.hasPermit then w.releasePermit else w
  | _ => w

/-! ## Rounds -/

def mapCheck {F G : Type} (g : F → G) : Check Float F → Check Float G
  | .conclude f => .conclude (g f)
  | .ask id op limit next => .ask id op limit (fun r => mapCheck g (next r))

/-- What a round has to check, with the number of the workspaces marked without a check. -/
def planRound (w : World) :
    RoundKind → Nat × List (String × Check Float Finding) × Fleet Float Unit
  | .servers =>
    let checks := Monitor.planServers w.monitor w.fleet
    (0, checks.map (fun (key, c) => (key, mapCheck .server c)), w.fleet)
  | .workspaces =>
    let (skipped, checks, fleet) := Monitor.planWorkspaces w.monitor w.wallClock w.fleet
    (skipped, checks.map (fun (key, c) => (key, mapCheck .workspace c)), fleet)

def startChecks (w : World) (round : Nat) :
    List (String × Check Float Finding) → List Nat × World
  | [] => ([], w)
  | (key, c) :: rest =>
    let (task, w) := w.addTask (.check round key (.queued c))
    let (tasks, w) := startChecks w round rest
    (task :: tasks, w)

def beginRound (w : World) (kind : RoundKind) (owner : Option Nat) : Nat × World :=
  let (skipped, checks, fleet) := w.planRound kind
  let id := w.fresh
  let (outstanding, w) := { w with fleet, fresh := id + 1 }.startChecks id checks
  let round : Round :=
    { kind, planned := checks.map (·.1), skipped, outstanding, owner
      deadline := w.now + w.monitor.tickTimeout.millis
      findings := [] }
  (id, { w with rounds := put w.rounds id round })

def roundOver (w : World) (id : Nat) : Bool :=
  match w.rounds.lookup id with
  | some r => r.outstanding.isEmpty || decide (r.deadline ≤ w.now)
  | none => true

/-- Ends a round: checks still under way are cut off, and the findings settled. -/
def endRound (w : World) (id : Nat) : Option RoundSummary × World :=
  match w.rounds.lookup id with
  | none => (none, w)
  | some r =>
    let w := r.outstanding.foldl removeCheck { w with rounds := drop w.rounds id }
    match r.kind with
    | .servers =>
      let findings := r.findings.filterMap (fun
        | (k, .server f) => some (k, f)
        | _ => none)
      let (s, fleet) := Monitor.settleServers w.monitor w.wallClock r.planned findings w.fleet
      (some (.servers s), { w with fleet })
    | .workspaces =>
      let findings := r.findings.filterMap (fun
        | (k, .workspace o) => some (k, o)
        | _ => none)
      let (s, fleet) :=
        Monitor.settleWorkspaces w.monitor w.wallClock r.skipped r.planned findings w.fleet
      (some (.workspaces s), { w with fleet })

def endCheck (w : World) (id round : Nat) (key : String) (finding : Option Finding) : World :=
  let w := w.removeCheck id
  match w.rounds.lookup round with
  | none => w
  | some r =>
    let r := { r with
      outstanding := r.outstanding.filter (· != id)
      findings := r.findings ++ (finding.map (fun f => (key, f))).toList }
    let w := { w with rounds := put w.rounds round r }
    match r.owner with
    | some task => w.wake task
    | none => w

end World
end Simulation
end WorkspaceFleet
