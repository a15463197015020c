import WorkspaceFleet.Backend.Encoding

/-!
# WorkspaceFleet.Simulation.Daemon

Daemons that answer by a script: for every kind of request, and for single containers, a rule says how
long the answer takes and what it is.
-/

namespace WorkspaceFleet
namespace Simulation

open Document

/-- How a scripted daemon answers a request. -/
structure Rule where
  /-- The time until the answer, in milliseconds. -/
  delayMs : Nat
  /-- Whoever asked breaks down instead of getting an answer. -/
  crashes : Bool
  failure : Option String
  misconfiguration : Option String
  content : Option (Document Float)
  deriving Inhabited

def Rule.usual : Rule :=
  { delayMs := 0, crashes := false, failure := none, misconfiguration := none, content := none }

structure ScriptedDaemon where
  rules : List (String × Rule)
  created : Nat
  deriving Inhabited

def methodName : Operation Float → String
  | .create _ => "create"
  | .start _ => "start"
  | .stop _ => "stop"
  | .remove _ => "remove"
  | .exec _ _ => "exec"
  | .stats _ => "stats"
  | .info => "info"

/-- What a request is about: an image, a container or nothing. -/
def targetName : Operation Float → String
  | .create spec => spec.image
  | .start id => id
  | .stop id => id
  | .remove id => id
  | .exec id _ => id
  | .stats id => id
  | .info => ""

def operationDetail : Operation Float → Document Float
  | .create spec => spec.encode
  | .exec _ cmd => .list (cmd.map .text)
  | _ => .null

/-- A request as the record of a run keeps it. -/
structure CallRecord where
  method : String
  serverId : String
  target : String
  detail : Document Float

def CallRecord.ofOperation (serverId : String) (op : Operation Float) : CallRecord :=
  { method := methodName op, serverId, target := targetName op, detail := operationDetail op }

namespace ScriptedDaemon

def usual : ScriptedDaemon := ⟨[], 0⟩

/-- The rule for a request: the one for its kind and target, or for its kind, or for everything. -/
def rule (d : ScriptedDaemon) (op : Operation Float) : Rule :=
  let find (key : String) := d.rules.lookup key
  ((find (methodName op ++ ":" ++ targetName op)).or
    ((find (methodName op)).or (find "*"))).getD Rule.usual

def execContent (d : Document Float) : Decoded ExecResult := do
  let fs ← d.asFields ["exit_code", "output"]
  return {
    exitCode := ← fieldD fs "exit_code" (fun | .int n => .ok n | _ => .error .mismatch) 0
    output := ← fieldD fs "output" asText "" }

def statsContent (d : Document Float) : Decoded (ContainerStats Float) := do
  match d with
  | .text "missing" => return .missing
  | d =>
    let fs ← d.asFields ["running", "cpu_percent", "memory_usage_mb", "state"]
    return {
      running := ← fieldD fs "running" asBool true
      cpuPercent := ← fieldD fs "cpu_percent" asQuantity 12.5
      memoryUsageMb := ← fieldD fs "memory_usage_mb" (asNat word64) 700
      state := ← fieldD fs "state" asText "running" }

/-- The content of an answer, read from a rule's where it has one. -/
def content {α : Type} (rule : Rule) (read : Document Float → Decoded α) (usual : α) : α :=
  match rule.content with
  | none => usual
  | some d => (read d).toOption.getD usual

def succeed (d : ScriptedDaemon) (serverId : String) (rule : Rule) :
    (op : Operation Float) → op.Answer × ScriptedDaemon
  | .create _ =>
    let usual := serverId ++ "-ctr-" ++ Text.Decimal.text d.created
    (content rule asText usual, { d with created := d.created + 1 })
  | .start _ => ((), d)
  | .stop _ => ((), d)
  | .remove _ => ((), d)
  | .exec _ _ => (content rule execContent { exitCode := 0, output := "" }, d)
  | .stats _ => (content rule statsContent ⟨true, 12.5, 700, "running"⟩, d)
  | .info => (content rule DaemonInfo.decode ⟨0, 0, 0, 0, none⟩, d)

/-- The answer to a request by a rule, once its time has passed; none if whoever asked breaks down. -/
def answer (d : ScriptedDaemon) (serverId : String) (rule : Rule) (op : Operation Float) :
    Option (Except BackendError op.Answer) × ScriptedDaemon :=
  if rule.crashes then (none, d)
  else
    match rule.failure, rule.misconfiguration with
    | some cause, _ => (some (.error (.unavailable serverId cause)), d)
    | none, some cause => (some (.error (.configuration cause)), d)
    | none, none =>
      let (a, d) := d.succeed serverId rule op
      (some (.ok a), d)

end ScriptedDaemon
end Simulation
end WorkspaceFleet
