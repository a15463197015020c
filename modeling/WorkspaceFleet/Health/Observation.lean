import WorkspaceFleet.Backend
import WorkspaceFleet.Health.Config
import WorkspaceFleet.Health.Tracker
import WorkspaceFleet.Text.Blank

/-!
# WorkspaceFleet.Health.Observation

The checks by which the monitor looks at a server or a workspace, as programs that put questions to
daemons and draw a conclusion from the answers.

Every question has a limit in time. What could not be found out is a conclusion too: `ServerFinding`
and `Observation` have a case for it, and a workspace counts as gone only where its daemon said that it
does not run.
-/

namespace WorkspaceFleet

inductive Reply (α : Type) where
  | answered (answer : α)
  | failed (cause : BackendError)
  /-- The limit passed first. -/
  | timedOut

/-- A program that puts questions to daemons and concludes `F`. -/
inductive Check (κ F : Type) where
  | conclude (finding : F)
  | ask (serverId : String) (op : Operation κ) (limit : Duration)
      (next : Reply op.Answer → Check κ F)

/-- What a check of a server found: what its daemon said of itself, or why it said nothing. -/
abbrev ServerFinding := Except String DaemonObservation

inductive Observation (κ : Type) where
  /-- Its container does not run. -/
  | gone (state : String)
  | running (stats : ContainerStats κ) (probe : CheckResult) (error : Option String)
  | unreachable (cause : String)

/-- Carries out a check with answers that come at once. -/
def Check.run {κ F : Type} (answer : String → (op : Operation κ) → Reply op.Answer) : Check κ F → F
  | .conclude f => f
  | .ask id op _ next => run answer (next (answer id op))

def unfinishedText : String := "check did not finish before the tick deadline"

variable {κ : Type}

def Check.server (c : MonitorConfig) (id : String) : Check κ ServerFinding :=
  .ask id .info c.callTimeout fun
    | .answered (info : DaemonInfo) => .conclude (.ok info.observation)
    | .failed e => .conclude (.error e.message)
    | .timedOut =>
      .conclude (.error ("daemon info timed out after " ++ c.callTimeout.debugText))

/-- What is concluded from the probe of a running workspace. -/
def Observation.ofProbe (c : MonitorConfig) (stats : ContainerStats κ) :
    Reply ExecResult → Observation κ
  | .answered r =>
    if r.success then .running stats .healthy none
    else
      .running stats .unhealthy
        (some ("probe exited with " ++ toString r.exitCode ++ ": " ++ Text.trim r.output))
  | .failed e => .running stats .failed (some e.message)
  | .timedOut => .running stats .failed (some ("probe timed out after " ++ c.callTimeout.debugText))

def Check.workspace (c : MonitorConfig) (serverId containerId : String) :
    Check κ (Observation κ) :=
  .ask serverId (.stats containerId) c.callTimeout fun
    | .failed e => .conclude (.unreachable e.message)
    | .timedOut => .conclude (.unreachable ("stats timed out after " ++ c.callTimeout.debugText))
    | .answered (stats : ContainerStats κ) =>
      if ¬stats.running then .conclude (.gone stats.state)
      else if c.probeCommand.isEmpty then .conclude (.running stats .healthy none)
      else
        .ask serverId (.exec containerId c.probeCommand) c.callTimeout fun
          | (reply : Reply ExecResult) => .conclude (.ofProbe c stats reply)

end WorkspaceFleet
