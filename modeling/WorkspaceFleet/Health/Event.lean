import WorkspaceFleet.Server.Encoding

/-!
# WorkspaceFleet.Health.Event

What the monitor tells those who listen: every change it makes to the fleet.
-/

namespace WorkspaceFleet

inductive HealthEvent where
  | serverStatusChanged (serverId : String) (previous current : ServerStatus)
      (lastError : Option String)
  /-- A container no longer runs, and its record was removed. -/
  | workspaceGone (containerId serverId state : String)
  | workspaceHealthChanged (containerId serverId : String) (healthy : Bool)
      (lastError : Option String)
  | usageCorrected (serverId : String) (previousWorkspaceCount correctedWorkspaceCount : Nat)
  deriving DecidableEq, Repr

/-- How many events wait for a listener; of more, the oldest are lost. -/
def HealthEvent.capacity : Nat := 256

def HealthEvent.encode {κ : Type} : HealthEvent → Document κ
  | .serverStatusChanged id previous current lastError =>
    .record [("event", .text "server_status_changed"), ("server_id", .text id),
      ("previous", previous.encode), ("current", current.encode),
      ("last_error", .option .text lastError)]
  | .workspaceGone container id state =>
    .record [("event", .text "workspace_gone"), ("container_id", .text container),
      ("server_id", .text id), ("state", .text state)]
  | .workspaceHealthChanged container id healthy lastError =>
    .record [("event", .text "workspace_health_changed"), ("container_id", .text container),
      ("server_id", .text id), ("healthy", .bool healthy), ("last_error", .option .text lastError)]
  | .usageCorrected id previous corrected =>
    .record [("event", .text "usage_corrected"), ("server_id", .text id),
      ("previous_workspace_count", .nat previous), ("corrected_workspace_count", .nat corrected)]

end WorkspaceFleet
