import WorkspaceFleet.Config
import WorkspaceFleet.Files
import WorkspaceFleet.Orchestrator

/-!
# WorkspaceFleet.Service.Error

Why the service could not do what it was told, and how it says so.
-/

namespace WorkspaceFleet

inductive ConfigTextError where
  /-- It is not TOML, or not of the right shape. -/
  | unreadable
  | refused (cause : FleetConfigError)
  deriving DecidableEq, Repr

inductive ServiceError where
  | readingConfig (path : String) (cause : FileError)
  | parsingConfig (path : String) (cause : ConfigTextError)
  | creatingDirectory (path : String) (cause : FileError)
  /-- What stands under the path is no store. -/
  | openingStore (path : String)
  | server (serverId : String) (cause : BackendError)
  | registry (cause : RegistryError)
  | backend (cause : BackendError)
  | orchestrator (cause : OrchestratorError)
  deriving DecidableEq, Repr

namespace ServiceError

/-- The first line of the message. -/
def headline : ServiceError → String
  | .readingConfig path _ => "reading " ++ path
  | .parsingConfig path _ => "parsing " ++ path
  | .creatingDirectory path _ => "creating data directory " ++ path
  | .openingStore path => "opening state store " ++ path
  | .server id _ => "server " ++ id
  | .registry e => e.message
  | .backend e => e.message
  | .orchestrator e => e.message

inductive Cause where
  | none
  | text (s : String)
  /-- It describes at length what was found. -/
  | details

/-- The failure of the store that is behind an error, if there is one. -/
def Cause.ofStore (source : Option StoreError) : Cause := source.elim .none (fun e => .text e.message)

def cause : ServiceError → Cause
  | .readingConfig _ e => .text e.message
  | .parsingConfig _ .unreadable => .details
  | .parsingConfig _ (.refused e) => .text e.message
  | .creatingDirectory _ e => .text e.message
  | .openingStore _ => .details
  | .server _ e => .text e.message
  | .registry e => .ofStore e.source?
  | .backend _ => .none
  | .orchestrator e => .ofStore e.source?

/-- The lines of the message; details are left out. -/
def lines (e : ServiceError) : List String :=
  ("Error: " ++ e.headline) ::
    match e.cause with
    | .text s => ["", "Caused by:", "    " ++ s]
    | .none => []
    | .details => []

end ServiceError
end WorkspaceFleet
