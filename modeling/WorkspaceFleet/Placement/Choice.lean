import WorkspaceFleet.Placement.Score
import WorkspaceFleet.Placement.Strategy
import WorkspaceFleet.Registry.Error
import WorkspaceFleet.Workspace.Encoding

/-!
# WorkspaceFleet.Placement.Choice

The choice of a server for a request.

Servers pass four filters: healthy, the target if one is named, the required labels, room for the
allocation. The strategy chooses among those that remain. `choose` depends on nothing else, so the
same servers, request, strategy and cursor always give the same answer.
-/

namespace WorkspaceFleet

inductive PlacementError where
  | noHealthyServers
  /-- The named server is not there or not healthy. -/
  | affinityServerUnavailable (serverId : String)
  /-- The strategy wants a target and the request names none. -/
  | missingAffinityTarget
  /-- Of the healthy servers `labelMatched` have the target and the labels, and none of those has room. -/
  | insufficientCapacity (healthy labelMatched : Nat)
  | registry (cause : RegistryError)
  deriving DecidableEq, Repr

namespace PlacementError

def message : PlacementError → String
  | .noHealthyServers => "no healthy servers available"
  | .affinityServerUnavailable id => "affinity server " ++ id ++ " is unavailable"
  | .missingAffinityTarget => "affinity strategy requires an affinity server id"
  | .insufficientCapacity healthy labelMatched =>
    "insufficient capacity: " ++ Text.Decimal.text healthy ++ " healthy server(s), " ++
      Text.Decimal.text labelMatched ++ " matching labels, none with room"
  | .registry cause => cause.message

/-- The failure of the store behind the error, if there is one. -/
def source? : PlacementError → Option StoreError
  | .registry cause => cause.source?
  | _ => none

def isCapacity : PlacementError → Bool
  | .insufficientCapacity _ _ => true
  | .registry (.capacityExhausted _) => true
  | _ => false

end PlacementError

structure Placement (κ : Type) where
  serverId : String
  strategy : Strategy
  requirements : Requirements κ

namespace Placement

variable {κ : Type} [Quantity κ]

def encode (p : Placement κ) : Document κ :=
  .record [("server_id", .text p.serverId), ("strategy", p.strategy.encode),
    ("requirements", p.requirements.encode)]

/-- The healthy servers that the target, if any, leaves. -/
def pinned (affinity : Option String) (healthy : List (Server κ)) : List (Server κ) :=
  match affinity with
  | some target => healthy.filter (fun s => s.serverId == target)
  | none => healthy

/-- Chooses among the scores of the servers that have room. -/
def pick? (strategy : Strategy) (cursor : Nat) (scores : List (Score κ)) : Option (Score κ) :=
  match strategy with
  | .spread => Score.first? Score.spreadOrder scores
  | .bestFit => Score.first? Score.bestFitOrder scores
  | .roundRobin =>
    let ordered := scores.mergeSort (fun a b => decide (a.serverId ≤ b.serverId))
    ordered[cursor % ordered.length]?
  | .affinity => scores.head?

/-- Chooses a server for a request. Only `roundRobin` reads the cursor. -/
def choose (req : Requirements κ) (strategy : Strategy) (servers : List (Server κ))
    (cursor : Nat) : Except PlacementError (Placement κ) :=
  let healthy := servers.filter Server.isHealthy
  if healthy.isEmpty then .error .noHealthyServers
  else
    let reachable := pinned req.affinity healthy
    match req.affinity, reachable.isEmpty, strategy with
    | some target, true, _ => .error (.affinityServerUnavailable target)
    | none, _, .affinity => .error .missingAffinityTarget
    | _, _, _ =>
      let labelled := reachable.filter (fun s => s.labels.satisfy req.requiredLabels)
      match pick? strategy cursor (labelled.filterMap (Score.ofServer? · req.allocation)) with
      | some score => .ok { serverId := score.serverId, strategy, requirements := req }
      | none => .error (.insufficientCapacity healthy.length labelled.length)

end Placement
end WorkspaceFleet
