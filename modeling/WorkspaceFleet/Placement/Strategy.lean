import WorkspaceFleet.Document

/-!
# WorkspaceFleet.Placement.Strategy

The rules by which one of several suitable servers is chosen, and their names.
-/

namespace WorkspaceFleet

/-- A rule for choosing among the servers that suit a request. -/
inductive Strategy where
  /-- The one least used afterwards. -/
  | spread
  /-- The one most used afterwards. -/
  | bestFit
  /-- Each in its turn. -/
  | roundRobin
  /-- The one that the request names. -/
  | affinity
  deriving DecidableEq, Repr, Inhabited

namespace Strategy

def name : Strategy → String
  | .spread => "spread"
  | .bestFit => "best_fit"
  | .roundRobin => "round_robin"
  | .affinity => "affinity"

/-- A text with capital ASCII letters made small and hyphens made underscores. -/
def fold (s : String) : String :=
  String.ofList (s.toList.map (fun c => if c == '-' then '_' else c.toLower))

/-- Reads a name as people write it, in any case, with hyphens or underscores or without. What it does
not know it gives back folded. -/
def parse (s : String) : Except String Strategy :=
  match fold s with
  | "spread" => .ok .spread
  | "best_fit" | "bestfit" => .ok .bestFit
  | "round_robin" | "roundrobin" => .ok .roundRobin
  | "affinity" => .ok .affinity
  | other => .error other

def unknownMessage (other : String) : String :=
  "unknown placement strategy " ++ Text.quoted other ++
    " (expected spread, best_fit, round_robin or affinity)"

def encode {κ : Type} (s : Strategy) : Document κ := .text s.name

def decode {κ : Type} (d : Document κ) : Decoded Strategy :=
  d.asWord ([spread, bestFit, roundRobin, affinity].map (fun s => (s.name, s)))

end Strategy
end WorkspaceFleet
