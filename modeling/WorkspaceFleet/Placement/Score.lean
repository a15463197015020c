import WorkspaceFleet.Workspace

/-!
# WorkspaceFleet.Placement.Score

How well a server suits an allocation: by the utilization it would have afterwards, which is the
larger of the used shares of its cores and of its memory.

Utilizations closer than the tolerance count as equal; then the number of workspaces decides, and
then the server's id.
-/

namespace WorkspaceFleet

/-- What is known of a server that has room for an allocation. -/
structure Score (κ : Type) where
  serverId : String
  /-- The larger of the two shares below. -/
  utilization : κ
  workspaceCount : Nat
  /-- The share of the cores used afterwards. -/
  cpu : κ
  /-- The share of the memory used afterwards. -/
  memory : κ

namespace Score

variable {κ : Type} [Quantity κ]

def ofServer? (s : Server κ) (a : Allocation κ) : Option (Score κ) :=
  if s.fits a then
    let projected := s.apply a
    let cpu := projected.cpuUtilization
    let memory := projected.memoryUtilization
    some {
      serverId := s.serverId
      utilization := Quantity.larger cpu memory
      workspaceCount := s.workspaceCount
      cpu, memory }
  else none

def compareUtilization (x y : κ) : Ordering :=
  if Quantity.magnitude (x - y) ≤ Quantity.tolerance then .eq else Quantity.rank x y

/-- The order of preference when load is spread: less used first, then fewer workspaces, then the
smaller id. -/
def spreadOrder (a b : Score κ) : Ordering :=
  (compareUtilization a.utilization b.utilization).then
    ((compare a.workspaceCount b.workspaceCount).then (compare a.serverId b.serverId))

/-- The order of preference when servers are filled up, which is the reverse of the other. -/
def bestFitOrder (a b : Score κ) : Ordering := spreadOrder b a

/-- The first of the entries that come before no other in a left-to-right comparison. -/
def first? (order : Score κ → Score κ → Ordering) : List (Score κ) → Option (Score κ)
  | [] => none
  | s :: rest => some (rest.foldl (fun best x => if order best x = .gt then x else best) s)

end Score
end WorkspaceFleet
