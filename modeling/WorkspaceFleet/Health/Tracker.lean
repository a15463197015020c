import WorkspaceFleet.Workspace

/-!
# WorkspaceFleet.Health.Tracker

How the outcomes of successive checks make up a status.

A server is unhealthy after a failed check, offline after a number of failed checks in a row, and
healthy after a successful one. A workspace becomes healthy with its first successful probe and stays
so until a number of probes in a row have failed.
-/

namespace WorkspaceFleet

inductive CheckResult where
  | healthy
  /-- It was answered in the negative. -/
  | unhealthy
  /-- It could not be carried out. -/
  | failed
  deriving DecidableEq, Repr

def CheckResult.isSuccess (r : CheckResult) : Bool := r == .healthy

/-- A state, and the states that checks lead to one after the other. -/
def statesFrom {σ : Type} (next : σ → CheckResult → σ) (s : σ) : List CheckResult → List σ
  | [] => [s]
  | r :: rest => s :: statesFrom next (next s r) rest

/-- One more failure; the count is a 32-bit word and stops at its largest value. -/
def countFailure (n : Nat) : Nat := min (n + 1) (word32 - 1)

structure ServerTracker where
  status : ServerStatus
  consecutiveFailures : Nat
  deriving DecidableEq, Repr

namespace ServerTracker

variable {κ : Type}

def ofServer (s : Server κ) : ServerTracker := ⟨s.status, s.consecutiveFailures⟩

/-- The state after one more check. A threshold of zero counts as one. -/
def record (t : ServerTracker) (threshold : Nat) (r : CheckResult) : ServerTracker :=
  if r.isSuccess then ⟨.healthy, 0⟩
  else
    let failures := countFailure t.consecutiveFailures
    ⟨if max threshold 1 ≤ failures then .offline else .unhealthy, failures⟩

end ServerTracker

structure ProbeTracker where
  healthy : Bool
  consecutiveFailures : Nat
  deriving DecidableEq, Repr

namespace ProbeTracker

variable {κ : Type}

def ofWorkspace (w : Workspace κ) : ProbeTracker := ⟨w.healthy, w.consecutiveProbeFailures⟩

/-- The state after one more probe. A threshold of zero counts as one. -/
def record (t : ProbeTracker) (threshold : Nat) (r : CheckResult) : ProbeTracker :=
  if r.isSuccess then ⟨true, 0⟩
  else
    let failures := countFailure t.consecutiveFailures
    ⟨if max threshold 1 ≤ failures then false else t.healthy, failures⟩

end ProbeTracker
end WorkspaceFleet
