import WorkspaceFleet.Proofs.Load

/-!
# WorkspaceFleet.Proofs.Range

Values whose numbers fit the words they are kept in. The library counts in natural numbers; what
comes from outside fits its words, and the lemmas say that what is made of it does too as long as
no counter passes what its server declares.
-/

namespace WorkspaceFleet

/-- The number of ports. -/
def portLimit : Nat := 65536

variable {κ : Type}

structure DaemonObservation.InRange (o : DaemonObservation) : Prop where
  containers : o.containers < word32
  running : o.containersRunning < word32
  cpus : o.cpuCount < word32
  memory : o.memoryTotalMb < word64

structure Allocation.InRange (a : Allocation κ) : Prop where
  memory : a.memoryMb < word64
  disk : a.diskGb < word64

structure ServerConfig.InRange (c : ServerConfig κ) : Prop where
  port : c.port < portLimit
  memory : c.totalMemoryMb < word64
  disk : c.totalDiskGb < word64
  workspaces : c.maxWorkspaces < word32

structure ServerCheck.InRange (c : ServerCheck) : Prop where
  failures : c.consecutiveFailures < word32
  observed : ∀ o, c.observed = some o → o.InRange
  checkedAt : c.checkedAt < word64

structure Server.InRange (s : Server κ) : Prop where
  port : s.port < portLimit
  declared : ∀ q, s.declared q < q.limit
  used : ∀ q, s.used q < q.limit
  failures : s.consecutiveFailures < word32
  observed : ∀ o, s.observed = some o → o.InRange
  checkedAt : ∀ t, s.lastHealthCheckAt = some t → t < word64

structure Workspace.InRange (w : Workspace κ) : Prop where
  memory : w.memoryUsageMb < word64
  startedAt : w.startedAt < word64
  checkedAt : ∀ t, w.lastCheckAt = some t → t < word64
  allocation : w.allocation.InRange
  failures : w.consecutiveProbeFailures < word32

theorem Resource.limit_pos (q : Resource) : 0 < q.limit := by
  cases q <;> decide

namespace Server.InRange

variable {s : Server κ}

theorem ofConfig [Quantity κ] {c : ServerConfig κ} (h : c.InRange) :
    (Server.ofConfig c).InRange where
  port := h.port
  declared q := by
    cases q with
    | slots => exact h.workspaces
    | memory => exact h.memory
    | disk => exact h.disk
  used q := by
    rw [Server.used_ofConfig]
    exact q.limit_pos
  failures := by
    show 0 < word32
    decide
  observed o ho := by cases ho
  checkedAt t ht := by cases ht

theorem apply [Quantity κ] (h : s.InRange) {a : Allocation κ} (room : s.fits a = true)
    (bounded : ∀ q, s.used q ≤ s.declared q) : (s.apply a).InRange where
  port := h.port
  declared q := by
    rw [Server.declared_apply]
    exact h.declared q
  used q := Nat.lt_of_le_of_lt (Server.used_apply_le room (bounded q)) (h.declared q)
  failures := h.failures
  observed := h.observed
  checkedAt := h.checkedAt

theorem retract [Quantity κ] (h : s.InRange) (a : Allocation κ) : (s.retract a).InRange where
  port := h.port
  declared q := by
    rw [Server.declared_retract]
    exact h.declared q
  used q := by
    rw [Server.used_retract]
    exact Nat.lt_of_le_of_lt (Nat.sub_le _ _) (h.used q)
  failures := h.failures
  observed := h.observed
  checkedAt := h.checkedAt

theorem checked (h : s.InRange) {c : ServerCheck} (hc : c.InRange) :
    (Registry.checked s c).InRange where
  port := h.port
  declared q := by
    rw [Registry.declared_checked]
    exact h.declared q
  used q := by
    rw [Registry.used_checked]
    exact h.used q
  failures := hc.failures
  observed o ho := by
    simp only [Registry.checked] at ho
    split at ho
    · exact hc.observed o ho
    · exact h.observed o ho
  checkedAt t ht := by
    cases ht
    exact hc.checkedAt

theorem corrected (h : s.InRange) {u : Usage κ} (hu : ∀ q, u.total q < q.limit) :
    (Registry.corrected s u).InRange where
  port := h.port
  declared q := by
    rw [Registry.declared_corrected]
    exact h.declared q
  used q := by
    rw [Registry.used_corrected]
    exact hu q
  failures := h.failures
  observed := h.observed
  checkedAt := h.checkedAt

theorem reopened (h : s.InRange) : (Registry.reopened s).InRange where
  port := by
    unfold Registry.reopened
    split <;> exact h.port
  declared q := by
    rw [Registry.declared_reopened]
    exact h.declared q
  used q := by
    rw [Registry.used_reopened]
    exact h.used q
  failures := by
    unfold Registry.reopened
    split <;> exact h.failures
  observed := by
    unfold Registry.reopened
    split <;> exact h.observed
  checkedAt := by
    unfold Registry.reopened
    split <;> exact h.checkedAt

end Server.InRange

theorem Workspace.InRange.ofReservation [Quantity κ] {h : Reservation κ} (ha : h.allocation.InRange)
    (c : String) {at' : Nat} (ht : at' < word64) : (Workspace.ofReservation h c at').InRange where
  memory := by
    show 0 < word64
    decide
  startedAt := ht
  checkedAt t h := by cases h
  allocation := ha
  failures := by
    show 0 < word32
    decide

end WorkspaceFleet
