import Mathlib.Algebra.BigOperators.Group.List.Basic
import Mathlib.Algebra.GroupWithZero.Nat
import WorkspaceFleet.Proofs.Table
import WorkspaceFleet.Registry

/-!
# WorkspaceFleet.Proofs.Load

What is counted on a server, and what its workspaces and holds amount to.

Three resources are counted in whole units: workspaces, memory and disk space. `Server.used` is
the counter of one, `Server.declared` its limit, and `Registry.loadOn` the sum over the records
and the pending holds that name a server. The lemmas say how each change of a table or of the
list of holds changes that sum, and `total_usageOn` that reconciliation computes it.
-/

namespace WorkspaceFleet

/-- A resource that is counted in whole units. -/
inductive Resource where
  | slots
  | memory
  | disk
  deriving DecidableEq, Repr

/-- The number of values of the word in which a resource is counted. -/
def Resource.limit : Resource → Nat
  | .slots => word32
  | .memory => word64
  | .disk => word64

variable {κ : Type}

/-- What an allocation takes of a resource; every workspace takes one slot. -/
def Allocation.needs (a : Allocation κ) : Resource → Nat
  | .slots => 1
  | .memory => a.memoryMb
  | .disk => a.diskGb

/-- The counter of a resource. -/
def Server.used (s : Server κ) : Resource → Nat
  | .slots => s.workspaceCount
  | .memory => s.memoryUsedMb
  | .disk => s.diskUsedGb

/-- What a server declares of a resource. -/
def Server.declared (s : Server κ) : Resource → Nat
  | .slots => s.maxWorkspaces
  | .memory => s.totalMemoryMb
  | .disk => s.totalDiskGb

/-- The amount of a resource in a usage. -/
def Usage.total (u : Usage κ) : Resource → Nat
  | .slots => u.count
  | .memory => u.allocation.memoryMb
  | .disk => u.allocation.diskGb

/-! ## Counters -/

namespace Server

@[simp] theorem used_ofConfig [Quantity κ] (c : ServerConfig κ) (q : Resource) :
    (ofConfig c).used q = 0 := by
  cases q <;> rfl

@[simp] theorem used_apply [Quantity κ] (s : Server κ) (a : Allocation κ) (q : Resource) :
    (s.apply a).used q = s.used q + a.needs q := by
  cases q <;> rfl

@[simp] theorem declared_apply [Quantity κ] (s : Server κ) (a : Allocation κ) (q : Resource) :
    (s.apply a).declared q = s.declared q := by
  cases q <;> rfl

@[simp] theorem used_retract [Quantity κ] (s : Server κ) (a : Allocation κ) (q : Resource) :
    (s.retract a).used q = s.used q - a.needs q := by
  cases q <;> rfl

@[simp] theorem declared_retract [Quantity κ] (s : Server κ) (a : Allocation κ) (q : Resource) :
    (s.retract a).declared q = s.declared q := by
  cases q <;> rfl

/-- Where an allocation has room, taking it stays within what is declared. -/
theorem used_apply_le [Quantity κ] {s : Server κ} {a : Allocation κ} (room : s.fits a = true)
    {q : Resource} (h : s.used q ≤ s.declared q) : (s.apply a).used q ≤ s.declared q := by
  simp only [fits, Bool.and_eq_true, decide_eq_true_eq] at room
  obtain ⟨⟨⟨-, hmemory⟩, hdisk⟩, hslots⟩ := room
  rw [used_apply]
  cases q with
  | slots => exact hslots
  | memory =>
    simp only [freeMemoryMb] at hmemory
    simp only [used, declared, Allocation.needs] at h ⊢
    omega
  | disk =>
    simp only [freeDiskGb] at hdisk
    simp only [used, declared, Allocation.needs] at h ⊢
    omega

end Server

namespace Registry

@[simp] theorem used_checked (s : Server κ) (c : ServerCheck) (q : Resource) :
    (checked s c).used q = s.used q := by
  cases q <;> rfl

@[simp] theorem declared_checked (s : Server κ) (c : ServerCheck) (q : Resource) :
    (checked s c).declared q = s.declared q := by
  cases q <;> rfl

@[simp] theorem used_corrected (s : Server κ) (u : Usage κ) (q : Resource) :
    (corrected s u).used q = u.total q := by
  cases q <;> rfl

@[simp] theorem declared_corrected (s : Server κ) (u : Usage κ) (q : Resource) :
    (corrected s u).declared q = s.declared q := by
  cases q <;> rfl

@[simp] theorem serverId_corrected (s : Server κ) (u : Usage κ) :
    (corrected s u).serverId = s.serverId := rfl

@[simp] theorem used_reopened (s : Server κ) (q : Resource) : (reopened s).used q = s.used q := by
  unfold reopened
  split <;> cases q <;> rfl

@[simp] theorem declared_reopened (s : Server κ) (q : Resource) :
    (reopened s).declared q = s.declared q := by
  unfold reopened
  split <;> cases q <;> rfl

@[simp] theorem serverId_reopened (s : Server κ) : (reopened s).serverId = s.serverId := by
  unfold reopened
  split <;> rfl

/-- A server that did not drift has the counters of its usage. -/
theorem used_eq_of_not_drifted [Quantity κ] {s : Server κ} {u : Usage κ}
    (h : drifted s u = false) (q : Resource) : s.used q = u.total q := by
  simp only [drifted, Bool.or_eq_false_iff, bne_eq_false_iff_eq] at h
  obtain ⟨⟨⟨hslots, -⟩, hmemory⟩, hdisk⟩ := h
  cases q with
  | slots => exact hslots
  | memory => exact hmemory
  | disk => exact hdisk

end Registry

namespace Usage

theorem total_none [Quantity κ] (q : Resource) : (none : Usage κ).total q = 0 := by
  cases q <;> rfl

theorem total_add [Quantity κ] (u : Usage κ) (a : Allocation κ) (q : Resource) :
    (u.add a).total q = u.total q + a.needs q := by
  cases q <;> rfl

end Usage

/-! ## Sums over records and holds -/

/-- What a record takes of a resource on a server. -/
def Workspace.loadOn (w : Workspace κ) (id : String) (q : Resource) : Nat :=
  if w.serverId = id then w.allocation.needs q else 0

/-- What a hold takes of a resource on a server. -/
def Reservation.loadOn (h : Reservation κ) (id : String) (q : Resource) : Nat :=
  if h.serverId = id then h.allocation.needs q else 0

/-- What the records of a table take of a resource on a server. -/
def recordedOn (t : Table (Workspace κ)) (id : String) (q : Resource) : Nat :=
  ((t.values.filter (·.serverId == id)).map (·.allocation.needs q)).sum

/-- What holds take of a resource on a server. -/
def heldOn (holds : List (Reservation κ)) (id : String) (q : Resource) : Nat :=
  ((holds.filter (·.serverId == id)).map (·.allocation.needs q)).sum

/-- What records and pending holds take of a resource on a server. -/
def Registry.loadOn (r : Registry κ) (id : String) (q : Resource) : Nat :=
  ((r.allocationsOn id).map (·.needs q)).sum

theorem sum_filter_cons {α : Type} (p : α → Bool) (f : α → Nat) (a : α) (l : List α) :
    (((a :: l).filter p).map f).sum = (if p a then f a else 0) + ((l.filter p).map f).sum := by
  rw [List.filter_cons]
  split <;> simp

theorem recordedOn_insert (t : Table (Workspace κ)) (c : String) (w : Workspace κ) (id : String)
    (q : Resource) :
    recordedOn (t.insert c w) id q = w.loadOn id q + recordedOn (t.erase c) id q := by
  have hperm := ((t.values_insert_perm c w).filter (·.serverId == id)).map (·.allocation.needs q)
  rw [recordedOn, hperm.sum_eq, sum_filter_cons]
  simp [Workspace.loadOn, recordedOn]

theorem recordedOn_erase {t : Table (Workspace κ)} {c : String} {w : Workspace κ}
    (h : t.get? c = some w) (id : String) (q : Resource) :
    recordedOn t id q = w.loadOn id q + recordedOn (t.erase c) id q := by
  have := recordedOn_insert t c w id q
  rwa [Table.insert_of_get? h] at this

theorem recordedOn_erase_le (t : Table (Workspace κ)) (c id : String) (q : Resource) :
    recordedOn (t.erase c) id q ≤ recordedOn t id q := by
  cases h : t.get? c with
  | none => exact Nat.le_of_eq (by rw [Table.erase_of_get?_none h])
  | some w => rw [recordedOn_erase h]; omega

theorem recordedOn_eq_sum (t : Table (Workspace κ)) (id : String) (q : Resource) :
    recordedOn t id q = (t.entries.map (·.2.loadOn id q)).sum := by
  rw [recordedOn, Table.values]
  induction t.entries with
  | nil => rfl
  | cons e rest ih =>
    rw [List.map_cons, sum_filter_cons, ih, List.map_cons, List.sum_cons]
    simp [Workspace.loadOn]

/-- Records that take the same in the place of others give the same sums. -/
theorem recordedOn_congr {t u : Table (Workspace κ)} (id : String) (q : Resource)
    (h : t.Matches (fun w w' => w'.loadOn id q = w.loadOn id q) u) :
    recordedOn u id q = recordedOn t id q := by
  rw [h.eq_map, recordedOn_eq_sum, recordedOn_eq_sum, Table.map, List.map_map]
  congr 1
  refine List.map_congr_left fun e he => ?_
  obtain ⟨w', hw', hload⟩ := h.some_left (Table.get?_eq_some_iff.2 he)
  show ((u.get? e.1).getD e.2).loadOn id q = e.2.loadOn id q
  rw [hw']
  exact hload

theorem heldOn_nil (id : String) (q : Resource) : heldOn ([] : List (Reservation κ)) id q = 0 := rfl

theorem heldOn_append (l : List (Reservation κ)) (h : Reservation κ) (id : String) (q : Resource) :
    heldOn (l ++ [h]) id q = heldOn l id q + h.loadOn id q := by
  have hone : heldOn [h] id q = h.loadOn id q := by
    rw [heldOn, sum_filter_cons]
    simp [Reservation.loadOn]
  rw [← hone]
  simp [heldOn]

/-- Holds with ids of their own: the sum splits into one hold and the rest. -/
theorem heldOn_filter {l : List (Reservation κ)} (hids : (l.map (·.id)).Nodup) {h : Reservation κ}
    (hmem : h ∈ l) (id : String) (q : Resource) :
    heldOn l id q = h.loadOn id q + heldOn (l.filter (·.id != h.id)) id q := by
  induction l with
  | nil => cases hmem
  | cons k rest ih =>
    rw [List.map_cons, List.nodup_cons] at hids
    rcases List.mem_cons.1 hmem with rfl | hrest
    · have hothers : rest.filter (·.id != h.id) = rest := by
        refine List.filter_eq_self.2 fun g hg => ?_
        have : g.id ≠ h.id := fun heq => hids.1 (heq ▸ List.mem_map_of_mem hg)
        simpa using this
      rw [List.filter_cons_of_neg (by simp), hothers, heldOn, sum_filter_cons]
      simp [Reservation.loadOn, heldOn]
    · have hne : k.id ≠ h.id := fun heq => hids.1 (heq ▸ List.mem_map_of_mem hrest)
      rw [List.filter_cons_of_pos (by simpa using hne), heldOn, sum_filter_cons, heldOn,
        sum_filter_cons]
      have := ih hids.2 hrest
      simp only [heldOn] at this
      omega

namespace Registry

theorem loadOn_eq (r : Registry κ) (id : String) (q : Resource) :
    r.loadOn id q = recordedOn r.workspaces id q + heldOn r.pending id q := by
  simp only [loadOn, allocationsOn, recordedOn, heldOn, List.map_append, List.map_map,
    List.sum_append]
  rfl

/-- Every allocation takes a slot. -/
theorem allocationsOn_eq_nil {r : Registry κ} {id : String} (h : r.loadOn id .slots = 0) :
    r.allocationsOn id = [] := by
  cases hl : r.allocationsOn id with
  | nil => rfl
  | cons a rest => simp [loadOn, hl, Allocation.needs] at h

/-- Without a workspace there is no load of any kind. -/
theorem loadOn_eq_zero {r : Registry κ} {id : String} (h : r.loadOn id .slots = 0)
    (q : Resource) : r.loadOn id q = 0 := by
  simp [loadOn, allocationsOn_eq_nil h]

theorem total_foldl_add [Quantity κ] (l : List (Allocation κ)) (u : Usage κ) (q : Resource) :
    (l.foldl Usage.add u).total q = u.total q + (l.map (·.needs q)).sum := by
  induction l generalizing u with
  | nil => simp
  | cons a rest ih =>
    rw [List.foldl_cons, ih, Usage.total_add, List.map_cons, List.sum_cons, Nat.add_assoc]

/-- Reconciliation computes the load. -/
theorem total_usageOn [Quantity κ] (r : Registry κ) (id : String) (q : Resource) :
    (r.usageOn id).total q = r.loadOn id q := by
  rw [usageOn, total_foldl_add, Usage.total_none, Nat.zero_add]
  rfl

end Registry

/-! ## Counters and limits by server id -/

/-- What is counted of a resource on a server; nothing where the server is not registered. -/
def countedOn (t : Table (Server κ)) (id : String) (q : Resource) : Nat :=
  (t.get? id).elim 0 (·.used q)

/-- What is declared of a resource on a server; nothing where the server is not registered. -/
def declaredOn (t : Table (Server κ)) (id : String) (q : Resource) : Nat :=
  (t.get? id).elim 0 (·.declared q)

theorem countedOn_of_get? {t : Table (Server κ)} {id : String} {s : Server κ}
    (h : t.get? id = some s) (q : Resource) : countedOn t id q = s.used q := by
  simp [countedOn, h]

theorem countedOn_of_none {t : Table (Server κ)} {id : String} (h : t.get? id = none)
    (q : Resource) : countedOn t id q = 0 := by
  simp [countedOn, h]

theorem declaredOn_of_get? {t : Table (Server κ)} {id : String} {s : Server κ}
    (h : t.get? id = some s) (q : Resource) : declaredOn t id q = s.declared q := by
  simp [declaredOn, h]

theorem countedOn_insert (t : Table (Server κ)) (id : String) (s : Server κ) (j : String)
    (q : Resource) :
    countedOn (t.insert id s) j q = if id = j then s.used q else countedOn t j q := by
  simp only [countedOn, Table.get?_insert]
  split <;> rfl

theorem declaredOn_insert (t : Table (Server κ)) (id : String) (s : Server κ) (j : String)
    (q : Resource) :
    declaredOn (t.insert id s) j q = if id = j then s.declared q else declaredOn t j q := by
  simp only [declaredOn, Table.get?_insert]
  split <;> rfl

theorem countedOn_erase (t : Table (Server κ)) (id j : String) (q : Resource) :
    countedOn (t.erase id) j q = if id = j then 0 else countedOn t j q := by
  simp only [countedOn, Table.get?_erase]
  split <;> rfl

theorem declaredOn_erase (t : Table (Server κ)) (id j : String) (q : Resource) :
    declaredOn (t.erase id) j q = if id = j then 0 else declaredOn t j q := by
  simp only [declaredOn, Table.get?_erase]
  split <;> rfl

end WorkspaceFleet
