import WorkspaceFleet.Proofs.Cores
import WorkspaceFleet.Proofs.Reconcile

/-!
# WorkspaceFleet.Proofs.Repairing

Reconciliation repairs every registry, in exact arithmetic.

Of the registry nothing is asked but that its servers stand under their own ids: the counters may
have any values, and records and holds may name servers that are not registered. A server `Drifts`
whose counters are not those of its load. Settling it with its usage puts an end to that
(`drifted_settled`) and touches nothing but counters, so one reconciliation leaves nothing for
another to do (`driftedServers_reconcile`): `Registry.reconcile_repairs`.
-/

namespace WorkspaceFleet

open Quantity (tolerance)

/-- The servers differ in their counters, if at all. -/
def Server.SameButUse {κ : Type} (s s' : Server κ) : Prop :=
  s' = { s with
    cpuUsed := s'.cpuUsed
    memoryUsedMb := s'.memoryUsedMb
    diskUsedGb := s'.diskUsedGb
    workspaceCount := s'.workspaceCount }

namespace Registry

variable {κ : Type} [Quantity κ]

theorem sameButUse_settled (s : Server κ) (u : Usage κ) : s.SameButUse (settled s u) := by
  unfold settled
  split <;> rfl

theorem usageOn_reconcile (r : Registry κ) (id : String) :
    r.reconcile.registry.usageOn id = r.usageOn id := rfl

/-! ## Drift -/

/-- What a server counts is not its load: a number of whole units differs, or the cores differ by
more than the tolerance. -/
def Drifts (r : Registry Rat) (id : String) (s : Server Rat) : Prop :=
  (∃ q, s.used q ≠ r.loadOn id q) ∨ tolerance < |s.cpuUsed - r.coresOn id|

theorem drifted_iff {r : Registry Rat} {id : String} {s : Server Rat} :
    drifted s (r.usageOn id) = true ↔ r.Drifts id s := by
  have hunits : (∃ q, s.used q ≠ r.loadOn id q) ↔
      s.workspaceCount ≠ (r.usageOn id).count ∨
        s.memoryUsedMb ≠ (r.usageOn id).allocation.memoryMb ∨
        s.diskUsedGb ≠ (r.usageOn id).allocation.diskGb := by
    simp only [← total_usageOn]
    constructor
    · rintro ⟨_ | _ | _, h⟩
      · exact .inl h
      · exact .inr (.inl h)
      · exact .inr (.inr h)
    · rintro (h | h | h)
      · exact ⟨.slots, h⟩
      · exact ⟨.memory, h⟩
      · exact ⟨.disk, h⟩
  simp only [Drifts, hunits, drifted, Bool.or_eq_true, bne_iff_ne, decide_eq_true_eq,
    Quantity.magnitude_eq_abs, cpuCores_usageOn]
  tauto

/-- Once settled, a server does not drift. -/
theorem drifted_settled (s : Server Rat) (u : Usage Rat) : drifted (settled s u) u = false := by
  unfold settled
  split
  · have hzero : ¬ tolerance < |u.allocation.cpuCores - u.allocation.cpuCores| := by
      rw [sub_self, abs_zero, not_lt]
      exact Quantity.tolerance_pos.le
    simp only [drifted, corrected, Quantity.magnitude_eq_abs, hzero, bne_self_eq_false,
      decide_false, Bool.or_false]
  · next h => exact Bool.eq_false_iff.2 h

theorem driftedServers_reconcile {r : Registry Rat} (keyed : r.servers.Keyed Server.serverId) :
    r.reconcile.registry.driftedServers = [] := by
  rw [driftedServers, List.filter_eq_nil_iff]
  intro s' hs'
  obtain ⟨id, found⟩ := Table.mem_values_iff.1 hs'
  rw [keyed_reconcile keyed id s' found]
  rw [get?_reconcile keyed, Option.map_eq_some_iff] at found
  obtain ⟨s, -, rfl⟩ := found
  rw [usageOn_reconcile, drifted_settled]
  exact Bool.false_ne_true

/-- Where nothing drifts, nothing is done. -/
theorem reconcile_of_steady {r : Registry Rat} (steady : r.driftedServers = []) :
    r.reconcile = r.unchanged (.ok []) := by
  simp only [reconcile, steady, List.map_nil, List.take_nil]
  rfl

/-! ## Corrections -/

/-- The corrections that reconciliation answers. -/
def usageCorrections (r : Registry κ) : List UsageCorrection :=
  r.driftedServers.map fun s => {
    serverId := s.serverId
    previousWorkspaceCount := s.workspaceCount
    correctedWorkspaceCount := (r.usageOn s.serverId).count }

theorem result_reconcile (r : Registry κ) : r.reconcile.result = .ok r.usageCorrections := rfl

theorem usageCorrections_increasing {r : Registry κ} (keyed : r.servers.Keyed Server.serverId) :
    (r.usageCorrections.map UsageCorrection.serverId).Pairwise (· < ·) := by
  have hids : r.usageCorrections.map UsageCorrection.serverId =
      r.driftedServers.map Server.serverId := by
    rw [usageCorrections, List.map_map]
    rfl
  have hkeys : (r.servers.values.map Server.serverId).Pairwise (· < ·) := by
    rw [keyed.keys_eq, Table.keys, List.pairwise_map]
    exact r.servers.sorted
  rw [hids]
  exact hkeys.sublist (List.filter_sublist.map _)

theorem mem_usageCorrections {r : Registry Rat} (keyed : r.servers.Keyed Server.serverId)
    {c : UsageCorrection} :
    c ∈ r.usageCorrections ↔ ∃ s, r.servers.get? c.serverId = some s ∧ r.Drifts c.serverId s ∧
      c.previousWorkspaceCount = s.workspaceCount ∧
      c.correctedWorkspaceCount = r.loadOn c.serverId .slots := by
  simp only [usageCorrections, driftedServers, listServers, List.mem_map, List.mem_filter,
    Table.mem_values_iff]
  constructor
  · rintro ⟨s, ⟨⟨id, found⟩, hdrifted⟩, rfl⟩
    obtain rfl := keyed id s found
    exact ⟨s, found, drifted_iff.1 hdrifted, rfl, total_usageOn r s.serverId .slots⟩
  · obtain ⟨id, previous, corrected⟩ := c
    dsimp only
    rintro ⟨s, found, drifts, rfl, rfl⟩
    obtain rfl := keyed id s found
    refine ⟨s, ⟨⟨s.serverId, found⟩, drifted_iff.2 drifts⟩, ?_⟩
    rw [← total_usageOn]
    rfl

/-! ## Repair -/

/-- The usage of a server does not depend on the order in which records and holds are met. -/
theorem foldl_add_of_perm {r : Registry Rat} {id : String} {l : List (Allocation Rat)}
    (perm : l.Perm (r.allocationsOn id)) : l.foldl Usage.add Usage.none = r.usageOn id := by
  refine perm.foldl_eq' (fun a _ b _ u => ?_) _
  simp only [Usage.add, Usage.mk.injEq, Allocation.mk.injEq, and_true]
  exact ⟨add_right_comm .., Nat.add_right_comm .., Nat.add_right_comm ..⟩

/-- What is counted on a settled server is its load. -/
theorem counted_settled (r : Registry Rat) (id : String) (s : Server Rat) :
    (∀ q, (settled s (r.usageOn id)).used q = r.loadOn id q) ∧
      |(settled s (r.usageOn id)).cpuUsed - r.coresOn id| ≤ tolerance := by
  have hsteady : ¬ r.Drifts id (settled s (r.usageOn id)) := by
    rw [← drifted_iff, drifted_settled]
    exact Bool.false_ne_true
  rw [Drifts, not_or, not_exists, not_lt] at hsteady
  exact ⟨fun q => not_ne_iff.1 (hsteady.1 q), hsteady.2⟩

/-- **Reconciliation repairs any registry, and once is enough.** Afterwards every server counts what
the records and holds that name it amount to, the cores to within the tolerance, and is otherwise as
it was; so are the records, the holds, and every server that did not drift. The corrections name
exactly the servers that drifted, in the order of their ids, with the count before and the count
now. The order in which records and holds are summed up makes no difference. A second reconciliation
finds nothing to correct and does nothing. -/
theorem reconcile_repairs (r : Registry Rat) (keyed : r.servers.Keyed Server.serverId) :
    (∀ id, r.servers.get? id = none → r.reconcile.registry.servers.get? id = none) ∧
    (∀ id s, r.servers.get? id = some s →
      ∃ s', r.reconcile.registry.servers.get? id = some s' ∧ s.SameButUse s' ∧
        (∀ q, s'.used q = r.loadOn id q) ∧ |s'.cpuUsed - r.coresOn id| ≤ tolerance ∧
        (¬ r.Drifts id s → s' = s)) ∧
    (r.reconcile.registry.workspaces = r.workspaces ∧ r.reconcile.registry.pending = r.pending ∧
      r.reconcile.registry.nextReservation = r.nextReservation) ∧
    (∃ corrections, r.reconcile.result = .ok corrections ∧
      (corrections.map UsageCorrection.serverId).Pairwise (· < ·) ∧
      ∀ c, c ∈ corrections ↔ ∃ s, r.servers.get? c.serverId = some s ∧ r.Drifts c.serverId s ∧
        c.previousWorkspaceCount = s.workspaceCount ∧
        c.correctedWorkspaceCount = r.loadOn c.serverId .slots) ∧
    (∀ id (l : List (Allocation Rat)), l.Perm (r.allocationsOn id) →
      l.foldl Usage.add Usage.none = r.usageOn id) ∧
    r.reconcile.registry.reconcile = r.reconcile.registry.unchanged (.ok []) := by
  refine ⟨fun id missing => ?_, fun id s found => ?_, ⟨rfl, rfl, rfl⟩,
    ⟨r.usageCorrections, result_reconcile r, usageCorrections_increasing keyed,
      fun c => mem_usageCorrections keyed⟩,
    fun id l perm => foldl_add_of_perm perm, reconcile_of_steady (driftedServers_reconcile keyed)⟩
  · rw [get?_reconcile keyed, missing]
    rfl
  · obtain ⟨hunits, hcores⟩ := counted_settled r id s
    refine ⟨settled s (r.usageOn id), ?_, sameButUse_settled s _, hunits, hcores, fun steady => ?_⟩
    · rw [get?_reconcile keyed, found]
      rfl
    · rw [settled, if_neg (mt drifted_iff.1 steady)]

namespace RepairRun

/-- The sample server under some id, with counters that no history gives. -/
def server (id : String) (count : Nat) (cores : Rat) : Server Rat :=
  { Server.ofConfig SampleRun.config with
    serverId := id, workspaceCount := count, cpuUsed := cores }

/-- A record on the first server, a record on one that is not registered, and a hold on the
first. -/
def astray : Registry Rat where
  servers := ((∅ : Table (Server Rat)).insert "a" (server "a" 7 (-1))).insert "b" (server "b" 0 0)
  workspaces := ((∅ : Table (Workspace Rat)).insert "c"
    (.ofReservation ⟨1, "a", ⟨1, 40, 3⟩⟩ "c" 100)).insert "d"
    (.ofReservation ⟨2, "gone", ⟨1, 40, 3⟩⟩ "d" 100)
  pending := [⟨3, "a", ⟨2, 10, 1⟩⟩]
  nextReservation := 4

theorem keyed : astray.servers.Keyed Server.serverId := by
  have hone : ((∅ : Table (Server Rat)).insert "a" (server "a" 7 (-1))).Keyed Server.serverId :=
    (Table.Keyed.nothing Server.serverId).insert rfl
  exact hone.insert rfl

end RepairRun

open RepairRun in
/-- Seven workspaces are counted where there is one and a hold; the other server is left alone. -/
theorem reconcile_repairs_astray :
    astray.reconcile.result.toOption = some [⟨"a", 7, 2⟩] ∧
    astray.reconcile.registry.reconcile = astray.reconcile.registry.unchanged (.ok []) ∧
    (∃ s', astray.reconcile.registry.servers.get? "a" = some s' ∧ s'.workspaceCount = 2 ∧
      s'.memoryUsedMb = 50 ∧ |s'.cpuUsed - 3| ≤ tolerance) ∧
    ∃ s', astray.reconcile.registry.servers.get? "b" = some s' ∧ s'.workspaceCount = 0 := by
  obtain ⟨-, hservers, -, -, -, hagain⟩ := reconcile_repairs astray keyed
  obtain ⟨a, ha, -, hunits, hcores, -⟩ := hservers "a" (server "a" 7 (-1)) rfl
  obtain ⟨b, hb, -, hidle, -⟩ := hservers "b" (server "b" 0 0) rfl
  have hload : astray.loadOn "a" .slots = 2 ∧ astray.loadOn "a" .memory = 50 ∧
      astray.coresOn "a" = 3 ∧ astray.loadOn "b" .slots = 0 := by decide +kernel
  refine ⟨by decide +kernel, hagain, ⟨a, ha, ?_, ?_, ?_⟩, b, hb, ?_⟩
  · exact (hunits .slots).trans hload.1
  · exact (hunits .memory).trans hload.2.1
  · rw [hload.2.2.1] at hcores
    exact hcores
  · exact (hidle .slots).trans hload.2.2.2

end Registry
end WorkspaceFleet
