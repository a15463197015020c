import WorkspaceFleet.Proofs.Load

/-!
# WorkspaceFleet.Proofs.Reconcile

What reconciliation makes of the servers. `get?_reconcile` gives the server under each id, and
`countedOn_reconcile` says that the counters are the load afterwards.
-/

namespace WorkspaceFleet
namespace Registry

variable {κ : Type} [Quantity κ]

/-- A server after reconciliation with a usage. -/
def settled (s : Server κ) (u : Usage κ) : Server κ := if drifted s u then corrected s u else s

theorem used_settled (s : Server κ) (u : Usage κ) (q : Resource) :
    (settled s u).used q = u.total q := by
  unfold settled
  split
  · exact used_corrected s u q
  · next h => exact used_eq_of_not_drifted (Bool.eq_false_iff.2 h) q

@[simp] theorem declared_settled (s : Server κ) (u : Usage κ) (q : Resource) :
    (settled s u).declared q = s.declared q := by
  unfold settled
  split
  · exact declared_corrected s u q
  · rfl

@[simp] theorem serverId_settled (s : Server κ) (u : Usage κ) :
    (settled s u).serverId = s.serverId := by
  unfold settled
  split <;> rfl

/-- The servers that reconciliation writes. -/
def corrections (r : Registry κ) : List (Server κ) :=
  r.driftedServers.map fun s => corrected s (r.usageOn s.serverId)

theorem writes_reconcile (r : Registry κ) : r.reconcile.writes = r.corrections.map .putServer := rfl

theorem servers_reconcile (r : Registry κ) :
    r.reconcile.registry.servers =
      r.corrections.foldl (fun t s => t.insert s.serverId s) r.servers := rfl

theorem mem_corrections {r : Registry κ} (keyed : r.servers.Keyed Server.serverId) {v : Server κ} :
    v ∈ r.corrections ↔ ∃ id s, r.servers.get? id = some s ∧
      drifted s (r.usageOn id) = true ∧ v = corrected s (r.usageOn id) := by
  simp only [corrections, driftedServers, listServers, List.mem_map, List.mem_filter,
    Table.mem_values_iff]
  constructor
  · rintro ⟨s, ⟨⟨id, hs⟩, hd⟩, rfl⟩
    rw [keyed id s hs] at hd ⊢
    exact ⟨id, s, hs, hd, rfl⟩
  · rintro ⟨id, s, hs, hd, rfl⟩
    refine ⟨s, ⟨⟨id, hs⟩, ?_⟩, ?_⟩ <;> rw [keyed id s hs]
    exact hd

theorem corrections_nodup {r : Registry κ} (keyed : r.servers.Keyed Server.serverId) :
    (r.corrections.map Server.serverId).Nodup := by
  have hids : r.corrections.map Server.serverId = r.driftedServers.map Server.serverId := by
    simp [corrections]
  rw [hids]
  refine List.Sublist.nodup ?_ (keyed.keys_eq ▸ r.servers.keys_nodup)
  exact List.filter_sublist.map _

/-- What filing the corrections puts under an id: what is made of the server there, if it drifted. -/
theorem get?_foldl_corrections {β : Type} {r : Registry κ} (keyed : r.servers.Keyed Server.serverId)
    (f : Server κ → β) (t : Table β) (id : String) :
    (r.corrections.foldl (fun t s => t.insert s.serverId (f s)) t).get? id =
      match r.servers.get? id with
      | none => t.get? id
      | some s =>
        if drifted s (r.usageOn id) then some (f (corrected s (r.usageOn id))) else t.get? id := by
  cases hs : r.servers.get? id with
  | none =>
    refine Table.get?_foldl_insert_of_ne fun v hv heq => ?_
    obtain ⟨j, s, hj, -, rfl⟩ := (mem_corrections keyed).1 hv
    rw [serverId_corrected, keyed j s hj] at heq
    rw [heq, hs] at hj
    cases hj
  | some s =>
    have hid := keyed id s hs
    dsimp only
    split
    · next hd =>
      have hmem : corrected s (r.usageOn id) ∈ r.corrections :=
        (mem_corrections keyed).2 ⟨id, s, hs, hd, rfl⟩
      have hget := Table.get?_foldl_insert_of_mem (f := f) (t := t) (corrections_nodup keyed) hmem
      rwa [serverId_corrected, hid] at hget
    · next hd =>
      refine Table.get?_foldl_insert_of_ne fun v hv heq => ?_
      obtain ⟨j, s', hj, hd', rfl⟩ := (mem_corrections keyed).1 hv
      rw [serverId_corrected, keyed j s' hj] at heq
      subst heq
      rw [hs] at hj
      cases hj
      exact hd hd'

/-- **Reconciliation settles every server with its usage.** -/
theorem get?_reconcile {r : Registry κ} (keyed : r.servers.Keyed Server.serverId) (id : String) :
    r.reconcile.registry.servers.get? id =
      (r.servers.get? id).map fun s => settled s (r.usageOn id) := by
  rw [servers_reconcile, get?_foldl_corrections keyed (fun s => s)]
  cases hs : r.servers.get? id with
  | none => rfl
  | some s =>
    rw [Option.map_some, settled]
    dsimp only
    split <;> rfl

/-- Reconciliation settles the servers where they stand. -/
theorem listServers_reconcile {r : Registry κ} (keyed : r.servers.Keyed Server.serverId) :
    r.reconcile.registry.listServers =
      r.listServers.map fun s => settled s (r.usageOn s.serverId) := by
  have hservers : r.reconcile.registry.servers =
      r.servers.map fun _ s => settled s (r.usageOn s.serverId) := by
    refine Table.ext_get? fun id => ?_
    rw [get?_reconcile keyed, Table.get?_map]
    cases hs : r.servers.get? id with
    | none => rfl
    | some s => rw [Option.map_some, Option.map_some, keyed id s hs]
  rw [listServers, hservers, Table.values_map]
  rfl

theorem keyed_reconcile {r : Registry κ} (keyed : r.servers.Keyed Server.serverId) :
    r.reconcile.registry.servers.Keyed Server.serverId := by
  intro id v hv
  rw [get?_reconcile keyed, Option.map_eq_some_iff] at hv
  obtain ⟨s, hs, rfl⟩ := hv
  rw [serverId_settled, keyed id s hs]

theorem countedOn_reconcile {r : Registry κ} (keyed : r.servers.Keyed Server.serverId) {id : String}
    {s : Server κ} (hs : r.servers.get? id = some s) (q : Resource) :
    countedOn r.reconcile.registry.servers id q = r.loadOn id q := by
  have hget := get?_reconcile keyed id
  rw [hs, Option.map_some] at hget
  rw [countedOn_of_get? hget, used_settled, total_usageOn]

/-- What reconciliation counts depends on the records and the holds, and not on what was counted. -/
theorem countedOn_reconcile_congr {r r' : Registry κ} (keyed : r.servers.Keyed Server.serverId)
    (keyed' : r'.servers.Keyed Server.serverId) (workspaces : r'.workspaces = r.workspaces)
    (pending : r'.pending = r.pending) {id : String}
    (registered : r'.servers.contains id = r.servers.contains id) (q : Resource) :
    countedOn r'.reconcile.registry.servers id q = countedOn r.reconcile.registry.servers id q := by
  cases hs : r.servers.get? id with
  | none =>
    rw [Table.contains_eq_false_iff.2 hs, Table.contains_eq_false_iff] at registered
    rw [countedOn_of_none (by rw [get?_reconcile keyed', registered]; rfl),
      countedOn_of_none (by rw [get?_reconcile keyed, hs]; rfl)]
  | some s =>
    rw [Table.contains_of_get? hs] at registered
    obtain ⟨s', hs'⟩ := Option.isSome_iff_exists.1 registered
    rw [countedOn_reconcile keyed' hs', countedOn_reconcile keyed hs, loadOn_eq, loadOn_eq,
      workspaces, pending]

theorem declaredOn_reconcile {r : Registry κ} (keyed : r.servers.Keyed Server.serverId)
    (id : String) (q : Resource) :
    declaredOn r.reconcile.registry.servers id q = declaredOn r.servers id q := by
  rw [declaredOn, declaredOn, get?_reconcile keyed]
  cases r.servers.get? id with
  | none => rfl
  | some s => exact declared_settled s (r.usageOn id) q

end Registry
end WorkspaceFleet
