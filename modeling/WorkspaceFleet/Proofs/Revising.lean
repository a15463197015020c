import WorkspaceFleet.Proofs.Cut

/-!
# WorkspaceFleet.Proofs.Revising

A registry whose values are all revised in a way that accounting does not see.

`Registry.revised` applies one function to every server and another to every workspace. Where these
keep what is declared and counted (`Server.KeepsCapacity`), and where a workspace is and what it
holds (`Workspace.KeepsPlace`), each operation of the accounting does on the revised registry what
it does on the other: it gives the same answer, and what it leaves and writes is revised.
-/

namespace WorkspaceFleet

namespace Table

variable {α : Type} {t : Table α} {key : α → String} {k : String}

theorem map_eq_self {f : α → α} (h : ∀ k v, t.get? k = some v → f v = v) :
    (t.map fun _ => f) = t := by
  refine ext_get? fun k => ?_
  rw [get?_map]
  cases hk : t.get? k with
  | none => rfl
  | some v => rw [Option.map_some, h k v hk]

/-- Nothing stands under the key, so a change of what has that key changes nothing. -/
theorem Keyed.map_ite_of_none (h : t.Keyed key) (missing : t.get? k = none) (f : α → α) :
    (t.map fun _ v => if key v = k then f v else v) = t := by
  refine map_eq_self fun j v hv => if_neg fun hk => ?_
  rw [h j v hv] at hk
  rw [hk, missing] at hv
  cases hv

/-- A change of what has the key replaces what stands under it. -/
theorem Keyed.map_ite_of_get? (h : t.Keyed key) {v : α} (found : t.get? k = some v) (f : α → α) :
    (t.map fun _ v => if key v = k then f v else v) = t.insert k (f v) := by
  refine ext_get? fun j => ?_
  rw [get?_map, get?_insert]
  by_cases hj : k = j
  · rw [if_pos hj, ← hj, found, Option.map_some, if_pos (h k v found)]
  · rw [if_neg hj]
    cases hw : t.get? j with
    | none => rfl
    | some w => rw [Option.map_some, if_neg fun hk => hj (hk.symm.trans (h j w hw))]

end Table

variable {κ : Type}

/-- Every workspace stays where it is, with its allocation. -/
def Workspace.KeepsPlace (g : Workspace κ → Workspace κ) : Prop :=
  ∀ w : Workspace κ, w.SamePlace (g w)

/-- Every server keeps what is declared and counted, and counting goes on as it would have. -/
structure Server.KeepsCapacity [Quantity κ] (f : Server κ → Server κ) : Prop where
  serverId : ∀ s, (f s).serverId = s.serverId
  count : ∀ s, (f s).workspaceCount = s.workspaceCount
  fits : ∀ s a, (f s).fits a = s.fits a
  underflow : ∀ s a, (f s).underflow? a = s.underflow? a
  drifted : ∀ s u, Registry.drifted (f s) u = Registry.drifted s u
  apply : ∀ s a, (f s).apply a = f (s.apply a)
  retract : ∀ s a, (f s).retract a = f (s.retract a)
  corrected : ∀ s u, Registry.corrected (f s) u = f (Registry.corrected s u)

def Write.revised (f : Server κ → Server κ) (g : Workspace κ → Workspace κ) : Write κ → Write κ
  | .putServer s => .putServer (f s)
  | .putWorkspace w => .putWorkspace (g w)
  | .deleteServer id => .deleteServer id
  | .deleteWorkspace id => .deleteWorkspace id

namespace Registry

def revised (f : Server κ → Server κ) (g : Workspace κ → Workspace κ) (r : Registry κ) :
    Registry κ :=
  { r with servers := r.servers.map fun _ => f, workspaces := r.workspaces.map fun _ => g }

end Registry

/-- What is left and written is revised; the answer stays. -/
def Change.revised {α : Type} (f : Server κ → Server κ) (g : Workspace κ → Workspace κ)
    (c : Change κ α) : Change κ α :=
  ⟨c.result, c.registry.revised f g, c.writes.map (Write.revised f g),
    fun taken => (c.refused taken).revised f g⟩

namespace Registry

variable {f : Server κ → Server κ} {g : Workspace κ → Workspace κ} {r : Registry κ}

theorem get?_servers_revised (r : Registry κ) (id : String) :
    (r.revised f g).servers.get? id = (r.servers.get? id).map f :=
  Table.get?_map _ _ _

theorem get?_workspaces_revised (r : Registry κ) (id : String) :
    (r.revised f g).workspaces.get? id = (r.workspaces.get? id).map g :=
  Table.get?_map _ _ _

theorem keyed_revised (ids : ∀ s, (f s).serverId = s.serverId)
    (keyed : r.servers.Keyed Server.serverId) :
    (r.revised f g).servers.Keyed Server.serverId := by
  intro id s' hs'
  rw [get?_servers_revised, Option.map_eq_some_iff] at hs'
  obtain ⟨s, hs, rfl⟩ := hs'
  rw [ids, keyed id s hs]

theorem filed_revised (hg : Workspace.KeepsPlace g)
    (filed : r.workspaces.Keyed Workspace.containerId) :
    (r.revised f g).workspaces.Keyed Workspace.containerId := by
  intro c w' hw'
  rw [get?_workspaces_revised, Option.map_eq_some_iff] at hw'
  obtain ⟨w, hw, rfl⟩ := hw'
  rw [(hg w).containerId, filed c w hw]

variable [Quantity κ]

theorem reserve_revised (hf : Server.KeepsCapacity f) (r : Registry κ) (id : String)
    (a : Allocation κ) :
    (r.revised f g).reserve id a = (r.reserve id a).revised f g := by
  simp only [reserve, get?_servers_revised]
  cases r.servers.get? id with
  | none => rfl
  | some s =>
    simp only [Option.map_some, hf.fits]
    split
    · simp only [Change.revised, changed, hf.apply, revised, Table.map_insert, List.map_cons,
        List.map_nil, Write.revised]
    · rfl

theorem release_revised (hf : Server.KeepsCapacity f) (r : Registry κ) (hold : Reservation κ) :
    (r.revised f g).release hold = (r.release hold).revised f g := by
  simp only [release, show (r.revised f g).hold? hold.id = r.hold? hold.id from rfl]
  cases r.hold? hold.id with
  | none => rfl
  | some held =>
    simp only [get?_servers_revised]
    cases r.servers.get? held.serverId with
    | none => rfl
    | some s =>
      simp only [Option.map_some, hf.underflow, hf.retract, Change.revised, changed, revised,
        Table.map_insert, List.map_cons, List.map_nil, Write.revised]
      rfl

theorem commit_revised (r : Registry κ) (hold : Reservation κ) {c : String} {now : Nat}
    (kept : g (.ofReservation hold c now) = .ofReservation hold c now) :
    (r.revised f g).commit hold c now = (r.commit hold c now).revised f g := by
  simp only [commit, show (r.revised f g).hold? hold.id = r.hold? hold.id from rfl]
  cases r.hold? hold.id with
  | none => rfl
  | some held =>
    simp only [Change.revised, changed, revised, Table.map_insert, List.map_cons, List.map_nil,
      Write.revised, kept]
    rfl

/-- The answer of a removal is the record, so it is revised as well. -/
theorem removeWorkspace_revised (hf : Server.KeepsCapacity f) (hg : Workspace.KeepsPlace g)
    (r : Registry κ) (c : String) :
    (r.revised f g).removeWorkspace c =
      { (r.removeWorkspace c).revised f g with
        result := (r.removeWorkspace c).result.map (Option.map g) } := by
  simp only [removeWorkspace, get?_workspaces_revised]
  cases r.workspaces.get? c with
  | none => rfl
  | some w =>
    simp only [Option.map_some, (hg w).serverId, (hg w).allocation, get?_servers_revised]
    cases r.servers.get? w.serverId with
    | none =>
      simp only [Option.map_none, Change.revised, changed, revised, Table.map_erase]
      rfl
    | some s =>
      simp only [Option.map_some, hf.retract, Change.revised, revised, Table.map_erase,
        Table.map_insert, List.map_cons, List.map_nil, Write.revised, Change.mk.injEq, true_and]
      refine ⟨rfl, funext fun taken => ?_⟩
      by_cases first : taken = 0
      · simp only [if_pos first]
      · simp only [if_neg first, Table.map_erase]

/-! ## Reconciliation -/

theorem usageOn_revised (hg : Workspace.KeepsPlace g) (r : Registry κ) (id : String) :
    (r.revised f g).usageOn id = r.usageOn id := by
  have hworkspaces : (r.revised f g).workspaces.values = r.workspaces.values.map g :=
    Table.values_map _ _
  have hserver : (fun w : Workspace κ => w.serverId == id) ∘ g = (·.serverId == id) :=
    funext fun w => by rw [Function.comp_apply, (hg w).serverId]
  have hallocation : Workspace.allocation ∘ g = Workspace.allocation :=
    funext fun w => (hg w).allocation
  rw [usageOn, usageOn, allocationsOn, allocationsOn, hworkspaces, List.filter_map, List.map_map,
    hserver, hallocation]
  rfl

theorem driftedServers_revised (hf : Server.KeepsCapacity f) (hg : Workspace.KeepsPlace g)
    (r : Registry κ) : (r.revised f g).driftedServers = r.driftedServers.map f := by
  have hservers : (r.revised f g).servers.values = r.servers.values.map f :=
    Table.values_map _ _
  simp only [driftedServers, listServers, hservers, List.filter_map, Function.comp_def,
    usageOn_revised hg, hf.drifted, hf.serverId]

theorem corrections_revised (hf : Server.KeepsCapacity f) (hg : Workspace.KeepsPlace g)
    (r : Registry κ) : (r.revised f g).corrections = r.corrections.map f := by
  simp only [corrections, driftedServers_revised hf hg, List.map_map, Function.comp_def,
    usageOn_revised hg, hf.corrected, hf.serverId]

theorem updateServers_revised (hf : Server.KeepsCapacity f) (r : Registry κ)
    (updates : List (Server κ)) :
    (r.revised f g).updateServers (updates.map f) = (r.updateServers updates).revised f g := by
  simp only [updateServers, revised, List.foldl_map, hf.serverId]
  rw [List.foldl_hom (fun t : Table (Server κ) => t.map fun _ => f)
    fun t s => (Table.map_insert _ t s.serverId s).symm]

theorem reconcile_revised (hf : Server.KeepsCapacity f) (hg : Workspace.KeepsPlace g)
    (r : Registry κ) : (r.revised f g).reconcile = r.reconcile.revised f g := by
  have hresult : (r.revised f g).reconcile.result = r.reconcile.result := by
    simp only [reconcile, driftedServers_revised hf hg, List.map_map, Function.comp_def,
      usageOn_revised hg, hf.serverId, hf.count]
  have hregistry : (r.revised f g).updateServers (r.revised f g).corrections =
      (r.updateServers r.corrections).revised f g := by
    rw [corrections_revised hf hg, updateServers_revised hf]
  have hrefused : ∀ taken, (r.revised f g).updateServers ((r.revised f g).corrections.take taken) =
      (r.updateServers (r.corrections.take taken)).revised f g := by
    intro taken
    rw [corrections_revised hf hg, ← List.map_take, updateServers_revised hf]
  have hwrites : (r.revised f g).reconcile.writes =
      r.reconcile.writes.map (Write.revised f g) := by
    rw [writes_reconcile, writes_reconcile, corrections_revised hf hg, List.map_map, List.map_map]
    rfl
  show Change.mk (r.revised f g).reconcile.result
      ((r.revised f g).updateServers (r.revised f g).corrections) (r.revised f g).reconcile.writes
      (fun taken => (r.revised f g).updateServers ((r.revised f g).corrections.take taken)) = _
  rw [hresult, hregistry, hwrites, funext hrefused]
  rfl

end Registry
end WorkspaceFleet
