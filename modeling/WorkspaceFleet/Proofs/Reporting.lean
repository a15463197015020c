import WorkspaceFleet.Proofs.Merging
import WorkspaceFleet.Proofs.Recovery

/-!
# WorkspaceFleet.Proofs.Reporting

What the service reports of a store, and what the report leaves of it.

A report opens the store as a start does, so it shows what opening makes of the rows. Opening lists the
values in the order in which they are read (`Registry.listServers_opened`,
`Registry.listWorkspaces_loaded`), each server as `Registry.shown` has it, and `Store.Settled` says which
rows it writes anew. `Service.status_reports` puts this together for every store that a run leaves, and
says when the report is of what is persisted. `status_misreports` is a store where it is not.
-/

namespace WorkspaceFleet

variable {α β κ : Type}

namespace Table

theorem keys_sorted (t : Table α) : t.keys.Pairwise (· < ·) := List.pairwise_map.2 t.sorted

/-- Values in the order of their keys are filed in that order. -/
theorem entries_filed {key : α → String} {l : List α} (g : α → β)
    (sorted : (l.map key).Pairwise (· < ·)) :
    (ofList (l.map fun a => (key a, g a))).entries = l.map fun a => (key a, g a) := by
  have hsorted : (l.map fun a => (key a, g a)).Pairwise (·.1 < ·.1) := by
    rw [List.pairwise_map] at sorted ⊢
    exact sorted
  exact congrArg entries (ofList_perm (t := ⟨_, hsorted⟩) (.refl _))

end Table

namespace Registry

variable {ss : List (Server κ)} {ws : List (Workspace κ)}

/-! ## What is loaded -/

theorem values_loaded (ss : List (Server κ))
    (sorted : (ws.map Workspace.containerId).Pairwise (· < ·)) :
    (loaded ss ws).workspaces.values = ws := by
  rw [loaded, Table.values, Table.entries_filed _ sorted, List.map_map]
  exact List.map_id _

theorem listWorkspaces_loaded (ss : List (Server κ))
    (sorted : (ws.map Workspace.containerId).Pairwise (· < ·)) :
    (loaded ss ws).listWorkspaces = ws := by
  rw [listWorkspaces, values_loaded ss sorted]
  refine List.mergeSort_of_pairwise ?_
  rw [List.pairwise_map] at sorted
  refine sorted.imp fun {v w} h => decide_eq_true ?_
  exact String.not_lt.1 fun h' => String.lt_irrefl _ (String.lt_trans h h')

theorem listServers_loaded (ws : List (Workspace κ))
    (sorted : (ss.map Server.serverId).Pairwise (· < ·)) :
    (loaded ss ws).listServers = ss.map reopened := by
  rw [loaded, listServers, Table.values, Table.entries_filed _ sorted, List.map_map]
  rfl

theorem get?_loaded (ws : List (Workspace κ)) (sorted : (ss.map Server.serverId).Pairwise (· < ·))
    {id : String} {s : Server κ} :
    (loaded ss ws).servers.get? id = some s ↔ ∃ v ∈ ss, v.serverId = id ∧ reopened v = s := by
  rw [Table.get?_eq_some_iff, loaded, Table.entries_filed _ sorted, List.mem_map]
  simp only [Prod.mk.injEq]

variable [Quantity κ]

/-! ## How a server is shown -/

/-- What workspaces use of a server. -/
def usageOf (ws : List (Workspace κ)) (id : String) : Usage κ :=
  ((ws.filter (·.serverId == id)).map (·.allocation)).foldl Usage.add .none

/-- How a server that was read is shown: not as healthy, and with what the workspaces that were read
use of it. -/
def shown (ws : List (Workspace κ)) (s : Server κ) : Server κ :=
  settled (reopened s) (usageOf ws s.serverId)

theorem drifted_reopened (s : Server κ) (u : Usage κ) : drifted (reopened s) u = drifted s u := by
  unfold reopened
  split <;> rfl

theorem status_settled (s : Server κ) (u : Usage κ) : (settled s u).status = s.status := by
  unfold settled
  split <;> rfl

theorem consecutiveFailures_settled (s : Server κ) (u : Usage κ) :
    (settled s u).consecutiveFailures = s.consecutiveFailures := by
  unfold settled
  split <;> rfl

theorem status_shown (s : Server κ) :
    (shown ws s).status = if s.status = .healthy then .unhealthy else s.status := by
  rw [shown, status_settled, reopened]
  split <;> rfl

theorem consecutiveFailures_shown (s : Server κ) :
    (shown ws s).consecutiveFailures = s.consecutiveFailures := by
  rw [shown, consecutiveFailures_settled, reopened]
  split <;> rfl

theorem workspaceCount_shown (s : Server κ) :
    (shown ws s).workspaceCount = ws.countP (·.serverId == s.serverId) := by
  have hslots := used_settled (reopened s) (usageOf ws s.serverId) .slots
  rw [usageOf, total_foldl_add, Usage.total_none, Nat.zero_add, List.map_map] at hslots
  have hones : ((ws.filter (·.serverId == s.serverId)).map
      ((·.needs .slots) ∘ Workspace.allocation)).sum = ws.countP (·.serverId == s.serverId) := by
    simp [Function.comp_def, Allocation.needs, List.countP_eq_length_filter]
  exact hslots.trans hones

theorem shown_eq_self {s : Server κ} (unwatched : s.status ≠ .healthy)
    (counted : drifted s (usageOf ws s.serverId) = false) : shown ws s = s := by
  rw [shown, settled, drifted_reopened, counted, reopened, if_neg unwatched]
  rfl

theorem usageOn_loaded (ss : List (Server κ))
    (sorted : (ws.map Workspace.containerId).Pairwise (· < ·)) (id : String) :
    (loaded ss ws).usageOn id = usageOf ws id := by
  rw [usageOn, allocationsOn, values_loaded ss sorted]
  simp [loaded, usageOf]

/-- **The servers of a registry that was opened**, in the order in which they were read. -/
theorem listServers_opened (servers : (ss.map Server.serverId).Pairwise (· < ·))
    (workspaces : (ws.map Workspace.containerId).Pairwise (· < ·)) :
    (loaded ss ws).reconcile.registry.listServers = ss.map (shown ws) := by
  rw [listServers_reconcile (keyed_loaded ss ws), listServers_loaded ws servers, List.map_map]
  refine List.map_congr_left fun s _ => ?_
  rw [Function.comp_apply, usageOn_loaded ss workspaces, serverId_reopened]
  rfl

end Registry

variable [Quantity κ]

/-! ## What is left -/

namespace Store

variable {store : Store κ} {ss : List (Server κ)} {ws : List (Workspace κ)}

theorem applyAll_putServers (store : Store κ) (vs : List (Server κ)) :
    store.applyAll (vs.map .putServer) =
      { store with
        servers := vs.foldl (fun t v => t.insert v.serverId v.encode) store.servers } := by
  induction vs generalizing store with
  | nil => rfl
  | cons v rest ih => exact ih _

/-- What a store reads as, in the order of the ids. -/
structure Holds (store : Store κ) (ss : List (Server κ)) (ws : List (Workspace κ)) : Prop where
  servers : store.listServers = .ok ss
  workspaces : store.listWorkspaces = .ok ws
  serverIds : ss.map Server.serverId = store.servers.keys
  containerIds : ws.map Workspace.containerId = store.workspaces.keys

/-- What opening leaves of a store: the rows of the servers whose counters drifted are written anew, as
the servers are shown, and all others stay. -/
structure Settled (store : Store κ) (ss : List (Server κ)) (ws : List (Workspace κ))
    (after : Store κ) : Prop where
  workspaces : after.workspaces = store.workspaces
  rows : ∀ s ∈ ss, after.servers.get? s.serverId =
    if Registry.drifted s (Registry.usageOf ws s.serverId) then some (Registry.shown ws s).encode
    else store.servers.get? s.serverId
  absent : ∀ id, store.servers.get? id = none → after.servers.get? id = none

namespace Holds

variable (h : store.Holds ss ws)

include h

theorem servers_sorted : (ss.map Server.serverId).Pairwise (· < ·) :=
  h.serverIds ▸ store.servers.keys_sorted

theorem workspaces_sorted : (ws.map Workspace.containerId).Pairwise (· < ·) :=
  h.containerIds ▸ store.workspaces.keys_sorted

theorem ofStore : Ledger.ofStore store = .ok
    ⟨(Registry.loaded ss ws).reconcile.registry,
      some (store.applyAll (Registry.loaded ss ws).reconcile.writes)⟩ :=
  Ledger.ofStore_eq_ok.2
    ⟨_, Registry.load_eq_ok.2 ⟨ss, h.servers, ws, h.workspaces, _, rfl, rfl⟩, rfl⟩

/-- The row under an id after opening. -/
theorem get?_opened (id : String) :
    (store.applyAll (Registry.loaded ss ws).reconcile.writes).servers.get? id =
      match (Registry.loaded ss ws).servers.get? id with
      | none => store.servers.get? id
      | some s =>
        if Registry.drifted s (Registry.usageOf ws id) then
          some (Registry.corrected s (Registry.usageOf ws id)).encode
        else store.servers.get? id := by
  rw [Registry.writes_reconcile, applyAll_putServers, ← Registry.usageOn_loaded ss h.workspaces_sorted]
  exact Registry.get?_foldl_corrections (Registry.keyed_loaded ss ws) Server.encode _ id

theorem settled :
    store.Settled ss ws (store.applyAll (Registry.loaded ss ws).reconcile.writes) where
  workspaces := by rw [Registry.writes_reconcile, applyAll_putServers]
  rows s hs := by
    have hloaded := (Registry.get?_loaded ws h.servers_sorted).2 ⟨s, hs, rfl, rfl⟩
    rw [h.get?_opened, hloaded]
    dsimp only
    rw [Registry.drifted_reopened, Registry.shown, Registry.settled, Registry.drifted_reopened]
    split <;> rfl
  absent id missing := by
    have hnone : (Registry.loaded ss ws).servers.get? id = none := by
      rw [Option.eq_none_iff_forall_ne_some]
      intro s hs
      obtain ⟨v, hv, rfl, -⟩ := (Registry.get?_loaded ws h.servers_sorted).1 hs
      have hkey : v.serverId ∈ store.servers.keys := h.serverIds ▸ List.mem_map_of_mem hv
      obtain ⟨e, he, heq⟩ := List.mem_map.1 hkey
      rw [← heq, Table.get?_eq_some_iff.2 he] at missing
      cases missing
    rw [h.get?_opened, hnone]
    exact missing

end Holds

/-- Where no counter drifted every row stays. -/
theorem Settled.eq_of_counted {after : Store κ} (settled : store.Settled ss ws after)
    (h : store.Holds ss ws)
    (counted : ∀ s ∈ ss, Registry.drifted s (Registry.usageOf ws s.serverId) = false) :
    after = store := by
  have hservers : after.servers = store.servers := by
    refine Table.ext_get? fun id => ?_
    cases hrow : store.servers.get? id with
    | none => exact settled.absent id hrow
    | some row =>
      have hmem : id ∈ ss.map Server.serverId := by
        rw [h.serverIds]
        exact List.mem_map_of_mem (Table.get?_eq_some_iff.1 hrow)
      obtain ⟨s, hs, rfl⟩ := List.mem_map.1 hmem
      rw [settled.rows s hs, counted s hs, if_neg (by decide), hrow]
  obtain ⟨servers, workspaces⟩ := after
  cases hservers
  cases settled.workspaces
  rfl

/-- What is read of a store that a run has left stands under its ids. -/
theorem Sound.holds (sound : store.Sound) (servers : store.listServers = .ok ss)
    (workspaces : store.listWorkspaces = .ok ws) : store.Holds ss ws := by
  obtain ⟨m, hsound, hmirrors⟩ := sound
  refine ⟨servers, workspaces, Table.keys_of_mapM servers fun e he v => ?_,
    Table.keys_of_mapM workspaces fun e he w => ?_⟩
  · exact Registry.serverId_of_read hmirrors hsound.booked (Table.get?_eq_some_iff.2 he)
  · exact Registry.containerId_of_read hmirrors hsound.booked (Table.get?_eq_some_iff.2 he)

theorem Sound.holds_of_opens {ledger : Ledger κ} (sound : store.Sound)
    (opens : Ledger.ofStore store = .ok ledger) : ∃ ss ws, store.Holds ss ws := by
  obtain ⟨c, hload, -⟩ := Ledger.ofStore_eq_ok.1 opens
  obtain ⟨ss, hservers, ws, hworkspaces, -⟩ := Registry.load_eq_ok.1 hload
  exact ⟨ss, ws, sound.holds hservers hworkspaces⟩

end Store

/-! ## The report -/

/-- What was saved under a path is what opens there. -/
theorem Disk.openStore_saveStore (d : Disk) (path : String) (store : Store Float) :
    (d.saveStore path store).openStore path = some store := by
  have hothers : (d.stores.filter (·.1 != Files.place path)).lookup (Files.place path) = none := by
    rw [List.lookup_eq_none_iff]
    intro e he
    exact bne_iff_ne.2 (bne_iff_ne.1 (List.mem_filter.1 he).2).symm
  simp only [saveStore, openStore, List.lookup_append, hothers, Option.none_or,
    List.lookup_cons_self]

namespace Service

/-- The report that shows these servers and workspaces. -/
def report (servers : List (Server Float)) (workspaces : List (Workspace Float)) :
    Document Float :=
  .record [("servers", .list (servers.map fun s => s.health.encode)),
    ("workspaces", .list (workspaces.map fun w => w.health.encode))]

variable {ids : Registry Float → String → Prop} {disk : Disk} {dataDir : String} {files : Files}
  {store : Store Float}

section Opening

variable (makes : disk.files.createDirectory dataDir = .ok files)
  (opens : ({ disk with files } : Disk).openStore (joinPath dataDir storeName) = some store)

include makes opens

theorem status_of_unread {e : RegistryError} (reads : Ledger.ofStore store = .error e) :
    ((status dataDir).carryOut disk).1 = .error (.registry e) ∧
      ((status dataDir).carryOut disk).2.disk = { disk with files } := by
  obtain ⟨hresult, hdisk⟩ := openLedger_of_unread (s := ⟨disk, []⟩) makes opens reads
  simp only [status, Work.carryOut, Work.run_bind, hresult]
  exact ⟨trivial, hdisk⟩

theorem status_of_holds {ss : List (Server Float)} {ws : List (Workspace Float)}
    (holds : store.Holds ss ws) :
    ((status dataDir).carryOut disk).1 = .ok (report (ss.map (Registry.shown ws)) ws) ∧
      ∃ after, store.Settled ss ws after ∧ ((status dataDir).carryOut disk).2.disk =
        ({ disk with files } : Disk).saveStore (joinPath dataDir storeName) after := by
  obtain ⟨hresult, hdisk⟩ := run_openLedger (s := ⟨disk, []⟩) makes opens holds.ofStore rfl
  have hreport : ∀ kept, statusReport ⟨(Registry.loaded ss ws).reconcile.registry, kept⟩ =
      report (ss.map (Registry.shown ws)) ws := by
    intro kept
    rw [statusReport, Registry.listServers_opened holds.servers_sorted holds.workspaces_sorted]
    exact congrArg (report (ss.map (Registry.shown ws)))
      (Registry.listWorkspaces_loaded ss holds.workspaces_sorted)
  simp only [status, Work.carryOut, Work.run_bind, hresult]
  exact ⟨congrArg Except.ok (hreport _), _, holds.settled, hdisk⟩

end Opening

/-- **What is reported of a store, and what it is then.** On whatever a run has left: a report is made if
and only if the numbers that were written can be read, and without one no row changes. It lists in the
order of the ids every server and every workspace that is read. A workspace is shown as it was read. A
server is shown with the failures that were read and the number of workspaces that are recorded on it, and
never as healthy; where its counters were others its row is written anew. So the report is of what is
persisted, and leaves all rows, if no server is persisted as healthy and no counter has drifted. -/
theorem status_reports (reached : Reached ids (.stopped store))
    (makes : disk.files.createDirectory dataDir = .ok files)
    (opens : ({ disk with files } : Disk).openStore (joinPath dataDir storeName) = some store) :
    (∃ m : Registry Float, m.Sound [] ∧ store.Mirrors m ∧
      ((∃ document, ((status dataDir).carryOut disk).1 = .ok document) ↔
        Registry.Written store m Quantity.Readable)) ∧
    (∀ e, ((status dataDir).carryOut disk).1 = .error e →
      ((status dataDir).carryOut disk).2.disk.openStore (joinPath dataDir storeName) =
        some store) ∧
    ∀ document, ((status dataDir).carryOut disk).1 = .ok document → ∃ ss ws after,
      store.Holds ss ws ∧ document = report (ss.map (Registry.shown ws)) ws ∧
      (∀ s ∈ ss,
        (Registry.shown ws s).status = (if s.status = .healthy then .unhealthy else s.status) ∧
        (Registry.shown ws s).consecutiveFailures = s.consecutiveFailures ∧
        (Registry.shown ws s).workspaceCount = ws.countP (·.serverId == s.serverId)) ∧
      ((status dataDir).carryOut disk).2.disk.openStore (joinPath dataDir storeName) =
        some after ∧
      store.Settled ss ws after ∧
      ((∀ s ∈ ss, s.status ≠ .healthy ∧
          Registry.drifted s (Registry.usageOf ws s.serverId) = false) →
        document = report ss ws ∧ after = store) := by
  have hsound : store.Sound := reached.sound
  obtain ⟨m, hm, hmirrors⟩ := reached.sound
  have hopens : (∃ document, ((status dataDir).carryOut disk).1 = .ok document) ↔
      ∃ ledger, Ledger.ofStore store = .ok ledger := by
    cases hstore : Ledger.ofStore store with
    | error e =>
      rw [(status_of_unread makes opens hstore).1]
      exact ⟨nofun, nofun⟩
    | ok ledger =>
      obtain ⟨ss, ws, holds⟩ := hsound.holds_of_opens hstore
      exact iff_of_true ⟨_, (status_of_holds makes opens holds).1⟩ ⟨ledger, rfl⟩
  refine ⟨⟨m, hm, hmirrors, ?readable⟩, ?unread, ?reported⟩
  case readable => rw [hopens, exists_ofStore, Registry.exists_load_iff hmirrors hm]
  case unread =>
    intro e he
    cases hstore : Ledger.ofStore store with
    | error cause => rw [(status_of_unread makes opens hstore).2, opens]
    | ok ledger =>
      obtain ⟨document, hdocument⟩ := hopens.2 ⟨ledger, hstore⟩
      rw [hdocument] at he
      cases he
  case reported =>
    intro document hdocument
    obtain ⟨ledger, hstore⟩ := hopens.1 ⟨document, hdocument⟩
    obtain ⟨ss, ws, holds⟩ := hsound.holds_of_opens hstore
    obtain ⟨hresult, after, hsettled, hdisk⟩ := status_of_holds makes opens holds
    cases hdocument.symm.trans hresult
    refine ⟨ss, ws, after, holds, rfl, fun s _ => ⟨Registry.status_shown s,
      Registry.consecutiveFailures_shown s, Registry.workspaceCount_shown s⟩, ?_, hsettled, ?_⟩
    · rw [hdisk, Disk.openStore_saveStore]
    · intro steady
      have hsame : ss.map (Registry.shown ws) = ss := by
        conv_rhs => rw [← List.map_id ss]
        exact List.map_congr_left fun s hs =>
          Registry.shown_eq_self (steady s hs).1 (steady s hs).2
      rw [hsame]
      exact ⟨rfl, hsettled.eq_of_counted holds fun s hs => (steady s hs).2⟩

end Service

/-! ## Two reports -/

namespace SampleReport

/-- A server with one workspace, which no daemon has answered for yet. -/
def hosting : Ledger Float × List (Reservation Float) :=
  Ledger.after (⟨.empty, some .empty⟩, [])
    [.addServer SampleRun.config, .reserve "a" SampleRun.allocation, .commit SampleRun.hold "c" 0]

/-- A server whose daemon has answered, with a hold. -/
def holding : Ledger Float × List (Reservation Float) :=
  Ledger.after (⟨.empty, some .empty⟩, [])
    [.addServer SampleRun.config, .recordServerCheck "a" ⟨.healthy, 0, none, none, 0⟩,
      .reserve "a" SampleRun.allocation]

theorem hosting_reached : Reached Registry.Unrecorded (.running hosting.1 hosting.2) := by
  refine .performed (.performed (.performed SampleRun.new_reached ?_) ?_) ?_
  · exact SampleRun.config_inRange
  · exact ⟨SampleRun.allocation_inRange,
      Ledger.numberLeft_after _ [.addServer SampleRun.config] (by decide)⟩
  · exact ⟨by decide +kernel, show Table.get? _ _ = none by decide +kernel, by decide⟩

theorem holding_reached : Reached Registry.Unrecorded (.running holding.1 holding.2) := by
  refine .performed (.performed (.performed SampleRun.new_reached ?_) ?_) ?_
  · exact SampleRun.config_inRange
  · exact ⟨by decide, nofun, by decide⟩
  · exact ⟨SampleRun.allocation_inRange, Ledger.numberLeft_after _ [.addServer SampleRun.config,
      .recordServerCheck "a" ⟨.healthy, 0, none, none, 0⟩] (by decide)⟩

/-- A disk with nothing but a store. -/
def disk (store : Store Float) : Disk :=
  ⟨⟨[(["data"], .directory)]⟩, [(SampleStart.place, store)]⟩

theorem makes (store : Store Float) :
    (disk store).files.createDirectory "data" = .ok (disk store).files := by
  rw [Files.createDirectory, SampleStart.steps_data]
  rfl

theorem opens (store : Store Float) :
    (disk store).openStore (joinPath "data" Service.storeName) = some store := by
  rw [Disk.openStore, SampleStart.place_store]
  rfl

end SampleReport

open SampleReport Service in
/-- The report of a server with its workspace. -/
theorem status_reports_hosting : ∃ (store : Store Float) (s : Server Float) (w : Workspace Float),
    hosting.1.store = some store ∧ store.Holds [s] [w] ∧
    ((status "data").carryOut (disk store)).1 = .ok (report [s] [w]) ∧
    ((status "data").carryOut (disk store)).2.disk.openStore (joinPath "data" storeName) =
      some store := by
  have hrun : hosting.1.store.bind (fun store => store.listServers.toOption.bind fun ss =>
      store.listWorkspaces.toOption.map fun ws =>
        (ss.map fun s => (s.status, Registry.drifted s (Registry.usageOf ws s.serverId)),
          ws.length)) = some ([(.unhealthy, false)], 1) := by
    decide +kernel
  obtain ⟨store, hstore, hrun⟩ := Option.bind_eq_some_iff.1 hrun
  obtain ⟨ss, hss, hrun⟩ := Option.bind_eq_some_iff.1 hrun
  obtain ⟨ws, hws, hrun⟩ := Option.map_eq_some_iff.1 hrun
  obtain ⟨hservers, hworkspaces⟩ := Prod.mk.inj hrun
  obtain ⟨s, rfl, hs⟩ := List.map_eq_singleton_iff.1 hservers
  obtain ⟨w, rfl⟩ := List.length_eq_one_iff.1 hworkspaces
  obtain ⟨⟨m, hm, hmirrors, hreadable⟩, -, hreports⟩ :=
    status_reports (hosting_reached.stopped hstore) (makes store) (opens store)
  obtain ⟨document, hdocument⟩ := hreadable.2 ((Registry.exists_load_iff hmirrors hm).1
    ⟨_, Registry.load_eq_ok.2
      ⟨_, eq_ok_of_toOption hss, _, eq_ok_of_toOption hws, _, rfl, rfl⟩⟩)
  obtain ⟨ss, ws, after, holds, -, -, hafter, -, hsteady⟩ := hreports document hdocument
  cases (eq_ok_of_toOption hss).symm.trans holds.servers
  cases (eq_ok_of_toOption hws).symm.trans holds.workspaces
  obtain ⟨rfl, hsame⟩ := hsteady fun s' hs' => by
    rw [List.mem_singleton.1 hs', (Prod.mk.inj hs).1]
    exact ⟨by decide, (Prod.mk.inj hs).2⟩
  exact ⟨store, s, w, hstore, holds, hdocument, hsame ▸ hafter⟩

open SampleReport Service in
/-- **A report of something else.** A server that is persisted as healthy, with a hold that is counted on
it, is reported as unhealthy and without one, and its row is written anew. -/
theorem status_misreports : ∃ (store after : Store Float) (s : Server Float)
    (document : Document Float),
    Reached Registry.Unrecorded (.stopped store) ∧ holding.1.store = some store ∧
    holding.1.registry.Finite = true ∧ store.Holds [s] [] ∧
    s.status = .healthy ∧ s.workspaceCount = 1 ∧
    ((status "data").carryOut (disk store)).1 = .ok document ∧ document ≠ report [s] [] ∧
    ((status "data").carryOut (disk store)).2.disk.openStore (joinPath "data" storeName) =
      some after ∧ after ≠ store := by
  have hrun : holding.1.store.bind (fun store => store.listServers.toOption.bind fun ss =>
      store.listWorkspaces.toOption.map fun ws =>
        (ss.map fun s => (s.serverId, s.status, s.workspaceCount,
          Registry.drifted s (Registry.usageOf ws s.serverId)), ws.length)) =
      some ([("a", .healthy, 1, true)], 0) := by
    decide +kernel
  obtain ⟨store, hstore, hrun⟩ := Option.bind_eq_some_iff.1 hrun
  obtain ⟨ss, hss, hrun⟩ := Option.bind_eq_some_iff.1 hrun
  obtain ⟨ws, hws, hrun⟩ := Option.map_eq_some_iff.1 hrun
  obtain ⟨hservers, hworkspaces⟩ := Prod.mk.inj hrun
  obtain ⟨s, rfl, hs⟩ := List.map_eq_singleton_iff.1 hservers
  cases List.length_eq_zero_iff.1 hworkspaces
  obtain ⟨hid, hs⟩ := Prod.mk.inj hs
  obtain ⟨hhealthy, hs⟩ := Prod.mk.inj hs
  obtain ⟨hcount, hdrifted⟩ := Prod.mk.inj hs
  have hreached := holding_reached.stopped hstore
  have hsound : store.Sound := hreached.sound
  have holds := hsound.holds (eq_ok_of_toOption hss) (eq_ok_of_toOption hws)
  obtain ⟨hdocument, after, hsettled, hdisk⟩ := status_of_holds (makes store) (opens store) holds
  refine ⟨store, after, s, _, hreached, hstore, by decide +kernel, holds, hhealthy, hcount,
    hdocument, ?_, by rw [hdisk, Disk.openStore_saveStore], ?_⟩
  · intro hsame
    simp only [report, List.map_cons, List.map_nil, ServerHealth.encode, Server.health,
      ServerStatus.encode, Document.record.injEq, Document.list.injEq, List.cons.injEq,
      Prod.mk.injEq, Document.text.injEq, true_and] at hsame
    obtain ⟨⟨⟨-, hstatus, -⟩, -⟩, -⟩ := hsame
    rw [Registry.status_shown, hhealthy, if_pos rfl] at hstatus
    exact absurd hstatus (by decide)
  · rintro rfl
    have hrow := hsettled.rows s List.mem_cons_self
    rw [hdrifted, if_pos rfl, hid] at hrow
    have hread : holding.1.store.bind (fun store => (store.servers.get? "a").bind fun row =>
        (Store.readRow Server.decode row).toOption.map Server.workspaceCount) = some 1 := by
      decide +kernel
    rw [hstore, Option.bind_some, hrow, Option.bind_some] at hread
    obtain ⟨v, hv, hone⟩ := Option.map_eq_some_iff.1 hread
    have hreread := (Store.readRow_server.1 (eq_ok_of_toOption hv)).2
    have hzero : (Registry.shown [] s).workspaceCount = 0 := Registry.workspaceCount_shown s
    rw [hreread] at hone
    exact absurd (hzero.symm.trans hone) (by decide)

end WorkspaceFleet
