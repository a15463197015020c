import WorkspaceFleet.Proofs.Revising
import WorkspaceFleet.Proofs.Vouching
import WorkspaceFleet.Proofs.WriteThrough

/-!
# WorkspaceFleet.Proofs.Commuting

The monitor and the accounting do not overwrite each other.

Both write whole records. A `MonitorWrite` records the check of a server or changes a workspace
record as the monitor does; an `Accounting` operation takes, resolves or gives back capacity, or
recomputes the counters. `Ledger.monitor_commutes` says that the two can be made in either order:
both answer the same, and the same is left in memory and in the store. Only where both name one
container does the order matter.

In memory a monitor's write revises the registry (`MonitorWrite.registry_change`), so accounting is
natural in it, and it sees nothing that accounting changes (`Accounting.sameSight`). In the store it
is enough that the same rows are written and that they stand for one registry (`Store.applyAll_eq`).
-/

namespace WorkspaceFleet

variable {κ : Type}

/-! ## Rows that are written -/

/-- A row of a store. -/
inductive Row where
  | server (id : String)
  | workspace (c : String)
  deriving DecidableEq

/-- The row that is written. -/
def Write.row : Write κ → Row
  | .putServer s => .server s.serverId
  | .deleteServer id => .server id
  | .putWorkspace w => .workspace w.containerId
  | .deleteWorkspace c => .workspace c

namespace Registry

theorem rest_absorb (r : Registry κ) (w : Write κ) : (r.absorb w).rest = r.rest.absorb w := by
  cases w <;> rfl

theorem rest_absorbAll (r : Registry κ) (ws : List (Write κ)) :
    (r.absorbAll ws).rest = r.rest.absorbAll ws := by
  induction ws generalizing r with
  | nil => rfl
  | cons w ws ih =>
    rw [absorbAll, List.foldl_cons, ← absorbAll, ih, rest_absorb]
    rfl

theorem absorbAll_append (r : Registry κ) (ws ws' : List (Write κ)) :
    r.absorbAll (ws ++ ws') = (r.absorbAll ws).absorbAll ws' :=
  List.foldl_append

/-- Two lists of writes one after the other, where each makes the tables of a registry. -/
theorem rest_absorbAll_append {r r₁ r₂ : Registry κ} {ws ws' : List (Write κ)}
    (first : (r.absorbAll ws).rest = r₁.rest) (second : (r₁.absorbAll ws').rest = r₂.rest) :
    (r.absorbAll (ws ++ ws')).rest = r₂.rest := by
  rw [absorbAll_append, rest_absorbAll, first, ← rest_absorbAll, second]

theorem get?_servers_absorb {r : Registry κ} {w : Write κ} {id : String}
    (other : w.row ≠ .server id) : (r.absorb w).servers.get? id = r.servers.get? id := by
  cases w with
  | putServer s => exact Table.get?_insert_of_ne fun h => other (congrArg Row.server h)
  | deleteServer j =>
    rw [absorb, Table.get?_erase, if_neg fun h => other (congrArg Row.server h)]
  | putWorkspace w => rfl
  | deleteWorkspace c => rfl

theorem get?_workspaces_absorb {r : Registry κ} {w : Write κ} {c : String}
    (other : w.row ≠ .workspace c) : (r.absorb w).workspaces.get? c = r.workspaces.get? c := by
  cases w with
  | putServer s => rfl
  | deleteServer j => rfl
  | putWorkspace w => exact Table.get?_insert_of_ne fun h => other (congrArg Row.workspace h)
  | deleteWorkspace j =>
    rw [absorb, Table.get?_erase, if_neg fun h => other (congrArg Row.workspace h)]

end Registry

namespace Store

variable [Quantity κ] {r : Registry κ}

theorem applyAll_append (store : Store κ) (ws ws' : List (Write κ)) :
    store.applyAll (ws ++ ws') = (store.applyAll ws).applyAll ws' :=
  List.foldl_append

theorem get?_servers_apply (store : Store κ) (r : Registry κ) (w : Write κ) (id : String) :
    (store.apply w).servers.get? id =
      if w.row = .server id then ((r.absorb w).servers.get? id).map Server.encode
      else store.servers.get? id := by
  cases w with
  | putServer s =>
    simp only [apply, Registry.absorb, Write.row, Table.get?_insert, Row.server.injEq]
    split <;> rfl
  | deleteServer j =>
    simp only [apply, Registry.absorb, Write.row, Table.get?_erase, Row.server.injEq]
    split <;> rfl
  | putWorkspace w => rfl
  | deleteWorkspace c => rfl

theorem get?_workspaces_apply (store : Store κ) (r : Registry κ) (w : Write κ) (c : String) :
    (store.apply w).workspaces.get? c =
      if w.row = .workspace c then ((r.absorb w).workspaces.get? c).map Workspace.encode
      else store.workspaces.get? c := by
  cases w with
  | putServer s => rfl
  | deleteServer j => rfl
  | putWorkspace w =>
    simp only [apply, Registry.absorb, Write.row, Table.get?_insert, Row.workspace.injEq]
    split <;> rfl
  | deleteWorkspace j =>
    simp only [apply, Registry.absorb, Write.row, Table.get?_erase, Row.workspace.injEq]
    split <;> rfl

/-- After some writes, a row that was written is what a registry makes of it that took them in as
well, and any other is as before. -/
theorem row_applyAll {α : Type} {row : Row} (look : Store κ → α) (made : Registry κ → α)
    (written : ∀ (store : Store κ) (r : Registry κ) (w : Write κ),
      look (store.apply w) = if w.row = row then made (r.absorb w) else look store)
    (kept : ∀ (r : Registry κ) (w : Write κ), w.row ≠ row → made (r.absorb w) = made r)
    (store : Store κ) (r : Registry κ) (ws : List (Write κ)) :
    look (store.applyAll ws) =
      if row ∈ ws.map Write.row then made (r.absorbAll ws) else look store := by
  induction ws using List.reverseRecOn with
  | nil => rfl
  | append_singleton ws w ih =>
    rw [applyAll_append, Registry.absorbAll_append, List.map_append, List.map_singleton]
    show look ((store.applyAll ws).apply w) =
      if _ then made ((r.absorbAll ws).absorb w) else _
    rw [written _ (r.absorbAll ws)]
    by_cases here : w.row = row
    · rw [if_pos here, if_pos (List.mem_append_right _ (List.mem_singleton.2 here.symm))]
    · rw [if_neg here, ih, kept _ w here]
      have hmem : row ∈ ws.map Write.row ++ [w.row] ↔ row ∈ ws.map Write.row := by
        simp [Ne.symm here]
      simp only [hmem]

theorem get?_servers_applyAll (store : Store κ) (r : Registry κ) (ws : List (Write κ))
    (id : String) :
    (store.applyAll ws).servers.get? id =
      if Row.server id ∈ ws.map Write.row then ((r.absorbAll ws).servers.get? id).map Server.encode
      else store.servers.get? id :=
  row_applyAll (·.servers.get? id) (fun r => (r.servers.get? id).map Server.encode)
    (fun store r w => get?_servers_apply store r w id)
    (fun _ _ other => congrArg _ (Registry.get?_servers_absorb other)) store r ws

theorem get?_workspaces_applyAll (store : Store κ) (r : Registry κ) (ws : List (Write κ))
    (c : String) :
    (store.applyAll ws).workspaces.get? c =
      if Row.workspace c ∈ ws.map Write.row then
        ((r.absorbAll ws).workspaces.get? c).map Workspace.encode
      else store.workspaces.get? c :=
  row_applyAll (·.workspaces.get? c) (fun r => (r.workspaces.get? c).map Workspace.encode)
    (fun store r w => get?_workspaces_apply store r w c)
    (fun _ _ other => congrArg _ (Registry.get?_workspaces_absorb other)) store r ws

/-- **Two lists of writes come to the same** in every store if they write the same rows and make the
same tables of some registry. -/
theorem applyAll_eq {ws ws' : List (Write κ)} (store : Store κ)
    (rows : ∀ row, row ∈ ws.map Write.row ↔ row ∈ ws'.map Write.row)
    (tables : (r.absorbAll ws).rest = (r.absorbAll ws').rest) :
    store.applyAll ws = store.applyAll ws' := by
  have hservers : (r.absorbAll ws).rest.servers = (r.absorbAll ws').rest.servers := by rw [tables]
  have hworkspaces : (r.absorbAll ws).rest.workspaces = (r.absorbAll ws').rest.workspaces := by
    rw [tables]
  simp only [Registry.rest] at hservers hworkspaces
  have hs : (store.applyAll ws).servers = (store.applyAll ws').servers := by
    refine Table.ext_get? fun id => ?_
    rw [get?_servers_applyAll store r, get?_servers_applyAll store r, hservers]
    simp only [rows]
  have hw : (store.applyAll ws).workspaces = (store.applyAll ws').workspaces := by
    refine Table.ext_get? fun c => ?_
    rw [get?_workspaces_applyAll store r, get?_workspaces_applyAll store r, hworkspaces]
    simp only [rows]
  exact congrArg₂ Store.mk hs hw

end Store

/-! ## The monitor's writes -/

/-- What the monitor notes of a workspace: what came of a probe, or that its server was not asked.
-/
inductive Note (κ : Type) where
  | probed (config : MonitorConfig) (now : Nat) (result : CheckResult) (error : Option String)
      (stats : Option (ContainerStats κ))
  | unreached (now : Nat) (reason : String)

def Note.revise : Note κ → Workspace κ → Workspace κ
  | .probed config now result error stats => Monitor.probed config now result error stats
  | .unreached now reason => Monitor.unreached now reason

theorem Note.samePlace (n : Note κ) (w : Workspace κ) : w.SamePlace (n.revise w) := by
  cases n with
  | probed config now result error stats =>
    exact Monitor.samePlace_probed config now result error stats w
  | unreached now reason => exact ⟨rfl, rfl, rfl⟩

/-- A write of the monitor: the check of a server, or a note on a workspace. -/
inductive MonitorWrite (κ : Type) where
  | checked (id : String) (check : ServerCheck)
  | noted (c : String) (note : Note κ)

namespace MonitorWrite

def Answer : MonitorWrite κ → Type
  | .checked _ _ => Except RegistryError ServerStatus
  | .noted _ _ => Except RegistryError (Option (Workspace κ))

/-- The container whose record is written. -/
def container? : MonitorWrite κ → Option String
  | .checked _ _ => none
  | .noted c _ => some c

def change (r : Registry κ) : (m : MonitorWrite κ) → Change κ m.Answer
  | .checked id check => r.recordServerCheck id check
  | .noted c note => r.updateWorkspace c note.revise

/-- What the write does to a server. -/
def server : MonitorWrite κ → Server κ → Server κ
  | .checked id check, s => if s.serverId = id then Registry.checked s check else s
  | .noted _ _, s => s

/-- What the write does to a workspace. -/
def workspace : MonitorWrite κ → Workspace κ → Workspace κ
  | .checked _ _, w => w
  | .noted c note, w => if w.containerId = c then note.revise w else w

theorem keepsPlace (m : MonitorWrite κ) : Workspace.KeepsPlace m.workspace := by
  intro w
  cases m with
  | checked id check => exact ⟨rfl, rfl, rfl⟩
  | noted c note =>
    rw [workspace]
    split
    · exact note.samePlace w
    · exact ⟨rfl, rfl, rfl⟩

/-- Only the record that is named is written. -/
theorem workspace_of_ne {m : MonitorWrite κ} {w : Workspace κ}
    (other : m.container? ≠ some w.containerId) : m.workspace w = w := by
  cases m with
  | checked id check => rfl
  | noted c note => exact if_neg fun h => other (congrArg some h.symm)

/-- **In memory** a write of the monitor revises the registry. -/
theorem registry_change {r : Registry κ} (keyed : r.servers.Keyed Server.serverId)
    (filed : r.workspaces.Keyed Workspace.containerId) (m : MonitorWrite κ) :
    (m.change r).registry = r.revised m.server m.workspace := by
  cases m with
  | checked id check =>
    have hworkspaces : (r.workspaces.map fun _ => (checked id check).workspace) = r.workspaces :=
      Table.map_eq_self fun _ _ _ => rfl
    simp only [change, Registry.revised, hworkspaces, Registry.recordServerCheck]
    cases found : r.servers.get? id with
    | none =>
      exact congrArg (fun t => { r with servers := t })
        (keyed.map_ite_of_none found (Registry.checked · check)).symm
    | some s =>
      exact congrArg (fun t => { r with servers := t })
        (keyed.map_ite_of_get? found (Registry.checked · check)).symm
  | noted c note =>
    have hservers : (r.servers.map fun _ => (noted c note).server) = r.servers :=
      Table.map_eq_self fun _ _ _ => rfl
    simp only [change, Registry.revised, hservers, Registry.updateWorkspace]
    cases found : r.workspaces.get? c with
    | none =>
      exact congrArg (fun t => { r with workspaces := t })
        (filed.map_ite_of_none found note.revise).symm
    | some w =>
      exact congrArg (fun t => { r with workspaces := t })
        (filed.map_ite_of_get? found note.revise).symm

variable [Quantity κ]

theorem keepsCapacity (m : MonitorWrite κ) : Server.KeepsCapacity m.server := by
  cases m with
  | checked id check =>
    refine ⟨fun s => ?_, fun s => ?_, fun s a => ?_, fun s a => ?_, fun s u => ?_, fun s a => ?_,
      fun s a => ?_, fun s u => ?_⟩
    -- no operation changes the id, so the check is recorded of the same server before and after
    · show (if s.serverId = id then Registry.checked s check else s).serverId = s.serverId
      split <;> rfl
    · show (if s.serverId = id then Registry.checked s check else s).workspaceCount = _
      split <;> rfl
    · show (if s.serverId = id then Registry.checked s check else s).fits a = _
      split <;> rfl
    · show (if s.serverId = id then Registry.checked s check else s).underflow? a = _
      split <;> rfl
    · show Registry.drifted (if s.serverId = id then Registry.checked s check else s) u = _
      split <;> rfl
    · show (if s.serverId = id then Registry.checked s check else s).apply a =
        if s.serverId = id then Registry.checked (s.apply a) check else s.apply a
      split <;> rfl
    · show (if s.serverId = id then Registry.checked s check else s).retract a =
        if s.serverId = id then Registry.checked (s.retract a) check else s.retract a
      split <;> rfl
    · show Registry.corrected (if s.serverId = id then Registry.checked s check else s) u =
        if s.serverId = id then Registry.checked (Registry.corrected s u) check
        else Registry.corrected s u
      split <;> rfl
  | noted c note =>
    exact ⟨fun _ => rfl, fun _ => rfl, fun _ _ => rfl, fun _ _ => rfl, fun _ _ => rfl,
      fun _ _ => rfl, fun _ _ => rfl, fun _ _ => rfl⟩

theorem rest_absorbAll {r : Registry κ} (keyed : r.servers.Keyed Server.serverId)
    (filed : r.workspaces.Keyed Workspace.containerId) (m : MonitorWrite κ) :
    (r.absorbAll (m.change r).writes).rest = (m.change r).registry.rest := by
  cases m with
  | checked id check =>
    exact Registry.Act.rest_absorbAll keyed filed
      (show (Registry.Act.made (.recordServerCheck id check)).KeepsContainer from trivial)
  | noted c note =>
    exact Registry.Act.rest_absorbAll keyed filed
      (show (Registry.Act.made (.updateWorkspace c note.revise)).KeepsContainer from
        fun w => (note.samePlace w).containerId)

/-- Both registries look the same to the write, but for what it replaces. -/
structure SameSight (m : MonitorWrite κ) (r r' : Registry κ) : Prop where
  status : ∀ id, (r'.servers.get? id).map Server.status = (r.servers.get? id).map Server.status
  record : ∀ c, m.container? = some c → r'.workspaces.get? c = r.workspaces.get? c

namespace SameSight

variable {m : MonitorWrite κ} {r r' : Registry κ}

omit [Quantity κ] in
theorem answer (h : m.SameSight r r') : (m.change r').result = (m.change r).result := by
  cases m with
  | checked id check =>
    have hstatus := h.status id
    simp only [change, Registry.recordServerCheck]
    cases hr : r.servers.get? id with
    | none =>
      rw [hr, Option.map_none, Option.map_eq_none_iff] at hstatus
      rw [hstatus]
      rfl
    | some s =>
      rw [hr, Option.map_some, Option.map_eq_some_iff] at hstatus
      obtain ⟨s', hs', hsame⟩ := hstatus
      rw [hs']
      exact congrArg Except.ok hsame
  | noted c note =>
    simp only [change, Registry.updateWorkspace, h.record c rfl]
    cases r.workspaces.get? c <;> rfl

omit [Quantity κ] in
/-- The same rows are written. -/
theorem rows (h : m.SameSight r r') (keyed : r.servers.Keyed Server.serverId)
    (keyed' : r'.servers.Keyed Server.serverId) :
    (m.change r').writes.map Write.row = (m.change r).writes.map Write.row := by
  cases m with
  | checked id check =>
    have hstatus := h.status id
    simp only [change, Registry.recordServerCheck]
    cases hr : r.servers.get? id with
    | none =>
      rw [hr, Option.map_none, Option.map_eq_none_iff] at hstatus
      rw [hstatus]
      rfl
    | some s =>
      rw [hr, Option.map_some, Option.map_eq_some_iff] at hstatus
      obtain ⟨s', hs', -⟩ := hstatus
      rw [hs']
      exact congrArg (fun i => [Row.server i]) ((keyed' id s' hs').trans (keyed id s hr).symm)
  | noted c note =>
    simp only [change, Registry.updateWorkspace, h.record c rfl]
    cases r.workspaces.get? c <;> rfl

end SameSight
end MonitorWrite

/-! ## Accounting -/

/-- An operation that takes, resolves or gives back capacity, or recomputes the counters. -/
inductive Accounting (κ : Type) where
  | reserve (id : String) (allocation : Allocation κ)
  | release (hold : Reservation κ)
  | commit (hold : Reservation κ) (c : String) (startedAt : Nat)
  | removeWorkspace (c : String)
  | reconcile

namespace Accounting

def Answer : Accounting κ → Type
  | .reserve _ _ => Except RegistryError (Reservation κ)
  | .release _ => Except RegistryError Bool
  | .commit _ _ _ => Except RegistryError (Workspace κ)
  | .removeWorkspace _ => Except RegistryError (Option (Workspace κ))
  | .reconcile => Except RegistryError (List UsageCorrection)

/-- The container whose record is put in or taken out. -/
def container? : Accounting κ → Option String
  | .commit _ c _ => some c
  | .removeWorkspace c => some c
  | _ => none

def call : Accounting κ → Registry.Call κ
  | .reserve id a => .reserve id a
  | .release hold => .release hold
  | .commit hold c now => .commit hold c now
  | .removeWorkspace c => .removeWorkspace c
  | .reconcile => .reconcile

variable [Quantity κ]

def change (r : Registry κ) : (a : Accounting κ) → Change κ a.Answer
  | .reserve id a => r.reserve id a
  | .release hold => r.release hold
  | .commit hold c now => r.commit hold c now
  | .removeWorkspace c => r.removeWorkspace c
  | .reconcile => r.reconcile

theorem registry_call (r : Registry κ) (a : Accounting κ) :
    (a.call.change r).registry = (a.change r).registry := by
  cases a <;> rfl

theorem writes_call (r : Registry κ) (a : Accounting κ) :
    (a.call.change r).writes = (a.change r).writes := by
  cases a <;> rfl

theorem rest_absorbAll {r : Registry κ} (keyed : r.servers.Keyed Server.serverId)
    (filed : r.workspaces.Keyed Workspace.containerId) (a : Accounting κ) :
    (r.absorbAll (a.change r).writes).rest = (a.change r).registry.rest := by
  have hkeeps : (Registry.Act.made a.call).KeepsContainer := by cases a <;> trivial
  rw [← registry_call, ← writes_call]
  exact Registry.Act.rest_absorbAll keyed filed hkeeps

theorem standing {r : Registry κ} (keyed : r.servers.Keyed Server.serverId) (a : Accounting κ) :
    r.servers.Matches Server.SameStanding (a.change r).registry.servers := by
  have hleaves : a.call.LeavesServers := by cases a <;> trivial
  rw [← registry_call]
  exact Registry.Call.standing keyed hleaves

/-- **Accounting does not see** what the monitor writes. -/
theorem change_revised {r : Registry κ} (filed : r.workspaces.Keyed Workspace.containerId)
    (a : Accounting κ) (m : MonitorWrite κ)
    (apart : ∀ c, a.container? = some c → m.container? ≠ some c) :
    a.change (r.revised m.server m.workspace) =
      (a.change r).revised m.server m.workspace := by
  cases a with
  | reserve id a => exact Registry.reserve_revised m.keepsCapacity r id a
  | release hold => exact Registry.release_revised m.keepsCapacity r hold
  | commit hold c now =>
    exact Registry.commit_revised r hold (MonitorWrite.workspace_of_ne (apart c rfl))
  | removeWorkspace c =>
    have hsame : (r.removeWorkspace c).result.map (Option.map m.workspace) =
        (r.removeWorkspace c).result := by
      cases hw : r.workspaces.get? c with
      | none =>
        rw [Registry.removeWorkspace_of_none hw]
        rfl
      | some w =>
        rw [Registry.removeWorkspace_result_of_some hw]
        have hother : m.workspace w = w :=
          MonitorWrite.workspace_of_ne (filed c w hw ▸ apart c rfl)
        exact congrArg (fun v => Except.ok (some v)) hother
    have hrevised := Registry.removeWorkspace_revised m.keepsCapacity m.keepsPlace r c
    rw [hsame] at hrevised
    exact hrevised
  | reconcile => exact Registry.reconcile_revised m.keepsCapacity m.keepsPlace r

/-- **The monitor does not see** what accounting changes. -/
theorem sameSight {r : Registry κ} (keyed : r.servers.Keyed Server.serverId) (a : Accounting κ)
    (m : MonitorWrite κ) (apart : ∀ c, a.container? = some c → m.container? ≠ some c) :
    m.SameSight r (a.change r).registry where
  status id := by
    rcases standing keyed a id with ⟨hr, hr'⟩ | ⟨s, s', hs, hs', same⟩
    · rw [hr, hr']
    · rw [hs, hs', Option.map_some, Option.map_some, same.status]
  record c hc := by
    cases a with
    | reserve id a => exact congrArg (·.get? c) (Registry.workspaces_reserve r id a)
    | release hold => exact congrArg (·.get? c) (Registry.workspaces_release r hold)
    | commit hold j now =>
      have hj : j ≠ c := fun h => apart j rfl (h ▸ hc)
      simp only [change, Registry.workspaces_commit]
      split
      · exact Table.get?_insert_of_ne hj
      · rfl
    | removeWorkspace j =>
      have hj : j ≠ c := fun h => apart j rfl (h ▸ hc)
      simp only [change, Registry.workspaces_removeWorkspace, Table.get?_erase, if_neg hj]
    | reconcile => rfl

theorem keyed {r : Registry κ} (keyed : r.servers.Keyed Server.serverId) (a : Accounting κ) :
    (a.change r).registry.servers.Keyed Server.serverId := by
  intro id s' hs'
  obtain ⟨s, hs, same⟩ := (standing keyed a).some_right hs'
  rw [same.serverId, keyed id s hs]

theorem filed {r : Registry κ} (filed : r.workspaces.Keyed Workspace.containerId)
    (a : Accounting κ) : (a.change r).registry.workspaces.Keyed Workspace.containerId := by
  cases a with
  | reserve id a =>
    rw [change, Registry.workspaces_reserve]
    exact filed
  | release hold =>
    rw [change, Registry.workspaces_release]
    exact filed
  | commit hold c now =>
    rw [change, Registry.workspaces_commit]
    split
    · exact filed.insert rfl
    · exact filed
  | removeWorkspace c =>
    rw [change, Registry.workspaces_removeWorkspace]
    exact filed.erase c
  | reconcile => exact filed

end Accounting

/-! ## Either order -/

theorem Write.rows_revised {f : Server κ → Server κ} {g : Workspace κ → Workspace κ}
    (ids : ∀ s, (f s).serverId = s.serverId) (places : Workspace.KeepsPlace g)
    (ws : List (Write κ)) : (ws.map (Write.revised f g)).map Write.row = ws.map Write.row := by
  rw [List.map_map]
  refine List.map_congr_left fun w _ => ?_
  cases w with
  | putServer s => exact congrArg Row.server (ids s)
  | putWorkspace w => exact congrArg Row.workspace (places w).containerId
  | _ => rfl

section Either

variable [Quantity κ] {r : Registry κ} (keyed : r.servers.Keyed Server.serverId)
  (filed : r.workspaces.Keyed Workspace.containerId) (m : MonitorWrite κ) (a : Accounting κ)
  (apart : ∀ c, a.container? = some c → m.container? ≠ some c)

include keyed filed apart

theorem Accounting.change_monitored :
    a.change (m.change r).registry = (a.change r).revised m.server m.workspace := by
  rw [m.registry_change keyed filed, a.change_revised filed m apart]

theorem Registry.commutes_with_monitor :
    (a.change (m.change r).registry).registry = (m.change (a.change r).registry).registry := by
  rw [a.change_monitored keyed filed m apart,
    m.registry_change (a.keyed keyed) (a.filed filed)]
  rfl

/-- **In the store** the writes of both come to the same. -/
theorem Store.commutes_with_monitor (store : Store κ) :
    store.applyAll ((m.change r).writes ++ (a.change (m.change r).registry).writes) =
      store.applyAll ((a.change r).writes ++ (m.change (a.change r).registry).writes) := by
  have hkeyed : (m.change r).registry.servers.Keyed Server.serverId := by
    rw [m.registry_change keyed filed]
    exact Registry.keyed_revised m.keepsCapacity.serverId keyed
  have hfiled : (m.change r).registry.workspaces.Keyed Workspace.containerId := by
    rw [m.registry_change keyed filed]
    exact Registry.filed_revised m.keepsPlace filed
  refine Store.applyAll_eq (r := r) store (fun row => ?_) ?_
  · rw [List.map_append, List.map_append, a.change_monitored keyed filed m apart,
      (a.sameSight keyed m apart).rows keyed (a.keyed keyed), Change.revised,
      Write.rows_revised m.keepsCapacity.serverId m.keepsPlace]
    exact List.perm_append_comm.mem_iff
  · rw [Registry.rest_absorbAll_append (m.rest_absorbAll keyed filed)
        (a.rest_absorbAll hkeyed hfiled),
      Registry.rest_absorbAll_append (a.rest_absorbAll keyed filed)
        (m.rest_absorbAll (a.keyed keyed) (a.filed filed)),
      Registry.commutes_with_monitor keyed filed m a apart]

end Either

/-- **Monitor and accounting commute.** For every ledger whose values stand under their own ids, as
those of every registry do, a write of the monitor and an operation of the accounting that do not
name one container can be made in either order: both answer the same, and the same is left in memory
and in the store. -/
theorem Ledger.monitor_commutes [Quantity κ] (ledger : Ledger κ)
    (keyed : ledger.registry.servers.Keyed Server.serverId)
    (filed : ledger.registry.workspaces.Keyed Workspace.containerId) (m : MonitorWrite κ)
    (a : Accounting κ) (apart : ∀ c, a.container? = some c → m.container? ≠ some c) :
    ((ledger.perform (m.change ·)).2.perform (a.change ·)).1 = (ledger.perform (a.change ·)).1 ∧
    ((ledger.perform (a.change ·)).2.perform (m.change ·)).1 = (ledger.perform (m.change ·)).1 ∧
    ((ledger.perform (m.change ·)).2.perform (a.change ·)).2 =
      ((ledger.perform (a.change ·)).2.perform (m.change ·)).2 := by
  refine ⟨?_, (a.sameSight keyed m apart).answer, ?_⟩
  · show (a.change (m.change ledger.registry).registry).result = (a.change ledger.registry).result
    rw [a.change_monitored keyed filed m apart]
    rfl
  · have hregistry := Registry.commutes_with_monitor keyed filed m a apart
    have hstore : (ledger.store.map (·.applyAll (m.change ledger.registry).writes)).map
          (·.applyAll (a.change (m.change ledger.registry).registry).writes) =
        (ledger.store.map (·.applyAll (a.change ledger.registry).writes)).map
          (·.applyAll (m.change (a.change ledger.registry).registry).writes) := by
      cases ledger.store with
      | none => rfl
      | some store =>
        have := Store.commutes_with_monitor keyed filed m a apart store
        rw [Store.applyAll_append, Store.applyAll_append] at this
        exact congrArg some this
    exact congrArg₂ Ledger.mk hregistry hstore

/-! ## A check and a release on one server -/

namespace CheckedRun

def ledger : Ledger Rat := (Ledger.after (⟨.empty, some .empty⟩, []) SampleRun.calls).1

theorem reached : ∃ issued, Reached Registry.Unrecorded (.running ledger issued) :=
  ⟨_, SampleRun.reached (.opened .created Ledger.ofStore_empty) (by decide +kernel)
    (by decide +kernel)⟩

def check : MonitorWrite Rat :=
  .checked "a" {
    status := .healthy, consecutiveFailures := 0, lastError := none, observed := none
    checkedAt := 5 }

/-- The second hold is given back. -/
def release : Accounting Rat := .release { SampleRun.hold with id := 2 }

end CheckedRun

/-- Both write the record of one server. In either order it is healthy afterwards, and one workspace
is counted on it. -/
theorem monitor_commutes_on_server :
    let first := (CheckedRun.ledger.perform (CheckedRun.check.change ·)).2
    let second := (CheckedRun.ledger.perform (CheckedRun.release.change ·)).2
    (first.perform (CheckedRun.release.change ·)).2 =
        (second.perform (CheckedRun.check.change ·)).2 ∧
      ((first.perform (CheckedRun.release.change ·)).2.registry.servers.get? "a").map
        (fun s => (s.status, s.workspaceCount)) = some (.healthy, 1) := by
  obtain ⟨issued, hreached⟩ := CheckedRun.reached
  have hbooked := hreached.ledger_sound.registry.booked
  refine ⟨?_, by decide +kernel⟩
  exact (Ledger.monitor_commutes CheckedRun.ledger hbooked.keyed hbooked.filed CheckedRun.check
    CheckedRun.release nofun).2.2

end WorkspaceFleet
