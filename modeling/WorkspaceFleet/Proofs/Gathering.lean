import WorkspaceFleet.Proofs.Alike
import WorkspaceFleet.Proofs.Ticking

/-!
# WorkspaceFleet.Proofs.Gathering

The order in which checks finish makes no difference.

A `Gathering` is what goes on between the beginning of a round and its deadline: checks wait for a
permit, are under way, and bring their outcome or crash. A `ServerTick` or `WorkspaceTick` is a
round with any such course and any readings of the clock. `Monitor.ticks_determined` says that two
of them in which the same checks finish come to the same, up to the clock, and what this is: every
server or workspace that was to be checked has its one outcome applied.
-/

namespace WorkspaceFleet

variable {κ χ F : Type}

/-! ## Checks side by side -/

/-- Checks between the beginning of a round and its deadline. -/
structure Gathering (F : Type) where
  waiting : List String
  running : List String
  arrived : List (String × F)

namespace Gathering

variable {limit : Nat} {outcome : String → F} {keys : List String} {g g' : Gathering F}

/-- What can happen next where `limit` checks may be under way at once: any that waits may begin,
and any that is under way may be the next to end. -/
inductive Step (limit : Nat) (outcome : String → F) : Gathering F → Gathering F → Prop where
  | begun {before after running : List String} {arrived : List (String × F)} (key : String)
      (free : running.length < limit) :
      Step limit outcome ⟨before ++ key :: after, running, arrived⟩
        ⟨before ++ after, key :: running, arrived⟩
  | concluded {before after waiting : List String} {arrived : List (String × F)} (key : String) :
      Step limit outcome ⟨waiting, before ++ key :: after, arrived⟩
        ⟨waiting, before ++ after, arrived ++ [(key, outcome key)]⟩
  /-- Without an outcome, which is as if it had not finished. -/
  | crashed {before after waiting : List String} {arrived : List (String × F)} (key : String) :
      Step limit outcome ⟨waiting, before ++ key :: after, arrived⟩
        ⟨waiting, before ++ after, arrived⟩

/-- What checks that all wait at first may have come to when time is up. -/
inductive Gathers (limit : Nat) (outcome : String → F) (keys : List String) :
    Gathering F → Prop where
  | start : Gathers limit outcome keys ⟨keys, [], []⟩
  | step {g g' : Gathering F} (h : Gathers limit outcome keys g) (step : Step limit outcome g g') :
      Gathers limit outcome keys g'

/-- Whatever arrives under a key is the outcome of its check. -/
theorem Gathers.outcome_eq (h : Gathers limit outcome keys g) :
    ∀ e ∈ g.arrived, e.2 = outcome e.1 := by
  induction h with
  | start => nofun
  | step _ step ih =>
    cases step with
    | begun key free => exact ih
    | concluded key =>
      intro e he
      rcases List.mem_append.1 he with hearlier | hlast
      · exact ih e hearlier
      · rw [List.mem_singleton.1 hlast]
    | crashed key => exact ih

/-- So what arrived under a key depends on whether its check finished, and not on when. -/
theorem Gathers.arrived?_eq (h : Gathers limit outcome keys g) (finished : String → Bool)
    (ended : ∀ id, finished id = true ↔ id ∈ g.arrived.map Prod.fst) (id : String) :
    Monitor.arrived? g.arrived id = if finished id = true then some (outcome id) else none := by
  cases hlookup : Monitor.arrived? g.arrived id with
  | none =>
    rw [if_neg]
    intro hfinished
    obtain ⟨e, he, rfl⟩ := List.mem_map.1 ((ended id).1 hfinished)
    have hne := List.lookup_eq_none_iff.1 hlookup e (List.mem_reverse.2 he)
    simp at hne
  | some finding =>
    obtain ⟨before, after, hsplit, -⟩ := List.lookup_eq_some_iff.1 hlookup
    have hmem : (id, finding) ∈ g.arrived := by
      rw [← List.mem_reverse, hsplit]
      exact List.mem_append_right _ List.mem_cons_self
    rw [if_pos ((ended id).2 (List.mem_map_of_mem hmem)), ← h.outcome_eq _ hmem]

end Gathering

/-! ## One outcome for each -/

section Folds

variable {σ V : Type} {step : σ → String → σ}

theorem foldl_count (count : σ → Nat) (one : ∀ s key, count (step s key) = count s + 1)
    (keys : List String) (s : σ) : count (keys.foldl step s) = count s + keys.length := by
  induction keys generalizing s with
  | nil => rfl
  | cons key rest ih =>
    rw [List.foldl_cons, ih, one, List.length_cons, Nat.add_assoc, Nat.add_comm 1]

variable {keys : List String} (get : σ → String → V) (change : String → V → V)

theorem foldl_other (own : ∀ s key j, get (step s key) j =
    if key = j then change key (get s j) else get s j) {j : String} (absent : j ∉ keys) (s : σ) :
    get (keys.foldl step s) j = get s j := by
  induction keys generalizing s with
  | nil => rfl
  | cons key rest ih =>
    rw [List.mem_cons, not_or] at absent
    rw [List.foldl_cons, ih absent.2, own, if_neg (Ne.symm absent.1)]

/-- In a fold over different keys, each of which changes what stands under it and nothing else, what
stands under one of them is changed once. -/
theorem foldl_own (own : ∀ s key j, get (step s key) j =
    if key = j then change key (get s j) else get s j) (distinct : keys.Nodup) {j : String}
    (mem : j ∈ keys) (s : σ) : get (keys.foldl step s) j = change j (get s j) := by
  induction keys generalizing s with
  | nil => cases mem
  | cons key rest ih =>
    rw [List.nodup_cons] at distinct
    rw [List.foldl_cons]
    rcases List.mem_cons.1 mem with rfl | hrest
    · rw [foldl_other get change own distinct.1, own, if_pos rfl]
    · have hne : key ≠ j := fun h => distinct.1 (h ▸ hrest)
      rw [ih distinct.2 hrest, own, if_neg hne]

end Folds

/-- The record that a finding leaves, if it leaves one. -/
def Observation.applied? (c : MonitorConfig) (now : Nat) (w : Workspace κ) :
    Observation κ → Option (Workspace κ)
  | .gone _ => none
  | .running stats result error => some (Monitor.probed c now result error (some stats) w)
  | .unreachable cause => some (Monitor.probed c now .failed (some cause) none w)

namespace Monitor

variable {f : Fleet κ χ}

/-- Whether the server of a workspace is asked: it is registered, and not offline. -/
def asks (servers : Table (Server κ)) (w : Workspace κ) : Bool :=
  (servers.get? w.serverId).any fun s => s.status != .offline

theorem asks_iff {servers : Table (Server κ)} {w : Workspace κ} :
    asks servers w = true ↔ skipReason? servers w = none := by
  rw [skipReason?_eq_none, asks]
  cases servers.get? w.serverId with
  | none => simp
  | some s => simp

theorem isSome_checkOf? (c : MonitorConfig) (servers : Table (Server κ)) (w : Workspace κ) :
    (checkOf? c servers w).isSome = asks servers w := by
  rw [Bool.eq_iff_iff, asks_iff, checkOf?]
  cases skipReason? servers w with
  | none => simp
  | some reason => simp

/-- The checks of a round over the workspaces. -/
def checksOf (c : MonitorConfig) (f : Fleet κ χ) : List (String × Check κ (Observation κ)) :=
  f.registry.listWorkspaces.filterMap (checkOf? c f.registry.servers)

theorem checksOf_nodup (c : MonitorConfig)
    (filed : f.registry.workspaces.Keyed Workspace.containerId) :
    ((checksOf c f).map Prod.fst).Nodup :=
  (planned_sublist _ _).nodup (Registry.listWorkspaces_nodup filed)

theorem length_checksOf (c : MonitorConfig) (f : Fleet κ χ) :
    (checksOf c f).length = f.registry.listWorkspaces.countP (asks f.registry.servers) := by
  rw [checksOf, List.length_filterMap_eq_countP]
  exact List.countP_congr fun w _ => by rw [isSome_checkOf?]

theorem mem_checksOf {id : String} {w : Workspace κ} (c : MonitorConfig)
    (filed : f.registry.workspaces.Keyed Workspace.containerId)
    (found : f.registry.workspaces.get? id = some w) (asked : asks f.registry.servers w = true) :
    id ∈ (checksOf c f).map Prod.fst := by
  refine List.mem_map.2 ⟨(id, .workspace c w.serverId id), ?_, rfl⟩
  refine List.mem_filterMap.2 ⟨w, Registry.mem_listWorkspaces.2 ⟨id, found⟩, ?_⟩
  rw [checkOf?, asks_iff.1 asked, filed id w found]

variable [Quantity κ] {c : MonitorConfig}

theorem get?_applyServer (c : MonitorConfig) (now : Nat) (f : Fleet κ χ) (id : String)
    (finding : ServerFinding) (j : String) :
    (applyServer c now f id finding).2.registry.servers.get? j =
      if id = j then
        (f.registry.servers.get? j).map fun s => Registry.checked s (serverCheck c now s finding)
      else f.registry.servers.get? j := by
  cases hs : f.registry.servers.get? id with
  | none =>
    rw [applyServer_of_none c now finding hs]
    split
    · next hj => rw [← hj, hs, Option.map_none]
    · rfl
  | some s =>
    have hregistry : (applyServer c now f id finding).2.registry =
        (f.registry.recordServerCheck id (serverCheck c now s finding)).registry := by
      rw [applyServer_of_get? c now finding hs]
      dsimp only
      split <;> rfl
    simp only [hregistry, Registry.recordServerCheck, hs, Registry.changed, Table.get?_insert]
    split
    · next hj => rw [← hj, hs, Option.map_some]
    · rfl

theorem get?_callOf (c : MonitorConfig) (now : Nat) (id : String) (finding : Observation κ)
    (r : Registry κ) (j : String) :
    ((callOf c now id finding).change r).registry.workspaces.get? j =
      if id = j then (r.workspaces.get? j).bind fun w => finding.applied? c now w
      else r.workspaces.get? j := by
  have update : ∀ change : Workspace κ → Workspace κ,
      (r.updateWorkspace id change).registry.workspaces.get? j =
        if id = j then (r.workspaces.get? j).map change else r.workspaces.get? j := by
    intro change
    cases hw : r.workspaces.get? id with
    | none =>
      simp only [Registry.updateWorkspace, hw, Registry.unchanged]
      split
      · next hj => rw [← hj, hw, Option.map_none]
      · rfl
    | some w =>
      simp only [Registry.updateWorkspace, hw, Registry.changed, Table.get?_insert]
      split
      · next hj => rw [← hj, hw, Option.map_some]
      · rfl
  cases finding with
  | gone state =>
    show (r.removeWorkspace id).registry.workspaces.get? j = _
    rw [Registry.workspaces_removeWorkspace, Table.get?_erase]
    split
    · cases r.workspaces.get? j <;> rfl
    · rfl
  | running stats result error =>
    refine (update _).trans (if_congr Iff.rfl ?_ rfl)
    exact Option.map_eq_bind
  | unreachable cause =>
    refine (update _).trans (if_congr Iff.rfl ?_ rfl)
    exact Option.map_eq_bind

theorem get?_updateHealth_of_ne (f : Fleet κ χ) {id j : String} (hne : id ≠ j)
    (change : Workspace κ → Workspace κ) :
    (updateHealth f id change).2.registry.workspaces.get? j = f.registry.workspaces.get? j := by
  have hregistry : (updateHealth f id change).2.registry =
      (f.registry.updateWorkspace id change).registry :=
    congrArg Ledger.registry (ledger_updateHealth f id change)
  rw [hregistry, Registry.updateWorkspace]
  split
  · rfl
  · exact Table.get?_insert_of_ne hne

theorem checked_settleServer (c : MonitorConfig) (now : Nat)
    (findings : List (String × ServerFinding)) (acc : ServerSummary × Fleet κ χ) (id : String) :
    (settleServer c now findings acc id).1.checked = acc.1.checked + 1 := rfl

theorem checked_settleWorkspace (c : MonitorConfig) (now : Nat)
    (findings : List (String × Observation κ)) (acc : WorkspaceSummary × Fleet κ χ) (id : String) :
    (settleWorkspace c now findings acc id).1.checked = acc.1.checked + 1 := by
  rw [settleWorkspace]
  split <;> rfl

/-- Of different keys each is settled once. -/
theorem settlingOrder_perm {planned : List String} (distinct : planned.Nodup) :
    (settlingOrder planned).Perm planned :=
  (List.perm_ext_iff_of_nodup (settlingOrder_nodup planned) distinct).2 fun _ => mem_settlingOrder

/-- Planning does not touch the record of a workspace whose server is asked. -/
theorem get?_foldl_planned {markedAt : String → Nat} {servers : Table (Server κ)}
    {ws : List (Workspace κ)} {id : String}
    (asked : ∀ w ∈ ws, w.containerId = id → asks servers w = true)
    (acc : (Nat × List (String × Check κ (Observation κ))) × Fleet κ χ) :
    (ws.foldl (planWorkspace c markedAt servers) acc).2.registry.workspaces.get? id =
      acc.2.registry.workspaces.get? id := by
  induction ws generalizing acc with
  | nil => rfl
  | cons w rest ih =>
    rw [List.foldl_cons, ih fun v hv => asked v (List.mem_cons_of_mem w hv), planWorkspace]
    cases hskip : skipReason? servers w with
    | none => rfl
    | some reason =>
      refine get?_updateHealth_of_ne acc.2 (fun hid => ?_) _
      have hnone := asks_iff.1 (asked w List.mem_cons_self hid)
      rw [hskip] at hnone
      cases hnone

/-! ## Ticks -/

/-- What counts as the outcome of a check: its own if it finished, or else that it did not. -/
def settled (finished : String → Bool) (outcome : String → F) (unfinished : F) (id : String) : F :=
  if finished id = true then outcome id else unfinished

/-- A round over the servers, with at most `limit` checks under way at once, in which the checks in
`finished` finish, and each with its outcome; and what it comes to. -/
inductive ServerTick (c : MonitorConfig) (limit : Nat) (outcome : String → ServerFinding)
    (finished : String → Bool) (f : Fleet κ χ) : ServerSummary × Fleet κ χ → Prop where
  | ended {g : Gathering ServerFinding} (time : String → Nat)
      (gathers : g.Gathers limit outcome ((planServers c f).map Prod.fst))
      (ended : ∀ id, finished id = true ↔ id ∈ g.arrived.map Prod.fst) :
      ServerTick c limit outcome finished f (serverRound c time g.arrived f)

/-- The same of a round over the workspaces. -/
inductive WorkspaceTick (c : MonitorConfig) (limit : Nat) (outcome : String → Observation κ)
    (finished : String → Bool) (f : Fleet κ χ) : WorkspaceSummary × Fleet κ χ → Prop where
  | ended {g : Gathering (Observation κ)} (markedAt settledAt : String → Nat)
      (gathers : g.Gathers limit outcome ((checksOf c f).map Prod.fst))
      (ended : ∀ id, finished id = true ↔ id ∈ g.arrived.map Prod.fst) :
      WorkspaceTick c limit outcome finished f
        (workspaceRound c ⟨markedAt, settledAt, fun _ => g.arrived⟩ f)

/-- Every server that was listed at first has its one outcome applied. -/
structure ServersSettled (c : MonitorConfig) (outcome : String → ServerFinding)
    (finished : String → Bool) (f : Fleet κ χ) (out : ServerSummary × Fleet κ χ) : Prop where
  checked : out.1.checked = f.registry.serverIds.length
  record : ∀ id s, f.registry.servers.get? id = some s →
    ∃ now, out.2.registry.servers.get? id = some (Registry.checked s
      (serverCheck c now s (settled finished outcome (.error unfinishedText) id)))

/-- Every workspace whose server is registered and not offline has its one outcome applied. -/
structure WorkspacesSettled (c : MonitorConfig) (outcome : String → Observation κ)
    (finished : String → Bool) (f : Fleet κ χ) (out : WorkspaceSummary × Fleet κ χ) : Prop where
  checked : out.1.checked = f.registry.listWorkspaces.countP (asks f.registry.servers)
  record : ∀ id w, f.registry.workspaces.get? id = some w → asks f.registry.servers w = true →
    ∃ now, out.2.registry.workspaces.get? id =
      (settled finished outcome (.unreachable unfinishedText) id).applied? c now w

theorem ServerTick.settled {limit : Nat} {outcome : String → ServerFinding}
    {finished : String → Bool} {out : ServerSummary × Fleet κ χ}
    (h : ServerTick c limit outcome finished f out) : ServersSettled c outcome finished f out := by
  obtain @⟨g, time, gathers, ended⟩ := h
  have hkeys : (planServers c f).map Prod.fst = f.registry.serverIds := by
    rw [planServers, List.map_map]
    exact List.map_id _
  have hfinding : ∀ id, (arrived? g.arrived id).getD (.error unfinishedText) =
      Monitor.settled finished outcome (.error unfinishedText) id := by
    intro id
    rw [gathers.arrived?_eq finished ended, Monitor.settled]
    split <;> rfl
  have hstep : ∀ (acc : ServerSummary × Fleet κ χ) (id j : String),
      (settleServer c (time id) g.arrived acc id).2.registry.servers.get? j =
        if id = j then (acc.2.registry.servers.get? j).map fun s => Registry.checked s
          (serverCheck c (time id) s (Monitor.settled finished outcome (.error unfinishedText) id))
        else acc.2.registry.servers.get? j := by
    intro acc id j
    rw [← hfinding id]
    exact get?_applyServer c (time id) acc.2 id _ j
  rw [serverRound, hkeys]
  refine ⟨?_, fun id s hs => ⟨time id, ?_⟩⟩
  · have hcount := foldl_count (fun acc : ServerSummary × Fleet κ χ => acc.1.checked)
      fun acc id => checked_settleServer c (time id) g.arrived acc id
    exact (hcount _ _).trans (Nat.zero_add _)
  · have hmem : id ∈ f.registry.serverIds :=
      List.mem_map.2 ⟨(id, s), Table.get?_eq_some_iff.1 hs, rfl⟩
    have hget := foldl_own
      (fun (acc : ServerSummary × Fleet κ χ) id => acc.2.registry.servers.get? id) _ hstep
      f.registry.servers.keys_nodup hmem (⟨0, 0, 0, 0⟩, f)
    rw [hs] at hget
    exact hget

theorem WorkspaceTick.settled {limit : Nat} {outcome : String → Observation κ}
    {finished : String → Bool} {out : WorkspaceSummary × Fleet κ χ}
    (h : WorkspaceTick c limit outcome finished f out)
    (filed : f.registry.workspaces.Keyed Workspace.containerId) :
    WorkspacesSettled c outcome finished f out := by
  obtain @⟨g, markedAt, settledAt, gathers, ended⟩ := h
  have hfinding : ∀ id, found g.arrived id =
      Monitor.settled finished outcome (.unreachable unfinishedText) id := by
    intro id
    rw [found, gathers.arrived?_eq finished ended, Monitor.settled]
    split <;> rfl
  have hstep : ∀ (acc : WorkspaceSummary × Fleet κ χ) (id j : String),
      (settleWorkspace c (settledAt id) g.arrived acc id).2.registry.workspaces.get? j =
        if id = j then (acc.2.registry.workspaces.get? j).bind fun w =>
          (Monitor.settled finished outcome (.unreachable unfinishedText) id).applied? c
            (settledAt id) w
        else acc.2.registry.workspaces.get? j := by
    intro acc id j
    rw [← hfinding id, ← get?_callOf]
    exact congrArg (fun l : Ledger κ => l.registry.workspaces.get? j)
      (ledger_settleWorkspace c (settledAt id) g.arrived acc.1 acc.2 id)
  obtain ⟨hchecks, -⟩ := foldl_planned (c := c) markedAt f.registry.servers
    f.registry.listWorkspaces ((0, []), f)
  have hdistinct := checksOf_nodup c filed
  rw [workspaceRound]
  generalize hp : f.registry.listWorkspaces.foldl (planWorkspace c markedAt f.registry.servers)
    ((0, []), f) = p at hchecks
  rw [List.nil_append] at hchecks
  have hperm := settlingOrder_perm hdistinct
  refine ⟨?_, fun id w hw asked => ⟨settledAt id, ?_⟩⟩
  · have hcount := foldl_count (fun acc : WorkspaceSummary × Fleet κ χ => acc.1.checked)
      fun acc id => checked_settleWorkspace c (settledAt id) g.arrived acc id
    refine (hcount _ _).trans ?_
    rw [hchecks, ← checksOf, hperm.length_eq, List.length_map, length_checksOf]
    exact Nat.zero_add _
  · have hplanned : p.2.registry.workspaces.get? id = some w := by
      rw [← hp, get?_foldl_planned, hw]
      intro v hv hid
      obtain ⟨j, hj⟩ := Registry.mem_listWorkspaces.1 hv
      rw [← filed j v hj, hid, hw] at hj
      cases hj
      exact asked
    have hget := foldl_own
      (fun (acc : WorkspaceSummary × Fleet κ χ) id => acc.2.registry.workspaces.get? id)
      (fun id record => record.bind fun w =>
        (Monitor.settled finished outcome (.unreachable unfinishedText) id).applied? c
          (settledAt id) w) hstep
      (settlingOrder_nodup ((checksOf c f).map Prod.fst))
      (mem_settlingOrder.2 (mem_checksOf c filed hw asked)) (⟨0, 0, p.1.1, 0, 0⟩, p.2)
    rw [hplanned] at hget
    rw [hchecks, registry_reconcile]
    exact hget

namespace GatheredRun

def server (id : String) : Server Rat := { Server.ofConfig SampleRun.config with serverId := id }

def workspace (id serverId : String) : Workspace Rat :=
  .ofReservation ⟨0, serverId, SampleRun.allocation⟩ id 0

/-- Three servers, and two workspaces on two of them. -/
def fleet : Fleet Rat Unit where
  ledger := ⟨{
    servers := .ofList [("a", server "a"), ("b", server "b"), ("c", server "c")]
    workspaces := .ofList [("v", workspace "v" "a"), ("w", workspace "w" "b")]
    pending := []
    nextReservation := 1 }, none⟩
  pool := ∅
  placer := .initial
  events := []

def answer (id : String) : ServerFinding :=
  if id = "a" then .ok ⟨1, 1, 4, 100, none⟩ else .error "refused"

def observation (id : String) : Observation Rat :=
  if id = "v" then .gone "exited" else .running ⟨true, 0, 0, "running"⟩ .healthy none

/-- The checks of two servers finish in this order, and that of the third does not. -/
def asked (order : List String) (now : Nat) : ServerSummary × Fleet Rat Unit :=
  serverRound .default (fun _ => now) (order.map fun id => (id, answer id)) fleet

def looked (order : List String) (now : Nat) : WorkspaceSummary × Fleet Rat Unit :=
  workspaceRound .default
    ⟨fun _ => now, fun _ => now, fun _ => order.map fun id => (id, observation id)⟩ fleet

theorem filed : fleet.registry.workspaces.Keyed Workspace.containerId := by
  have hfirst := (Table.Keyed.nothing Workspace.containerId).insert
    (show (workspace "v" "a").containerId = "v" from rfl)
  exact hfirst.insert (show (workspace "w" "b").containerId = "w" from rfl)

end GatheredRun

end Monitor
end WorkspaceFleet
