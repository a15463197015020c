import WorkspaceFleet.Proofs.Chronicle
import WorkspaceFleet.Proofs.Settling

/-!
# WorkspaceFleet.Proofs.Ticking

Rounds of the monitor as chronicles.

Whatever came before it, a round leads on by deeds, one for every server or workspace that it
concerns. `Chronicle.settleServers`, `Chronicle.planWorkspaces` and `Chronicle.settleWorkspaces` say
what these come to for each: a check with what its daemon answered, or a mark where it was not asked.
-/

namespace WorkspaceFleet

variable {κ χ : Type}

/-- A fleet that has a ledger and nothing else. -/
def Fleet.over (ledger : Ledger κ) : Fleet κ Unit := ⟨ledger, ∅, ⟨0⟩, []⟩

/-! ## Servers -/

section Servers

variable [Quantity κ] {rules : Rules κ} {log : List (Happening κ)} {c : MonitorConfig} {now : Nat}
  {issued : List (Reservation κ)}

/-- What is recorded of a registered server is its check. -/
theorem Monitor.ledger_applyServer (c : MonitorConfig) (now : Nat) {f : Fleet κ χ} {id : String}
    {s : Server κ} (found : f.registry.servers.get? id = some s) (answers : Option (Answers κ)) :
    (applyServer c now f id (serverFinding c id answers)).2.ledger =
      (f.ledger.perform ((Deed.check c now id s answers).call.change ·)).2 := by
  rw [applyServer, found]
  dsimp only
  split
  · next heq => exact (ledger_of_perform heq).trans rfl
  · next heq =>
    split
    · exact (ledger_of_perform heq).trans rfl
    · exact (ledger_of_perform heq).trans rfl

theorem Chronicle.settleServer {f : Fleet κ χ} (h : Chronicle rules (.running f.ledger issued) log)
    (settings : rules.settings c) (time : now < word64) {answers : String → Option (Answers κ)}
    (range : ∀ id o, Monitor.serverFinding c id (answers id) = .ok o → o.InRange)
    {findings : List (String × ServerFinding)} {id : String}
    (come : (Monitor.arrived? findings id).getD (.error unfinishedText) =
      Monitor.serverFinding c id (answers id)) (sum : ServerSummary) :
    ∃ log', Chronicle rules
        (.running (Monitor.settleServer c now findings (sum, f) id).2.ledger issued) log' ∧
      (∀ j, (Monitor.settleServer c now findings (sum, f) id).2.registry.servers.contains j =
        f.registry.servers.contains j) ∧
      ∀ j, serverEvents j log' = serverEvents j log ++
        (if id = j ∧ f.registry.servers.contains j = true then
          [.checked (answersInfo j (answers j))] else []) := by
  simp only [Monitor.settleServer, come]
  cases hs : f.registry.servers.get? id with
  | none =>
    have hstay : Monitor.applyServer c now f id (Monitor.serverFinding c id (answers id)) =
        (false, f) := by rw [Monitor.applyServer, hs]
    rw [hstay]
    refine ⟨log, h, fun _ => rfl, fun j => ?_⟩
    rw [if_neg, List.append_nil]
    rintro ⟨rfl, hj⟩
    rw [Table.contains_eq_false_iff.2 hs] at hj
    cases hj
  | some s =>
    have hledger := Monitor.ledger_applyServer c now hs (answers id)
    have hpermitted : (Deed.check c now id s (answers id)).Permitted rules f.ledger.registry issued :=
      ⟨settings, time, range id⟩
    have hnext := h.made hpermitted (.now hs) hledger rfl
    refine ⟨_, hnext, fun j => ?_, fun j => ?_⟩
    · rw [Fleet.registry, hledger]
      show (Registry.recordServerCheck f.ledger.registry id _).registry.servers.contains j = _
      simp only [Registry.recordServerCheck, show f.ledger.registry.servers.get? id = some s from hs,
        Registry.changed]
      exact Table.contains_insert_of_get? hs _ j
    · rw [serverEvents_concat]
      congr 1
      simp only [Happening.onServer]
      split
      · next hfound =>
        obtain ⟨rfl, hcontains⟩ := hfound
        simp [Fleet.registry, hcontains]
      · next hfound => simp [Fleet.registry, hfound]

/-- **A round over the servers is one check of every server** that was planned and is registered, with
what its daemon answered. -/
theorem Chronicle.settleServers {f : Fleet κ χ} (h : Chronicle rules (.running f.ledger issued) log)
    (settings : rules.settings c) (time : now < word64) (answers : String → Option (Answers κ))
    (range : ∀ id o, Monitor.serverFinding c id (answers id) = .ok o → o.InRange)
    (planned : List String) (findings : List (String × ServerFinding))
    (come : ∀ id ∈ planned, (Monitor.arrived? findings id).getD (.error unfinishedText) =
      Monitor.serverFinding c id (answers id)) :
    ∃ log', Chronicle rules
        (.running (Monitor.settleServers c now planned findings f).2.ledger issued) log' ∧
      ∀ j, serverEvents j log' = serverEvents j log ++
        (if f.registry.servers.contains j = true then
          List.replicate (planned.count j) (.checked (answersInfo j (answers j))) else []) := by
  rw [Monitor.settleServers]
  generalize (⟨0, 0, 0, 0⟩ : ServerSummary) = sum
  induction planned generalizing sum f log with
  | nil => exact ⟨log, h, fun j => by simp⟩
  | cons id rest ih =>
    obtain ⟨middle, hmiddle, hcontains, hevents⟩ :=
      h.settleServer settings time range (come id List.mem_cons_self) sum
    obtain ⟨log', hlog', hrest⟩ := ih hmiddle
      (fun j hj => come j (List.mem_cons_of_mem id hj)) _
    refine ⟨log', hlog', fun j => ?_⟩
    rw [hrest j, hcontains j, hevents j, List.append_assoc]
    congr 1
    by_cases hj : f.registry.servers.contains j = true
    · by_cases hid : id = j
      · simp [hj, hid, List.replicate_succ]
      · simp [hj, hid]
    · simp [hj]

end Servers

/-! ## Workspaces -/

theorem nodup_eraseDups : ∀ l : List String, l.eraseDups.Nodup
  | [] => List.nodup_nil
  | a :: rest => by
    rw [List.eraseDups_cons, List.nodup_cons, List.mem_eraseDups]
    exact ⟨by simp, nodup_eraseDups _⟩
termination_by l => l.length
decreasing_by exact Nat.lt_succ_of_le (List.length_filter_le _ rest)

/-- What planning one record is to the health of a workspace. -/
def Monitor.markOf (servers : Table (Server κ)) (id : String) (w : Workspace κ) :
    Option ProbeEvent :=
  if w.containerId = id ∧ (skipReason? servers w).isSome = true then some .marked else none

/-- Of records of different containers one is marked by what is planned for it. -/
theorem Monitor.filterMap_markOf {servers : Table (Server κ)} {ws : List (Workspace κ)}
    {w : Workspace κ} (distinct : (ws.map Workspace.containerId).Nodup) (mem : w ∈ ws) :
    ws.filterMap (markOf servers w.containerId) =
      if (skipReason? servers w).isSome = true then [.marked] else [] := by
  induction ws with
  | nil => cases mem
  | cons v rest ih =>
    rw [List.map_cons, List.nodup_cons] at distinct
    rw [List.filterMap_cons]
    rcases List.mem_cons.1 mem with rfl | hrest
    · have hnone : rest.filterMap (markOf servers w.containerId) = [] := by
        refine List.filterMap_eq_nil_iff.2 fun u hu => if_neg fun h => distinct.1 ?_
        rw [← h.1]
        exact List.mem_map_of_mem hu
      rw [hnone, markOf]
      split <;> simp_all
    · have hne : v.containerId ≠ w.containerId := fun h =>
        distinct.1 (h ▸ List.mem_map_of_mem hrest)
      rw [markOf, if_neg (mt And.left hne)]
      exact ih distinct.2 hrest

/-- Each planned check is settled once. -/
theorem Monitor.settlingOrder_nodup (planned : List String) : (settlingOrder planned).Nodup :=
  nodup_eraseDups _

section Workspaces

variable [Quantity κ] {rules : Rules κ} {log : List (Happening κ)} {c : MonitorConfig} {now : Nat}
  {issued : List (Reservation κ)}

theorem Chronicle.planWorkspace {f : Fleet κ χ} (h : Chronicle rules (.running f.ledger issued) log)
    (c : MonitorConfig) (time : now < word64) (servers : Table (Server κ))
    (planned : Nat × List (String × Check κ (Observation κ))) {w : Workspace κ}
    (recorded : f.registry.workspaces.contains w.containerId = true) :
    ∃ log', Chronicle rules (.running
        (Monitor.planWorkspace c (fun _ => now) servers (planned, f) w).2.ledger issued) log' ∧
      (∀ id, Table.contains (Monitor.planWorkspace c (fun _ => now) servers
          (planned, f) w).2.registry.workspaces id = f.registry.workspaces.contains id) ∧
      ∀ id, workspaceEvents id log' =
        workspaceEvents id log ++ (Monitor.markOf servers id w).toList := by
  cases hskip : Monitor.skipReason? servers w with
  | none =>
    simp only [Monitor.planWorkspace, hskip]
    refine ⟨log, h, fun _ => trivial, fun id => ?_⟩
    rw [Monitor.markOf, hskip, if_neg fun h => Bool.false_ne_true h.2]
    exact (List.append_nil _).symm
  | some reason =>
    simp only [Monitor.planWorkspace, hskip]
    have hledger := Monitor.ledger_updateHealth f w.containerId (Monitor.unreached now reason)
    have hpermitted : (Deed.mark now servers w reason hskip).Permitted rules f.ledger.registry
        issued := time
    have hnoHold : ((Deed.mark now servers w reason hskip).call.change f.ledger.registry).result =
        [] := rfl
    have hnext := h.made hpermitted trivial hledger hnoHold
    refine ⟨_, hnext, fun id => ?_, fun id => ?_⟩
    · rw [Fleet.registry, hledger]
      exact Registry.contains_updateWorkspace f.ledger.registry _ _ id
    · rw [workspaceEvents_concat]
      congr 2
      simp only [Happening.onWorkspace, Monitor.markOf]
      by_cases hid : w.containerId = id
      · rw [if_pos ⟨hid, hid ▸ recorded⟩, if_pos ⟨hid, by rw [hskip]; rfl⟩]
      · rw [if_neg fun h => hid h.1, if_neg fun h => hid h.1]

theorem Chronicle.foldl_planned {f : Fleet κ χ}
    (h : Chronicle rules (.running f.ledger issued) log) (c : MonitorConfig)
    (time : now < word64) (servers : Table (Server κ)) {ws : List (Workspace κ)}
    (planned : Nat × List (String × Check κ (Observation κ)))
    (recorded : ∀ w ∈ ws, f.registry.workspaces.contains w.containerId = true) :
    ∃ log', Chronicle rules (.running (ws.foldl (Monitor.planWorkspace c (fun _ => now) servers)
        (planned, f)).2.ledger issued) log' ∧
      ∀ id, workspaceEvents id log' =
        workspaceEvents id log ++ ws.filterMap (Monitor.markOf servers id) := by
  induction ws generalizing planned f log with
  | nil => exact ⟨log, h, fun id => (List.append_nil _).symm⟩
  | cons w rest ih =>
    obtain ⟨middle, hmiddle, hcontains, hevents⟩ :=
      h.planWorkspace c time servers planned (recorded w List.mem_cons_self)
    obtain ⟨log', hlog', hrest⟩ := ih hmiddle _ fun v hv => by
      rw [hcontains]
      exact recorded v (List.mem_cons_of_mem w hv)
    refine ⟨log', hlog', fun id => ?_⟩
    rw [hrest id, hevents id, List.append_assoc, List.filterMap_cons]
    cases Monitor.markOf servers id w <;> rfl

/-- **Planning a round marks every recorded workspace whose server is not asked**, and no other. -/
theorem Chronicle.planWorkspaces {f : Fleet κ χ}
    (h : Chronicle rules (.running f.ledger issued) log) (c : MonitorConfig) (time : now < word64) :
    ∃ log', Chronicle rules (.running (Monitor.planWorkspaces c now f).2.2.ledger issued) log' ∧
      ∀ id w, f.registry.workspaces.get? id = some w →
        workspaceEvents id log' = workspaceEvents id log ++
          (if (Monitor.skipReason? f.registry.servers w).isSome = true then [.marked] else []) := by
  have filed : f.registry.workspaces.Keyed Workspace.containerId :=
    h.ledger_sound.registry.booked.filed
  have hrecorded : ∀ w ∈ f.registry.listWorkspaces,
      f.registry.workspaces.contains w.containerId = true := by
    intro w hw
    obtain ⟨id, hid⟩ := Registry.mem_listWorkspaces.1 hw
    rw [filed id w hid]
    exact Table.contains_of_get? hid
  obtain ⟨log', hlog', hevents⟩ := h.foldl_planned c time f.registry.servers (0, []) hrecorded
  rw [Monitor.planWorkspaces_eq]
  refine ⟨log', hlog', fun id w found => ?_⟩
  have hmem := Registry.mem_listWorkspaces.2 ⟨id, found⟩
  rw [hevents, ← filed id w found,
    Monitor.filterMap_markOf (Registry.listWorkspaces_nodup filed) hmem]

/-- One finding is settled. `serverOf` are the servers that the checks asked. -/
theorem Chronicle.settleWorkspace {f : Fleet κ χ}
    (h : Chronicle rules (.running f.ledger issued) log) (settings : rules.settings c)
    (time : now < word64) {answers : String → Option (Answers κ)} {serverOf : String → String}
    (range : ∀ id, (Monitor.workspaceFinding c (serverOf id) id (answers id)).InRange)
    {findings : List (String × Observation κ)} {id : String}
    (come : Monitor.found findings id =
      Monitor.workspaceFinding c (serverOf id) id (answers id)) (sum : WorkspaceSummary) :
    ∃ log', Chronicle rules
        (.running (Monitor.settleWorkspace c now findings (sum, f) id).2.ledger issued) log' ∧
      (∀ j, id ≠ j → Table.contains
        (Monitor.settleWorkspace c now findings (sum, f) id).2.registry.workspaces j =
          f.registry.workspaces.contains j) ∧
      ∀ j, workspaceEvents j log' = workspaceEvents j log ++
        (if id = j ∧ f.registry.workspaces.contains j = true then
          (probeOutcome c (serverOf j) j (answers j)).toList else []) := by
  have hledger := Monitor.ledger_settleWorkspace c now findings sum f id
  rw [come] at hledger
  have hpermitted : (Deed.settle c now (serverOf id) id (answers id)).Permitted rules
      f.ledger.registry issued := ⟨settings, time, range id⟩
  have hnoHold : ((Deed.settle c now (serverOf id) id (answers id)).call.change
      f.ledger.registry).result = [] := by
    rcases Monitor.callOf_cases c now (serverOf id) id (answers id) with ⟨-, hcall⟩ |
      ⟨result, error, stats, -, hcall⟩
    · rw [Deed.call, hcall]
      rfl
    · rw [Deed.call, hcall]
      rfl
  have hnext := h.made hpermitted trivial hledger hnoHold
  refine ⟨_, hnext, fun j hj => ?_, fun j => ?_⟩
  · rw [Fleet.registry, hledger]
    rcases Monitor.callOf_cases c now (serverOf id) id (answers id) with ⟨-, hcall⟩ |
      ⟨result, error, stats, -, hcall⟩
    · rw [hcall]
      show (f.ledger.registry.removeWorkspace id).registry.workspaces.contains j = _
      rw [Registry.workspaces_removeWorkspace, Table.contains_erase, bne_iff_ne.2 hj,
        Bool.true_and]
      rfl
    · rw [hcall]
      exact Registry.contains_updateWorkspace f.ledger.registry id _ j
  · rw [workspaceEvents_concat]
    congr 1
    simp only [Happening.onWorkspace, Fleet.registry]
    by_cases hj : id = j ∧ f.ledger.registry.workspaces.contains j = true
    · obtain ⟨rfl, hcontains⟩ := hj
      simp [hcontains]
    · simp [hj]

theorem Chronicle.foldl_settled {f : Fleet κ χ}
    (h : Chronicle rules (.running f.ledger issued) log) (settings : rules.settings c)
    (time : now < word64) {answers : String → Option (Answers κ)} {serverOf : String → String}
    (range : ∀ id, (Monitor.workspaceFinding c (serverOf id) id (answers id)).InRange)
    {findings : List (String × Observation κ)} {keys : List String} (distinct : keys.Nodup)
    (come : ∀ id ∈ keys, Monitor.found findings id =
      Monitor.workspaceFinding c (serverOf id) id (answers id)) (sum : WorkspaceSummary) :
    ∃ log', Chronicle rules (.running
        (keys.foldl (Monitor.settleWorkspace c now findings) (sum, f)).2.ledger issued) log' ∧
      ∀ j, workspaceEvents j log' = workspaceEvents j log ++
        (if j ∈ keys ∧ f.registry.workspaces.contains j = true then
          (probeOutcome c (serverOf j) j (answers j)).toList else []) := by
  induction keys generalizing sum f log with
  | nil => exact ⟨log, h, fun j => by simp⟩
  | cons id rest ih =>
    rw [List.nodup_cons] at distinct
    obtain ⟨middle, hmiddle, hcontains, hevents⟩ :=
      h.settleWorkspace settings time range (come id List.mem_cons_self) sum
    obtain ⟨log', hlog', hrest⟩ := ih hmiddle distinct.2
      (fun j hj => come j (List.mem_cons_of_mem id hj)) _
    refine ⟨log', hlog', fun j => ?_⟩
    rw [hrest j, hevents j, List.append_assoc]
    congr 1
    by_cases hj : id = j
    · subst hj
      simp [distinct.1]
    · rw [hcontains j hj]
      simp [hj, Ne.symm hj]

/-- **Settling a round is one probe of every workspace** that was planned and is still recorded, with
what the daemon answered; a record whose container is gone has no event. -/
theorem Chronicle.settleWorkspaces {f : Fleet κ χ}
    (h : Chronicle rules (.running f.ledger issued) log) (settings : rules.settings c)
    (reconciles : rules.others .reconcile) (time : now < word64)
    (answers : String → Option (Answers κ)) (serverOf : String → String)
    (range : ∀ id, (Monitor.workspaceFinding c (serverOf id) id (answers id)).InRange)
    (skipped : Nat) (planned : List String) (findings : List (String × Observation κ))
    (come : ∀ id ∈ planned, Monitor.found findings id =
      Monitor.workspaceFinding c (serverOf id) id (answers id)) :
    ∃ log', Chronicle rules (.running
        (Monitor.settleWorkspaces c now skipped planned findings f).2.ledger issued) log' ∧
      ∀ id, workspaceEvents id log' = workspaceEvents id log ++
        (if id ∈ planned ∧ f.registry.workspaces.contains id = true then
          (probeOutcome c (serverOf id) id (answers id)).toList else []) := by
  obtain ⟨middle, hmiddle, hevents⟩ := h.foldl_settled settings time range
    (Monitor.settlingOrder_nodup planned)
    (fun id hid => come id (Monitor.mem_settlingOrder.1 hid)) ⟨0, 0, skipped, 0, 0⟩
  have hpermitted : ∀ r, (Deed.other .reconcile).Permitted rules r issued :=
    fun _ => ⟨reconciles, trivial⟩
  have hnext := hmiddle.made (hpermitted _) trivial (Monitor.ledger_reconcile _) rfl
  refine ⟨_, hnext, fun id => ?_⟩
  rw [workspaceEvents_concat, hevents]
  simp only [Monitor.mem_settlingOrder]
  exact List.append_nil _

end Workspaces
end WorkspaceFleet
