import WorkspaceFleet.Proofs.Watching

/-!
# WorkspaceFleet.Proofs.Vouching

A server is taken for healthy on the word of its own client.

Every registration builds a client, and here a client is the number of its registration, so that a
server that is registered anew under an old id has another. `Patrolled` holds of every state that is
reached by rounds over the servers while servers come and go: a round plans its checks, each check
asks the client that the pool has by then, and what it found is recorded later, under the id of the
server. `Patrolled.vouched` says that a healthy server's own client has answered, provided that no
id is registered anew while a check of it has already asked; `unvouched_reregistered` is the run
that the proviso excludes.
-/

namespace WorkspaceFleet

variable {κ χ : Type}

/-! ## What is done to servers -/

/-- Two records of one server with one status. -/
structure Server.SameStanding (s s' : Server κ) : Prop where
  serverId : s'.serverId = s.serverId
  status : s'.status = s.status

namespace Registry

/-- The call neither takes servers in or out, nor records a check. -/
def Call.LeavesServers : Call κ → Prop
  | .addServer _ => False
  | .removeServer _ => False
  | .recordServerCheck _ _ => False
  | _ => True

theorem standing_refl (t : Table (Server κ)) : t.Matches Server.SameStanding t :=
  .refl fun _ _ _ => ⟨rfl, rfl⟩

theorem standing_insert {t : Table (Server κ)} {id : String} {s s' : Server κ}
    (found : t.get? id = some s) (same : s.SameStanding s') :
    t.Matches Server.SameStanding (t.insert id s') :=
  (standing_refl t).insert_right found same

variable [Quantity κ]

theorem standing_reserve (r : Registry κ) (id : String) (a : Allocation κ) :
    r.servers.Matches Server.SameStanding (r.reserve id a).registry.servers := by
  rcases reserve_cases r id a with ⟨e, h⟩ | ⟨s, found, -, h⟩
  · rw [h]
    exact standing_refl r.servers
  · rw [h]
    exact standing_insert found ⟨rfl, rfl⟩

theorem standing_release (r : Registry κ) (hold : Reservation κ) :
    r.servers.Matches Server.SameStanding (r.release hold).registry.servers := by
  rw [release]
  split
  · exact standing_refl r.servers
  · dsimp only
    split
    · exact standing_refl r.servers
    · next s found => exact standing_insert found ⟨rfl, rfl⟩

theorem standing_removeWorkspace (r : Registry κ) (c : String) :
    r.servers.Matches Server.SameStanding (r.removeWorkspace c).registry.servers := by
  rw [removeWorkspace]
  split
  · exact standing_refl r.servers
  · dsimp only
    split
    · exact standing_refl r.servers
    · next s found => exact standing_insert found ⟨rfl, rfl⟩

theorem standing_reconcile {r : Registry κ} (keyed : r.servers.Keyed Server.serverId) :
    r.servers.Matches Server.SameStanding r.reconcile.registry.servers := by
  intro id
  rw [get?_reconcile keyed]
  cases hs : r.servers.get? id with
  | none => exact .inl ⟨rfl, rfl⟩
  | some s =>
    refine .inr ⟨s, settled s (r.usageOn id), rfl, rfl, serverId_settled s _, ?_⟩
    unfold settled
    split <;> rfl

/-- **Any other call** leaves every server its status. -/
theorem Call.standing {r : Registry κ} (keyed : r.servers.Keyed Server.serverId) {call : Call κ}
    (other : call.LeavesServers) :
    r.servers.Matches Server.SameStanding (call.change r).registry.servers := by
  cases call with
  | addServer config => exact other.elim
  | removeServer id => exact other.elim
  | recordServerCheck id check => exact other.elim
  | reserve id a => exact standing_reserve r id a
  | reserveWith a select lift =>
    show r.servers.Matches _ (r.reserveWith a select lift).registry.servers
    rw [Registry.reserveWith]
    split
    · exact standing_refl r.servers
    · exact standing_reserve r _ a
  | release hold => exact standing_release r hold
  | commit hold c now =>
    show r.servers.Matches _ (r.commit hold c now).registry.servers
    rw [Registry.commit]
    split <;> exact standing_refl r.servers
  | updateWorkspace c f =>
    show r.servers.Matches _ (r.updateWorkspace c f).registry.servers
    rw [Registry.updateWorkspace]
    split <;> exact standing_refl r.servers
  | removeWorkspace c => exact standing_removeWorkspace r c
  | reconcile => exact standing_reconcile keyed

end Registry

section Operations

theorem Registry.servers_addServer {r : Registry κ} {s : Server κ}
    (new : r.servers.get? s.serverId = none) :
    (r.addServer s).registry.servers = r.servers.insert s.serverId s := by
  rw [Registry.addServer, if_neg (Bool.eq_false_iff.1 (Table.contains_eq_false_iff.2 new))]
  rfl

theorem Registry.servers_removeServer {r : Registry κ} {id : String} {s : Server κ}
    (found : r.servers.get? id = some s) (idle : s.workspaceCount = 0) :
    (r.removeServer id).registry.servers = r.servers.erase id := by
  simp only [Registry.removeServer, found, idle, Nat.lt_irrefl, if_false]
  rfl

variable [Quantity κ] {f : Fleet κ χ}

/-- A server is refused and nothing changes, or its id is new and it is taken in with its client. -/
theorem Orchestrator.addServer_done (connect : Server κ → Except BackendError χ)
    (config : ServerConfig κ) (f : Fleet κ χ) :
    (∃ e, addServer connect config f = (.error e, f)) ∨
    ∃ client, connect (.ofConfig config) = .ok client ∧
      f.registry.servers.get? config.serverId = none ∧
      addServer connect config f = (.ok (.ofConfig config),
        { (f.perform (·.addServer (.ofConfig config))).2 with
          pool := f.pool.insert config.serverId client }) := by
  rw [addServer]
  dsimp only
  cases connect (.ofConfig config) with
  | error e => exact .inl ⟨.backend e, rfl⟩
  | ok client =>
    rcases f.registry.addServer_cases (.ofConfig config) with ⟨-, h⟩ | ⟨hnew, h⟩
    · left
      refine ⟨.registry (.duplicateServer config.serverId), ?_⟩
      dsimp only
      rw [Fleet.perform_of_unchanged h]
      rfl
    · right
      refine ⟨client, rfl, hnew, ?_⟩
      dsimp only
      rw [Fleet.perform_eq, h]
      rfl

/-- A server stays and nothing changes, or nothing is counted on it and it goes with its client. -/
theorem Orchestrator.removeServer_done (id : String) (f : Fleet κ χ) :
    (∃ e, removeServer id f = (.error e, f)) ∨
    ∃ s, f.registry.servers.get? id = some s ∧ s.workspaceCount = 0 ∧
      removeServer id f = (.ok s,
        { (f.perform (·.removeServer id)).2 with pool := f.pool.erase id }) := by
  rcases f.registry.removeServer_cases id with ⟨e, h⟩ | ⟨s, found, idle, h⟩
  · left
    exact ⟨.registry e, by rw [removeServer, Fleet.perform_of_unchanged h]⟩
  · right
    refine ⟨s, found, idle, ?_⟩
    rw [removeServer, Fleet.perform_eq, h]
    rfl

/-- A server is refused and all stays, or it is taken in under a new id with its client. -/
theorem Orchestrator.addServer_cases (connect : Server κ → Except BackendError χ)
    (config : ServerConfig κ) (f : Fleet κ χ) :
    (addServer connect config f).2.registry.servers = f.registry.servers ∧
      (addServer connect config f).2.pool = f.pool ∨
    ∃ client, connect (.ofConfig config) = .ok client ∧
      f.registry.servers.get? config.serverId = none ∧
      (addServer connect config f).2.registry.servers =
        f.registry.servers.insert config.serverId (.ofConfig config) ∧
      (addServer connect config f).2.pool = f.pool.insert config.serverId client := by
  rcases addServer_done connect config f with ⟨e, h⟩ | ⟨client, hclient, hnew, h⟩
  · left
    rw [h]
    exact ⟨rfl, rfl⟩
  · right
    refine ⟨client, hclient, hnew, ?_⟩
    rw [h]
    exact ⟨Registry.servers_addServer hnew, rfl⟩

/-- A server stays and so does all else, or it goes with its client. -/
theorem Orchestrator.removeServer_cases (id : String) (f : Fleet κ χ) :
    (removeServer id f).2.registry.servers = f.registry.servers ∧
      (removeServer id f).2.pool = f.pool ∨
    (removeServer id f).2.registry.servers = f.registry.servers.erase id ∧
      (removeServer id f).2.pool = f.pool.erase id := by
  rcases removeServer_done id f with ⟨e, h⟩ | ⟨s, found, idle, h⟩
  · left
    rw [h]
    exact ⟨rfl, rfl⟩
  · right
    rw [h]
    exact ⟨Registry.servers_removeServer found idle, rfl⟩

theorem Monitor.applyServer_of_none {id : String} (c : MonitorConfig) (now : Nat)
    (finding : ServerFinding) (missing : f.registry.servers.get? id = none) :
    applyServer c now f id finding = (false, f) := by
  rw [applyServer, missing]

theorem Monitor.applyServer_of_get? {id : String} (c : MonitorConfig) (now : Nat)
    (finding : ServerFinding) {s : Server κ} (found : f.registry.servers.get? id = some s) :
    applyServer c now f id finding =
      let check := serverCheck c now s finding
      let f' := (f.perform (·.recordServerCheck id check)).2
      if s.status = check.status then (false, f')
      else (true, f'.emit (.serverStatusChanged id s.status check.status check.lastError)) := by
  rw [applyServer, found]
  dsimp only
  rw [Fleet.perform_eq]
  simp only [Registry.recordServerCheck, found]
  rfl

/-- A finding is about a server that is gone and nothing happens, or it is recorded of the server
that is registered under the id now. -/
theorem Monitor.applyServer_cases (c : MonitorConfig) (now : Nat) (f : Fleet κ χ) (id : String)
    (finding : ServerFinding) :
    (applyServer c now f id finding).2 = f ∨
    ∃ s, f.registry.servers.get? id = some s ∧
      (applyServer c now f id finding).2.pool = f.pool ∧
      (applyServer c now f id finding).2.registry.servers =
        f.registry.servers.insert id (Registry.checked s (serverCheck c now s finding)) := by
  cases found : f.registry.servers.get? id with
  | none =>
    left
    rw [applyServer_of_none c now finding found]
  | some s =>
    right
    have hservers :
        (f.registry.recordServerCheck id (serverCheck c now s finding)).registry.servers =
          f.registry.servers.insert id (Registry.checked s (serverCheck c now s finding)) := by
      simp only [Registry.recordServerCheck, found]
      rfl
    refine ⟨s, rfl, ?_⟩
    rw [applyServer_of_get? c now finding found]
    dsimp only
    split
    · exact ⟨rfl, hservers⟩
    · exact ⟨rfl, hservers⟩

omit [Quantity κ] in
/-- Only a finding that the daemon is well makes a server healthy. -/
theorem Monitor.isOk_of_healthy {c : MonitorConfig} {now : Nat} {s : Server κ}
    {finding : ServerFinding}
    (healthy : (Registry.checked s (serverCheck c now s finding)).status = .healthy) :
    ∃ o, finding = .ok o := by
  cases finding with
  | ok o => exact ⟨o, rfl⟩
  | error e =>
    have hstatus : (Registry.checked s (serverCheck c now s (.error e))).status =
        ((ServerTracker.ofServer s).record c.offlineThreshold .failed).status := rfl
    rw [hstatus, ServerTracker.record, if_neg (by decide)] at healthy
    dsimp only at healthy
    split at healthy <;> cases healthy

end Operations

/-! ## Rounds while servers come and go -/

/-- The check of a server that is under way. Its client is the one that the pool had when it began
to ask. -/
inductive Inquiry where
  | planned (id : String)
  | asked (id : String) (client : Nat)
  | found (id : String) (finding : ServerFinding)
  deriving DecidableEq

namespace Inquiry

def id : Inquiry → String
  | .planned id => id
  | .asked id _ => id
  | .found id _ => id

/-- How a check goes on, with the clients that say by it how their daemons fare. -/
inductive Step (c : MonitorConfig) (f : Fleet κ Nat) : Inquiry → Inquiry → List Nat → Prop where
  | asked {id : String} {k : Nat} (client : f.client id = .ok k) :
      Step c f (.planned id) (.asked id k) []
  | unreached {id : String} {e : BackendError} {answers : Answers κ}
      (client : f.client id = .error e) (failed : answers id .info = .failed e) :
      Step c f (.planned id) (.found id (Monitor.serverFinding c id (some answers))) []
  | replied {id : String} {k : Nat} (answers : Answers κ) :
      Step c f (.asked id k) (.found id (Monitor.serverFinding c id (some answers)))
        (if answersInfo id (some answers) then [k] else [])
  /-- The round's time is up. -/
  | cut (q : Inquiry) :
      Step c f q (.found q.id (Monitor.serverFinding c q.id (none : Option (Answers κ)))) []

variable {c : MonitorConfig} {f : Fleet κ Nat} {q q' : Inquiry} {heard : List Nat}

/-- A check asks the client that the pool has. -/
theorem Step.client {id : String} {k : Nat} (step : q.Step c f (.asked id k) heard) :
    f.pool.get? id = some k := by
  cases step with
  | asked client =>
    rw [Fleet.client] at client
    split at client
    · next found =>
      cases client
      exact found
    · cases client

/-- A check finds a daemon well only where the client that it asked said so. -/
theorem Step.told {id : String} {o : DaemonObservation}
    (step : q.Step c f (.found id (.ok o)) heard) : ∃ k, q = .asked id k ∧ k ∈ heard := by
  generalize hq : Inquiry.found id (.ok o) = q' at step
  cases step with
  | asked client => cases hq
  | unreached client failed =>
    injection hq with hid hfinding
    rw [Monitor.serverFinding, Check.server, Check.run, failed] at hfinding
    cases hfinding
  | @replied id' k answers =>
    injection hq with hid hfinding
    have hwell := Monitor.isSuccess_serverFinding c id' (some answers)
    rw [← hfinding] at hwell
    refine ⟨k, by rw [hid], ?_⟩
    rw [if_pos (show answersInfo id' (some answers) = true from hwell.symm)]
    exact List.mem_cons_self
  | cut q =>
    injection hq with hid hfinding
    cases hfinding

end Inquiry

/-- A fleet whose clients are the numbers of the registrations that they were built for. -/
structure Patrol (κ : Type) where
  fleet : Fleet κ Nat
  /-- How many registrations there were. -/
  registrations : Nat
  /-- The checks that are under way. -/
  inquiries : List Inquiry
  /-- The clients that have said how their daemons fare. -/
  answered : List Nat

namespace Patrol

/-- A registration, whose client is built under its number. -/
def register [Quantity κ] (connect : Server κ → Except BackendError Unit)
    (config : ServerConfig κ) (p : Patrol κ) : Patrol κ :=
  { p with
    fleet := (Orchestrator.addServer (fun s => (connect s).map fun _ => p.registrations) config
      p.fleet).2
    registrations := p.registrations + 1 }

end Patrol

/-- The states that are reached while rounds are under way and servers come and go, where `may` says
under which ids a server may be registered during which checks. Any other call may be made at any
time. -/
inductive Patrolled [Quantity κ] (c : MonitorConfig) (may : List Inquiry → String → Prop) :
    Patrol κ → Prop where
  /-- At first no server is taken for healthy, and each has a client of its own. -/
  | opened {f : Fleet κ Nat} {n : Nat} (keyed : f.registry.servers.Keyed Server.serverId)
      (unseen : ∀ id s, f.registry.servers.get? id = some s → s.status ≠ .healthy)
      (clients : ∀ id s, f.registry.servers.get? id = some s → ∃ k, f.pool.get? id = some k)
      (numbered : ∀ id k, f.pool.get? id = some k → k < n)
      (own : ∀ i j k, f.pool.get? i = some k → f.pool.get? j = some k → i = j) :
      Patrolled c may ⟨f, n, [], []⟩
  | registered {p : Patrol κ} (before : Patrolled c may p)
      (connect : Server κ → Except BackendError Unit) (config : ServerConfig κ)
      (allowed : may p.inquiries config.serverId) : Patrolled c may (p.register connect config)
  | removed {p : Patrol κ} (before : Patrolled c may p) (id : String) :
      Patrolled c may { p with fleet := (Orchestrator.removeServer id p.fleet).2 }
  | planned {p : Patrol κ} (before : Patrolled c may p) :
      Patrolled c may { p with
        inquiries := p.inquiries ++ (Monitor.planServers c p.fleet).map fun e => .planned e.1 }
  | advanced {p : Patrol κ} {earlier later : List Inquiry} {q q' : Inquiry} {heard : List Nat}
      (before : Patrolled c may p) (here : p.inquiries = earlier ++ q :: later)
      (step : q.Step c p.fleet q' heard) :
      Patrolled c may { p with
        inquiries := earlier ++ q' :: later
        answered := p.answered ++ heard }
  | settled {p : Patrol κ} {earlier later : List Inquiry} {id : String} {finding : ServerFinding}
      (before : Patrolled c may p) (here : p.inquiries = earlier ++ .found id finding :: later)
      (now : Nat) :
      Patrolled c may { p with
        fleet := (Monitor.applyServer c now p.fleet id finding).2
        inquiries := earlier ++ later }
  | called {p : Patrol κ} (before : Patrolled c may p) {call : Registry.Call κ}
      (other : call.LeavesServers) :
      Patrolled c may { p with fleet := (p.fleet.perform (call.change ·)).2 }

/-- No check of the server that is under way has asked its client, or all it found is that the
daemon is not well. -/
def Unasked (inquiries : List Inquiry) (id : String) : Prop :=
  (∀ k, .asked id k ∉ inquiries) ∧ ∀ o, .found id (.ok o) ∉ inquiries

/-! ## What is kept -/

namespace Patrol

/-- What holds of every patrol: a check that asked, or found a daemon well, is about the client that
the pool has, if it has one at all. -/
structure Trusted (p : Patrol κ) : Prop where
  keyed : p.fleet.registry.servers.Keyed Server.serverId
  clients : ∀ id s, p.fleet.registry.servers.get? id = some s → ∃ k, p.fleet.pool.get? id = some k
  numbered : ∀ id k, p.fleet.pool.get? id = some k → k < p.registrations
  own : ∀ i j k, p.fleet.pool.get? i = some k → p.fleet.pool.get? j = some k → i = j
  asked : ∀ id k, .asked id k ∈ p.inquiries → ∀ k', p.fleet.pool.get? id = some k' → k' = k
  found : ∀ id o, .found id (.ok o) ∈ p.inquiries →
    ∀ k, p.fleet.pool.get? id = some k → k ∈ p.answered
  healthy : ∀ id s, p.fleet.registry.servers.get? id = some s → s.status = .healthy →
    ∀ k, p.fleet.pool.get? id = some k → k ∈ p.answered

namespace Trusted

variable {p : Patrol κ}

/-- The same pool and the same servers; one that is healthy now was so before, or its client has
answered. -/
theorem renew (h : p.Trusted) {f' : Fleet κ Nat} (pool : f'.pool = p.fleet.pool)
    (servers : ∀ id s', f'.registry.servers.get? id = some s' →
      ∃ s, p.fleet.registry.servers.get? id = some s ∧ s'.serverId = s.serverId ∧
        (s'.status = .healthy → s.status = .healthy ∨
          ∀ k, p.fleet.pool.get? id = some k → k ∈ p.answered)) :
    Trusted { p with fleet := f' } := by
  obtain ⟨ledger, _, placer, events⟩ := f'
  subst pool
  refine { h with keyed := ?_, clients := ?_, healthy := ?_ }
  · intro id s' found
    obtain ⟨s, hs, hid, -⟩ := servers id s' found
    exact hid.trans (h.keyed id s hs)
  · intro id s' found
    obtain ⟨s, hs, -⟩ := servers id s' found
    exact h.clients id s hs
  · intro id s' found well
    obtain ⟨s, hs, -, hwell⟩ := servers id s' found
    rcases hwell well with hbefore | hanswered
    · exact h.healthy id s hs hbefore
    · exact hanswered

/-- The same pool, and servers of the same standing. -/
theorem standing (h : p.Trusted) {f' : Fleet κ Nat} (pool : f'.pool = p.fleet.pool)
    (servers : p.fleet.registry.servers.Matches Server.SameStanding f'.registry.servers) :
    Trusted { p with fleet := f' } := by
  refine h.renew pool fun id s' found => ?_
  obtain ⟨s, hs, same⟩ := servers.some_right found
  exact ⟨s, hs, same.serverId, fun well => .inl (same.status.symm.trans well)⟩

/-- Fewer checks under way. -/
theorem fewer (h : p.Trusted) {inquiries : List Inquiry}
    (subset : ∀ q ∈ inquiries, q ∈ p.inquiries) : Trusted { p with inquiries } :=
  { h with
    asked := fun id k hmem => h.asked id k (subset _ hmem)
    found := fun id o hmem => h.found id o (subset _ hmem) }

theorem plan (h : p.Trusted) (c : MonitorConfig) :
    Trusted { p with
      inquiries := p.inquiries ++ (Monitor.planServers c p.fleet).map fun e => .planned e.1 } :=
  { h with
    asked := fun id k hmem => by
      rcases List.mem_append.1 hmem with hearlier | hnew
      · exact h.asked id k hearlier
      · obtain ⟨e, -, heq⟩ := List.mem_map.1 hnew
        cases heq
    found := fun id o hmem => by
      rcases List.mem_append.1 hmem with hearlier | hnew
      · exact h.found id o hearlier
      · obtain ⟨e, -, heq⟩ := List.mem_map.1 hnew
        cases heq }

/-- **A step of a check.** -/
theorem advance (h : p.Trusted) {c : MonitorConfig} {earlier later : List Inquiry} {q q' : Inquiry}
    {heard : List Nat} (here : p.inquiries = earlier ++ q :: later)
    (step : q.Step c p.fleet q' heard) :
    Trusted { p with
      inquiries := earlier ++ q' :: later
      answered := p.answered ++ heard } := by
  have hothers : ∀ q₁ ∈ earlier ++ q' :: later, q₁ = q' ∨ q₁ ∈ p.inquiries := by
    intro q₁ hmem
    rw [here]
    rcases List.mem_append.1 hmem with hearlier | hmem
    · exact .inr (List.mem_append_left _ hearlier)
    · rcases List.mem_cons.1 hmem with heq | hlater
      · exact .inl heq
      · exact .inr (List.mem_append_right _ (List.mem_cons_of_mem _ hlater))
  have hhere : q ∈ p.inquiries := here ▸ List.mem_append_right _ List.mem_cons_self
  refine { h with asked := ?_, found := ?_, healthy := ?_ }
  · intro id k hmem k' hk'
    rcases hothers _ hmem with rfl | hearlier
    · exact Option.some.inj (hk'.symm.trans step.client)
    · exact h.asked id k hearlier k' hk'
  · intro id o hmem k hk
    rcases hothers _ hmem with rfl | hearlier
    · obtain ⟨k₀, rfl, hheard⟩ := step.told
      rw [h.asked id k₀ hhere k hk]
      exact List.mem_append_right _ hheard
    · exact List.mem_append_left _ (h.found id o hearlier k hk)
  · intro id s found well k hk
    exact List.mem_append_left _ (h.healthy id s found well k hk)

variable [Quantity κ]

/-- **A registration** under an id of which no check has asked. -/
theorem register (h : p.Trusted) (connect : Server κ → Except BackendError Unit)
    {config : ServerConfig κ} (unasked : Unasked p.inquiries config.serverId) :
    (p.register connect config).Trusted := by
  have hearlier : ∀ id k, p.fleet.pool.get? id = some k → k < p.registrations + 1 :=
    fun id k hk => Nat.lt_succ_of_lt (h.numbered id k hk)
  rcases Orchestrator.addServer_cases (fun s => (connect s).map fun _ => p.registrations) config
    p.fleet with ⟨hservers, hpool⟩ | ⟨client, hclient, -, hservers, hpool⟩
  · have hsame := h.standing hpool (hservers ▸ Registry.standing_refl _)
    refine { hsame with numbered := ?_ }
    show ∀ id k, (Orchestrator.addServer _ config p.fleet).2.pool.get? id = some k → _
    rw [hpool]
    exact hearlier
  · obtain ⟨-, -, rfl⟩ := map_eq_ok.1 hclient
    unfold Patrol.register
    constructor
    case keyed =>
      rw [hservers]
      exact h.keyed.insert rfl
    case clients =>
      intro id s found
      rw [hservers, Table.get?_insert] at found
      rw [hpool, Table.get?_insert]
      split
      · exact ⟨_, rfl⟩
      · next hne =>
        rw [if_neg hne] at found
        exact h.clients id s found
    case numbered =>
      intro id k hk
      rw [hpool, Table.get?_insert] at hk
      split at hk
      · cases hk
        exact Nat.lt_succ_self _
      · exact hearlier id k hk
    case own =>
      intro i j k hi hj
      rw [hpool, Table.get?_insert] at hi hj
      split at hi
      · next hci =>
        cases hi
        split at hj
        · next hcj => exact hci.symm.trans hcj
        · exact absurd (h.numbered j _ hj) (Nat.lt_irrefl _)
      · split at hj
        · cases hj
          exact absurd (h.numbered i _ hi) (Nat.lt_irrefl _)
        · exact h.own i j k hi hj
    case asked =>
      intro id k hmem k' hk'
      have hne : config.serverId ≠ id := fun heq => unasked.1 k (heq ▸ hmem)
      rw [hpool, Table.get?_insert_of_ne hne] at hk'
      exact h.asked id k hmem k' hk'
    case found =>
      intro id o hmem k hk
      have hne : config.serverId ≠ id := fun heq => unasked.2 o (heq ▸ hmem)
      rw [hpool, Table.get?_insert_of_ne hne] at hk
      exact h.found id o hmem k hk
    case healthy =>
      intro id s found well k hk
      rw [hservers, Table.get?_insert] at found
      rw [hpool, Table.get?_insert] at hk
      split at found
      · cases found
        cases well
      · next hne =>
        rw [if_neg hne] at hk
        exact h.healthy id s found well k hk

theorem remove (h : p.Trusted) (id : String) :
    Trusted { p with fleet := (Orchestrator.removeServer id p.fleet).2 } := by
  rcases Orchestrator.removeServer_cases id p.fleet with ⟨hservers, hpool⟩ | ⟨hservers, hpool⟩
  · exact h.standing hpool (hservers ▸ Registry.standing_refl _)
  · have hpool_sub : ∀ j k, (Orchestrator.removeServer id p.fleet).2.pool.get? j = some k →
        p.fleet.pool.get? j = some k := by
      intro j k hk
      rw [hpool, Table.get?_erase] at hk
      split at hk
      · cases hk
      · exact hk
    have hservers_sub : ∀ j s, (Orchestrator.removeServer id p.fleet).2.registry.servers.get? j =
        some s → id ≠ j ∧ p.fleet.registry.servers.get? j = some s := by
      intro j s found
      rw [hservers, Table.get?_erase] at found
      split at found
      · cases found
      · next hne => exact ⟨hne, found⟩
    constructor
    case keyed => exact fun j s found => h.keyed j s (hservers_sub j s found).2
    case clients =>
      intro j s found
      obtain ⟨hne, hs⟩ := hservers_sub j s found
      rw [hpool, Table.get?_erase, if_neg hne]
      exact h.clients j s hs
    case numbered => exact fun j k hk => h.numbered j k (hpool_sub j k hk)
    case own => exact fun i j k hi hj => h.own i j k (hpool_sub i k hi) (hpool_sub j k hj)
    case asked => exact fun j k hmem k' hk' => h.asked j k hmem k' (hpool_sub j k' hk')
    case found => exact fun j o hmem k hk => h.found j o hmem k (hpool_sub j k hk)
    case healthy =>
      exact fun j s found well k hk =>
        h.healthy j s (hservers_sub j s found).2 well k (hpool_sub j k hk)

/-- **A finding that is recorded.** The server under the id is the one that was asked, as its client
is still the one that was asked. -/
theorem settle (h : p.Trusted) (c : MonitorConfig) (now : Nat) {earlier later : List Inquiry}
    {id : String} {finding : ServerFinding}
    (here : p.inquiries = earlier ++ .found id finding :: later) :
    Trusted { p with
      fleet := (Monitor.applyServer c now p.fleet id finding).2
      inquiries := earlier ++ later } := by
  have hrenewed : Trusted { p with
      fleet := (Monitor.applyServer c now p.fleet id finding).2 } := by
    rcases Monitor.applyServer_cases c now p.fleet id finding with
      hsame | ⟨s, found, hpool, hservers⟩
    · rw [hsame]
      exact h
    · refine h.renew hpool fun j v hv => ?_
      rw [hservers, Table.get?_insert] at hv
      split at hv
      · next hj =>
        cases hv
        refine ⟨s, hj ▸ found, rfl, fun well => .inr ?_⟩
        obtain ⟨o, rfl⟩ := Monitor.isOk_of_healthy well
        exact hj ▸ h.found id o (here ▸ List.mem_append_right _ List.mem_cons_self)
      · exact ⟨v, hv, rfl, .inl⟩
  refine hrenewed.fewer fun q hmem => ?_
  show q ∈ p.inquiries
  rw [here]
  rcases List.mem_append.1 hmem with hearlier | hlater
  · exact List.mem_append_left _ hearlier
  · exact List.mem_append_right _ (List.mem_cons_of_mem _ hlater)

end Trusted
end Patrol

/-! ## Runs -/

section Runs

variable [Quantity κ] {c : MonitorConfig} {may : List Inquiry → String → Prop} {p : Patrol κ}

theorem Patrolled.settleServer_foldl {findings : List (String × ServerFinding)} {now : Nat}
    {planned : List String} {rest : List Inquiry} (h : Patrolled c may p)
    (here : p.inquiries = planned.map (fun id =>
      .found id ((Monitor.arrived? findings id).getD (.error unfinishedText))) ++ rest)
    (sum : ServerSummary) :
    Patrolled c may { p with
      fleet := (planned.foldl (Monitor.settleServer c now findings) (sum, p.fleet)).2
      inquiries := rest } := by
  induction planned generalizing p sum with
  | nil =>
    obtain ⟨fleet, registrations, _, answered⟩ := p
    subst here
    exact h
  | cons id planned ih =>
    exact ih (h.settled (show _ = [] ++ Inquiry.found id _ :: _ from here) now) rfl _

/-- **The end of a round** records what its checks found, one after the other. -/
theorem Patrolled.settleServers {findings : List (String × ServerFinding)} {planned : List String}
    {rest : List Inquiry} (h : Patrolled c may p)
    (here : p.inquiries = planned.map (fun id =>
      .found id ((Monitor.arrived? findings id).getD (.error unfinishedText))) ++ rest)
    (now : Nat) :
    Patrolled c may { p with
      fleet := (Monitor.settleServers c now planned findings p.fleet).2
      inquiries := rest } :=
  h.settleServer_foldl here _

theorem Patrolled.trusted (h : Patrolled c Unasked p) : p.Trusted := by
  induction h with
  | opened keyed unseen clients numbered own =>
    exact ⟨keyed, clients, numbered, own, nofun, nofun,
      fun id s found well => absurd well (unseen id s found)⟩
  | registered before connect config allowed ih => exact ih.register connect allowed
  | removed before id ih => exact ih.remove id
  | planned before ih => exact ih.plan c
  | advanced before here step ih => exact ih.advance here step
  | settled before here now ih => exact ih.settle c now here
  | called before other ih => exact ih.standing rfl (Registry.Call.standing ih.keyed other)

/-- **A healthy server's own client has answered**, in every run in which no server is registered
under an id while a check of that id has asked and may find a daemon well. -/
theorem Patrolled.vouched (h : Patrolled c Unasked p) {id : String} {s : Server κ}
    (found : p.fleet.registry.servers.get? id = some s) (healthy : s.status = .healthy) :
    ∃ k, p.fleet.pool.get? id = some k ∧ (∀ j, p.fleet.pool.get? j = some k → j = id) ∧
      k ∈ p.answered := by
  obtain ⟨k, hk⟩ := h.trusted.clients id s found
  exact ⟨k, hk, fun j hj => h.trusted.own j id k hj hk, h.trusted.healthy id s found healthy k hk⟩

end Runs

namespace PatrolRun

def connect : Server Rat → Except BackendError Unit := fun _ => .ok ()

/-- Nothing is registered. -/
def start : Patrol Rat := ⟨⟨.inMemory, ∅, .initial, []⟩, 0, [], []⟩

/-- The sample server is registered, and its client is number 0. -/
def registered : Patrol Rat := start.register connect SampleRun.config

/-- A round has planned its check, and the check has asked the client. -/
theorem asked_patrolled (may : List Inquiry → String → Prop) (allowed : may [] "a") :
    Patrolled WatchedRun.settings may { registered with inquiries := [.asked "a" 0] } := by
  have hstart : Patrolled WatchedRun.settings may start :=
    .opened (.nothing _) Table.All.nothing
      (fun id s found => absurd found (Table.get?_nothing_ne id s))
      (fun id k found => absurd found (Table.get?_nothing_ne id k))
      (fun i _ k found => absurd found (Table.get?_nothing_ne i k))
  have hplanned := (hstart.registered connect SampleRun.config allowed).planned
  exact hplanned.advanced (show _ = [] ++ Inquiry.planned "a" :: [] by decide +kernel)
    (.asked (eq_ok_of_toOption (by decide +kernel)))

/-- What the check finds. -/
def finding : ServerFinding :=
  Monitor.serverFinding WatchedRun.settings "a" (some WatchedRun.answers)

/-- The server was taken out and registered anew, and its client is number 1. -/
def reregistered : Patrol Rat :=
  Patrol.register connect SampleRun.config
    { registered with
      fleet := (Orchestrator.removeServer "a" registered.fleet).2
      inquiries := [.asked "a" 0] }

end PatrolRun

open PatrolRun in
/-- A server whose daemon says how it fares. -/
theorem vouched_answered : ∃ (p : Patrol Rat) (s : Server Rat),
    Patrolled WatchedRun.settings Unasked p ∧ p.fleet.registry.servers.get? "a" = some s ∧
      s.status = .healthy ∧ p.fleet.pool.get? "a" = some 0 ∧ 0 ∈ p.answered := by
  have hreplied := (asked_patrolled Unasked ⟨nofun, nofun⟩).advanced
    (show _ = [] ++ Inquiry.asked "a" 0 :: [] from rfl) (.replied WatchedRun.answers)
  have hsettled := hreplied.settled (show _ = [] ++ Inquiry.found "a" finding :: [] from rfl) 0
  obtain ⟨s, hs, hhealthy⟩ : ∃ s, (Monitor.applyServer WatchedRun.settings 0 registered.fleet "a"
      finding).2.registry.servers.get? "a" = some s ∧ s.status = .healthy :=
    Option.map_eq_some_iff.1 (by decide +kernel)
  have hclient : (Monitor.applyServer WatchedRun.settings 0 registered.fleet "a"
      finding).2.pool.get? "a" = some 0 := by decide +kernel
  obtain ⟨k, hk, -, hanswered⟩ := hsettled.vouched hs hhealthy
  cases hclient.symm.trans hk
  exact ⟨_, s, hsettled, hs, hhealthy, hclient, hanswered⟩

open PatrolRun in
/-- **A server that nobody vouched for.** While a check of the old server has asked, it is taken out
and another is registered under its id. What the old server's daemon says makes the new one healthy,
and its own client has never answered. -/
theorem unvouched_reregistered : ∃ (p : Patrol Rat) (s : Server Rat),
    Patrolled WatchedRun.settings (fun _ _ => True) p ∧
      p.fleet.registry.servers.get? "a" = some s ∧ s.status = .healthy ∧
      p.fleet.pool.get? "a" = some 1 ∧ 1 ∉ p.answered := by
  have hanew := ((asked_patrolled (fun _ _ => True) trivial).removed "a").registered connect
    SampleRun.config trivial
  have hreplied := hanew.advanced (show _ = [] ++ Inquiry.asked "a" 0 :: [] from rfl)
    (.replied WatchedRun.answers)
  have hsettled := hreplied.settled (show _ = [] ++ Inquiry.found "a" finding :: [] from rfl) 0
  obtain ⟨s, hs, hhealthy⟩ : ∃ s, (Monitor.applyServer WatchedRun.settings 0 reregistered.fleet "a"
      finding).2.registry.servers.get? "a" = some s ∧ s.status = .healthy :=
    Option.map_eq_some_iff.1 (by decide +kernel)
  exact ⟨_, s, hsettled, hs, hhealthy, by decide +kernel, by decide⟩

end WorkspaceFleet
