import WorkspaceFleet.Proofs.Accounting
import WorkspaceFleet.Proofs.Starting
import WorkspaceFleet.Proofs.Steady

/-!
# WorkspaceFleet.Proofs.Membership

Servers come and go while work is under way.

A server is registered in one table and its client stands in another, and what keeps a server that
is in use from being taken out is a counter. `Managed` holds of every fleet that is reached from an
empty one, or from a start over what was persisted, while servers are taken in and out and any
number of tasks take their steps. `Managed.in_step` says that the two tables always have the same
ids, that whatever names a server names one of them, and that a server is taken in or out on both
sides or on neither.
-/

namespace WorkspaceFleet

variable {κ χ : Type}

/-! ## What names a server -/

/-- The container that a daemon is asked about. -/
def Operation.container? : Operation κ → Option String
  | .create _ => none
  | .start c => some c
  | .stop c => some c
  | .remove c => some c
  | .exec c _ => some c
  | .stats c => some c
  | .info => none

namespace Registry

variable {r : Registry κ} {issued : List (Reservation κ)} {id : String}

/-- A record or a pending hold is on the server. -/
def Names (r : Registry κ) (id : String) : Prop :=
  (∃ c w, r.workspaces.get? c = some w ∧ w.serverId = id) ∨
    ∃ hold ∈ r.pending, hold.serverId = id

/-- What names a server is counted on it. -/
theorem Sound.exists_of_names (h : r.Sound issued) (names : r.Names id) :
    ∃ s, r.servers.get? id = some s ∧ 0 < s.workspaceCount := by
  have hload : 0 < r.loadOn id .slots := by
    rcases names with ⟨c, w, found, rfl⟩ | ⟨hold, pending, rfl⟩
    · exact needs_le_loadOn found .slots
    · exact h.booked.needs_le pending .slots
  obtain ⟨s, hs⟩ := h.counted.exists_server hload
  exact ⟨s, hs, Nat.lt_of_lt_of_le hload (h.counted.loadOn_le hs .slots)⟩

variable [Quantity κ]

/-- A hold is given back to its server. -/
theorem Sound.release_ne (h : r.Sound issued) (hold : Reservation κ) (id : String) :
    (r.release hold).result ≠ .error (.serverNotFound id) := by
  intro herror
  obtain ⟨held, pending, -, hcause⟩ := release_eq_error herror
  obtain ⟨s, hs, -⟩ := h.exists_of_names (.inr ⟨held, pending, rfl⟩)
  rcases hcause with ⟨missing, -⟩ | ⟨s', counter, -, -, heq⟩
  · rw [hs] at missing
    cases missing
  · cases heq

end Registry

variable [Quantity κ]

namespace Ledger

variable {l : Ledger κ} {issued : List (Reservation κ)} {calls : List (Registry.Call κ)}

theorem sound_after (h : l.registry.Sound issued)
    (permitted : ∀ call ∈ calls, call.Permitted issued fun _ => True)
    (numbers : Registry.NumberLeft (after (l, issued) calls).2) :
    (after (l, issued) calls).1.registry.Sound (after (l, issued) calls).2 := by
  induction calls generalizing l issued with
  | nil => exact h
  | cons call rest ih =>
    have hcall := List.forall_mem_cons.1 permitted
    refine ih (l := (l.perform (call.change ·)).2)
      (h.effect (Registry.change_effect hcall.1)) (fun other hother => ?_) numbers
    exact (hcall.2 other hother).mono (fun hold hmem => List.mem_append_left _ hmem)
      (numberLeft_before (_, _) numbers)

theorem contains_after (keyed : l.registry.servers.Keyed Server.serverId)
    (leaves : ∀ call ∈ calls, call.LeavesServers) (id : String) :
    (after (l, issued) calls).1.registry.servers.contains id =
      l.registry.servers.contains id := by
  induction calls generalizing l issued with
  | nil => rfl
  | cons call rest ih =>
    have hcall := List.forall_mem_cons.1 leaves
    have hstanding := Registry.Call.standing keyed hcall.1
    exact (ih (l := (l.perform (call.change ·)).2) (Registry.keyed_of_standing hstanding keyed)
      hcall.2).trans (hstanding.contains_eq id)

end Ledger

/-! ## Refusals -/

namespace Orchestrator

variable {connect : Server κ → Except BackendError χ} {config : ServerConfig κ} {f f' : Fleet κ χ}
  {id : String} {e : OrchestratorError}

/-- A server that is refused leaves everything as it was. -/
theorem eq_of_addServer_error (h : addServer connect config f = (.error e, f')) : f' = f := by
  rcases addServer_done connect config f with ⟨e', heq⟩ | ⟨client, -, -, heq⟩
  · rw [heq] at h
    cases h
    rfl
  · rw [heq] at h
    cases h

/-- A server that is not taken out leaves everything as it was. -/
theorem eq_of_removeServer_error (h : removeServer id f = (.error e, f')) : f' = f := by
  rcases removeServer_done id f with ⟨e', heq⟩ | ⟨s, -, -, heq⟩
  · rw [heq] at h
    cases h
    rfl
  · rw [heq] at h
    cases h

/-- A server is refused that is known, or of which no client can be made. -/
theorem addServer_refused (cause : f.registry.servers.contains config.serverId = true ∨
    ∃ e, connect (.ofConfig config) = .error e) :
    ∃ e, addServer connect config f = (.error e, f) := by
  rcases addServer_done connect config f with hrefused | ⟨client, hclient, hnew, -⟩
  · exact hrefused
  · rcases cause with known | ⟨e, failed⟩
    · rw [Table.contains_eq_false_iff.2 hnew] at known
      cases known
    · rw [hclient] at failed
      cases failed

/-- A server that counts a workspace is not taken out. -/
theorem removeServer_refused {s : Server κ} (found : f.registry.servers.get? id = some s)
    (used : 0 < s.workspaceCount) : ∃ e, removeServer id f = (.error e, f) := by
  rcases removeServer_done id f with hrefused | ⟨s', found', idle, -⟩
  · exact hrefused
  · rw [found] at found'
    cases found'
    exact absurd idle (Nat.ne_of_gt used)

end Orchestrator

/-! ## What every step keeps -/

/-- The registry is sound, exactly the registered servers have a client, and the tasks under way
take no servers in or out. -/
structure Fleet.InStep (f : Fleet κ χ) (issued : List (Reservation κ)) (tasks : List (Task κ χ)) :
    Prop where
  sound : f.registry.Sound issued
  attended : f.Attended
  given : ∀ t ∈ tasks, ∀ hold ∈ t.own, hold ∈ issued
  steady : ∀ t ∈ tasks, t.Steady

namespace Fleet.InStep

variable {f : Fleet κ χ} {issued : List (Reservation κ)} {tasks : List (Task κ χ)}

theorem added (h : f.InStep issued tasks) (connect : Server κ → Except BackendError χ)
    {config : ServerConfig κ} (range : config.InRange) :
    (Orchestrator.addServer connect config f).2.InStep issued tasks := by
  rcases Orchestrator.addServer_done connect config f with ⟨e, heq⟩ | ⟨client, -, hnew, heq⟩
  · rw [heq]
    exact h
  · rw [heq]
    refine { h with sound := h.sound.quiet (.addServer config) range rfl, attended := fun id => ?_ }
    show (f.pool.insert config.serverId client).contains id =
      (f.registry.addServer (.ofConfig config)).registry.servers.contains id
    rw [Registry.servers_addServer hnew, Table.contains_insert, Table.contains_insert, h.attended]
    rfl

theorem removed (h : f.InStep issued tasks) (id : String) :
    (Orchestrator.removeServer id f).2.InStep issued tasks := by
  rcases Orchestrator.removeServer_done id f with ⟨e, heq⟩ | ⟨s, found, idle, heq⟩
  · rw [heq]
    exact h
  · rw [heq]
    refine { h with sound := h.sound.quiet (.removeServer id) trivial rfl, attended := fun j => ?_ }
    show (f.pool.erase id).contains j = (f.registry.removeServer id).registry.servers.contains j
    rw [Registry.servers_removeServer found idle, Table.contains_erase, Table.contains_erase,
      h.attended]

/-- A finding changes no client, and is recorded if the server is still there. -/
theorem checked (h : f.InStep issued tasks) (c : MonitorConfig) {now : Nat} (time : now < word64)
    (id : String) {finding : ServerFinding} (range : ∀ o, finding = .ok o → o.InRange) :
    (Monitor.applyServer c now f id finding).2.InStep issued tasks := by
  cases found : f.registry.servers.get? id with
  | none =>
    rw [Monitor.applyServer_of_none c now finding found]
    exact h
  | some s =>
    have hrecorded : (f.perform
        (·.recordServerCheck id (Monitor.serverCheck c now s finding))).2.InStep issued tasks := by
      refine { h with sound := ?_, attended := fun j => ?_ }
      · exact h.sound.quiet (.recordServerCheck id (Monitor.serverCheck c now s finding))
          (inRange_serverCheck c time s range) rfl
      · show f.pool.contains j = (f.registry.recordServerCheck id _).registry.servers.contains j
        simp only [Registry.recordServerCheck, found, Registry.changed]
        rw [h.attended, Table.contains_insert_of_get? found]
    rw [Monitor.applyServer_of_get? c now finding found]
    dsimp only
    split
    · exact hrecorded
    · exact { hrecorded with }

theorem begun (h : f.InStep issued tasks) (job : Job κ) :
    f.InStep issued (tasks ++ [job.task]) := by
  refine { h with given := ?_, steady := ?_ }
  · refine List.forall_mem_append.2 ⟨h.given, List.forall_mem_singleton.2 ?_⟩
    rw [job.own_task]
    nofun
  · exact List.forall_mem_append.2 ⟨h.steady, List.forall_mem_singleton.2 job.steady⟩

/-- **A step of a task.** -/
theorem stepped {f' : Fleet κ χ} {t : Task κ χ} {earlier later left : List (Task κ χ)}
    {calls : List (Registry.Call κ)} (h : f.InStep issued (earlier ++ t :: later))
    (step : t.Step f calls left f')
    (numbers : Registry.NumberLeft (Ledger.after (f.ledger, issued) calls).2) :
    f'.InStep (Ledger.after (f.ledger, issued) calls).2 (earlier ++ left ++ later) := by
  obtain ⟨hpermitted, hledger, hgiven⟩ := step.among h.given numbers
  obtain ⟨hearlier, hrest⟩ := List.forall_mem_append.1 h.steady
  obtain ⟨hsteady, hlater⟩ := List.forall_mem_cons.1 hrest
  obtain ⟨hpool, hleaves, hleft⟩ := step.steady hsteady
  refine ⟨?_, fun id => ?_, hgiven, ?_⟩
  · rw [Fleet.registry, hledger]
    exact Ledger.sound_after h.sound hpermitted numbers
  · rw [hpool, h.attended, Fleet.registry, Fleet.registry, hledger]
    exact (Ledger.contains_after h.sound.booked.keyed hleaves id).symm
  · exact List.forall_mem_append.2 ⟨List.forall_mem_append.2 ⟨hearlier, hleft⟩, hlater⟩

/-- What is named can be called. -/
theorem client_of_names (h : f.InStep issued tasks) {id : String} (names : f.registry.Names id) :
    ∃ client, f.client id = .ok client := by
  obtain ⟨s, found, -⟩ := h.sound.exists_of_names names
  have hpool : f.pool.contains id = true := by
    rw [h.attended, Table.contains_of_get? found]
  obtain ⟨client, hclient⟩ := Option.isSome_iff_exists.1 hpool
  exact ⟨client, by rw [Fleet.client, hclient]⟩

end Fleet.InStep

/-! ## Managed fleets -/

/-- The task is about to call the daemon of a server. -/
inductive Task.Asks : Task κ χ → String → Operation κ → Prop where
  | here {α : Type} {own : List (Reservation κ)} {id : String} {op : Operation κ}
      {abandon : Fleet κ χ → Fleet κ χ} {next : Except BackendError op.Answer → Activity κ χ α}
      {calls : Fleet κ χ → List (Registry.Call κ)}
      {makes : Fleet.Makes own abandon calls fun _ => own}
      {rest : ∀ answer, (next answer).Calls own} :
      Asks ⟨own, .call id op abandon next, .call calls makes rest⟩ id op

/-- Under a hold the daemon of its server is called. -/
theorem Task.Steady.serverId_eq {t : Task κ χ} (h : t.Steady) {id : String} {op : Operation κ}
    (asks : t.Asks id op) : ∀ hold ∈ t.own, hold.serverId = id := by
  cases asks with
  | here => exact h.1

/-- The fleets that are reached from an empty one, or from a start over a store that was written
before, with the holds given out and the tasks under way. Servers are taken in and out and findings
about them recorded at any time, and the tasks take their steps in between. The holds never run out
of numbers. -/
inductive Managed :
    Fleet Float Client → List (Reservation Float) → List (Task Float Client) → Prop where
  | empty {f : Fleet Float Client} (nothing : f.registry = .empty) (alone : f.pool = ∅) :
      Managed f [] []
  | started {text dataDir : String} {config : FleetConfig Float} {store : Store Float}
      {ledger : Ledger Float} {f : Fleet Float Client}
      (written : Reached (fun _ _ => True) (.stopped store))
      (opens : Ledger.ofStore store = .ok ledger)
      (accepted : FleetConfig.parse text = .ok config)
      (loads : (Service.loadFleet dataDir config ledger).Yields f) : Managed f [] []
  | added {f : Fleet Float Client} {issued : List (Reservation Float)}
      {tasks : List (Task Float Client)} (before : Managed f issued tasks)
      (connect : Server Float → Except BackendError Client) {config : ServerConfig Float}
      (range : config.InRange) : Managed (Orchestrator.addServer connect config f).2 issued tasks
  | removed {f : Fleet Float Client} {issued : List (Reservation Float)}
      {tasks : List (Task Float Client)} (before : Managed f issued tasks) (id : String) :
      Managed (Orchestrator.removeServer id f).2 issued tasks
  | checked {f : Fleet Float Client} {issued : List (Reservation Float)}
      {tasks : List (Task Float Client)} (before : Managed f issued tasks) (c : MonitorConfig)
      {now : Nat} (time : now < word64) (id : String) {finding : ServerFinding}
      (range : ∀ o, finding = .ok o → o.InRange) :
      Managed (Monitor.applyServer c now f id finding).2 issued tasks
  | begun {f : Fleet Float Client} {issued : List (Reservation Float)}
      {tasks : List (Task Float Client)} (before : Managed f issued tasks) (job : Job Float) :
      Managed f issued (tasks ++ [job.task])
  | stepped {f f' : Fleet Float Client} {issued : List (Reservation Float)}
      {t : Task Float Client} {earlier later left : List (Task Float Client)}
      {calls : List (Registry.Call Float)} (before : Managed f issued (earlier ++ t :: later))
      (step : t.Step f calls left f')
      (numbers : Registry.NumberLeft (Ledger.after (f.ledger, issued) calls).2) :
      Managed f' (Ledger.after (f.ledger, issued) calls).2 (earlier ++ left ++ later)

namespace Managed

variable {f : Fleet Float Client} {issued : List (Reservation Float)}
  {tasks : List (Task Float Client)}

theorem invariant (h : Managed f issued tasks) : f.InStep issued tasks := by
  induction h with
  | empty nothing alone =>
    refine ⟨nothing ▸ .empty, fun id => ?_, nofun, nofun⟩
    rw [nothing, alone]
    rfl
  | started written opens accepted loads =>
    have hledger := Ledger.Sound.opened written.sound opens
    obtain ⟨hsound, hattended⟩ := Service.attended_of_loadFleet hledger.registry
      (FleetConfig.accepted_of_parse accepted).1 loads
    exact ⟨hsound, hattended, nofun, nofun⟩
  | added before connect range ih => exact ih.added connect range
  | removed before id ih => exact ih.removed id
  | checked before c time id range ih => exact ih.checked c time id range
  | begun before job ih => exact ih.begun job
  | stepped before step numbers ih => exact ih.stepped step numbers

/-- **Registry, clients and references stay in step.** However servers come and go and tasks take
their turns, exactly the registered servers have a client. What a record or a pending hold names is
registered, can be called, and is not taken out, so every hold can be given back; a task that calls
under its pending hold, or about a container that is recorded on the server, finds the client. A
server that is known, or of which no client can be made, is refused, and a server that is refused or
is not taken out leaves everything as it was. -/
theorem in_step (h : Managed f issued tasks) :
    (∀ id, f.pool.contains id = f.registry.servers.contains id) ∧
    (∀ id, f.registry.Names id →
      (∃ s, f.registry.servers.get? id = some s) ∧ (∃ client, f.client id = .ok client) ∧
        ∃ e, Orchestrator.removeServer id f = (.error e, f)) ∧
    (∀ hold id, (f.registry.release hold).result ≠ .error (.serverNotFound id)) ∧
    (∀ t ∈ tasks, ∀ id op, t.Asks id op →
      ((∃ hold ∈ t.own, hold ∈ f.registry.pending) ∨
        ∃ c w, op.container? = some c ∧ f.registry.workspaces.get? c = some w ∧ w.serverId = id) →
      ∃ client, f.client id = .ok client) ∧
    (∀ connect config, (f.registry.servers.contains config.serverId = true ∨
        ∃ e, connect (.ofConfig config) = .error e) →
      ∃ e, Orchestrator.addServer connect config f = (.error e, f)) ∧
    (∀ connect config e f', Orchestrator.addServer connect config f = (.error e, f') → f' = f) ∧
    ∀ id e f', Orchestrator.removeServer id f = (.error e, f') → f' = f := by
  have hinv := h.invariant
  refine ⟨hinv.attended, ?_, hinv.sound.release_ne, ?_,
    fun _ _ => Orchestrator.addServer_refused, fun _ _ _ _ => Orchestrator.eq_of_addServer_error,
    fun _ _ _ => Orchestrator.eq_of_removeServer_error⟩
  · intro id names
    obtain ⟨s, found, used⟩ := hinv.sound.exists_of_names names
    exact ⟨⟨s, found⟩, hinv.client_of_names names, Orchestrator.removeServer_refused found used⟩
  · intro t ht id op asks live
    refine hinv.client_of_names ?_
    rcases live with ⟨hold, own, pending⟩ | ⟨c, w, -, found, here⟩
    · exact .inr ⟨hold, pending, (hinv.steady t ht).serverId_eq asks hold own⟩
    · exact .inl ⟨c, w, found, here⟩

end Managed

namespace ManagedRun

open SampleConfig

def spec : ContainerSpec Float where
  name := none
  image := "image"
  cmd := []
  env := ∅
  labels := ∅
  workingDir := none
  cpuCores := 0
  memoryMb := 0

def needs : Requirements Float := .ofResources 1 40 3

/-- The creation of a workspace. -/
def creation : Job Float :=
  .create "ws-1" needs spec 0 ⟨by decide, by decide⟩ (by decide)

/-- A start over a new store, on an empty disk. -/
def loaded (config : FleetConfig Float) : Except ServiceError (Fleet Float Client) × Session :=
  (Service.loadFleet "" config ⟨.empty, some .empty⟩).run.run ⟨⟨.empty, []⟩, []⟩

/-- The fleet after the creation has taken its hold. -/
def held (f : Fleet Float Client) : Fleet Float Client :=
  (f.perform (·.reserve "ws-1" needs.allocation)).2

theorem exists_held : ∃ (f : Fleet Float Client) (issued : List (Reservation Float))
    (tasks : List (Task Float Client)), Managed f issued tasks ∧
      f.registry.pending.map (·.serverId) = ["ws-1"] := by
  have hrun : ((FleetConfig.parse (text "16.0")).toOption.bind fun config =>
      (loaded config).1.toOption.map fun f => (held f).registry.pending.map (·.serverId)) =
      some ["ws-1"] := by
    decide +kernel
  obtain ⟨config, hconfig, hrun⟩ := Option.bind_eq_some_iff.1 hrun
  obtain ⟨f, hloaded, hpending⟩ := Option.map_eq_some_iff.1 hrun
  have hloads : loaded config = (.ok f, (loaded config).2) :=
    Prod.ext (eq_ok_of_toOption hloaded) rfl
  have hbegun := (Managed.started .created Ledger.ofStore_empty (eq_ok_of_toOption hconfig)
    ⟨_, _, hloads⟩).begun creation
  have hheld := Managed.stepped (show Managed f [] ([] ++ creation.task :: []) from hbegun)
    (.atomic f) (Ledger.numberLeft_after f.ledger _ (by decide))
  exact ⟨_, _, _, hheld, hpending⟩

end ManagedRun

/-- While the creation of a workspace has its hold, the server stays. -/
theorem in_step_held : ∃ (f : Fleet Float Client) (issued : List (Reservation Float))
    (tasks : List (Task Float Client)), Managed f issued tasks ∧
      f.registry.servers.contains "ws-1" = true ∧ f.pool.contains "ws-1" = true ∧
      ∃ e, Orchestrator.removeServer "ws-1" f = (.error e, f) := by
  obtain ⟨f, issued, tasks, h, hpending⟩ := ManagedRun.exists_held
  have hnames : f.registry.Names "ws-1" := by
    right
    exact List.mem_map.1 (hpending ▸ List.mem_singleton.2 rfl)
  obtain ⟨hsame, hnamed, -⟩ := h.in_step
  obtain ⟨⟨s, found⟩, -, hstays⟩ := hnamed "ws-1" hnames
  have hregistered := Table.contains_of_get? found
  exact ⟨f, issued, tasks, h, hregistered, (hsame "ws-1").trans hregistered, hstays⟩

end WorkspaceFleet
