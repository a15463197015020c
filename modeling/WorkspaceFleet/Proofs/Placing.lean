import WorkspaceFleet.Backend.Encoding
import WorkspaceFleet.Orchestrator
import WorkspaceFleet.Proofs.Run

/-!
# WorkspaceFleet.Proofs.Placing

Placing a workspace is all or nothing.

`Activity.Runs` says how an activity can go on its own: every call to a daemon is answered in some
way, or the activity is abandoned there. A placement takes one hold, and `Held` is what the
registry is until the hold is gone. From there a commit leaves the workspace `Placed`, and a
release leaves the placement `Undone`; `Orchestrator.all_or_nothing` puts together every way
through.

The store may refuse any of the writes. A hold that is not taken and a commit that is not made change
nothing, and the placement fails as it would otherwise. Only a release that is refused is not undone:
the hold is gone, and the server counts it until the next reconciliation (`Stranded`).
-/

namespace WorkspaceFleet

variable {κ χ α β ε : Type}

/-- Taking an allocation and giving it back changes at most the cores that are counted as used. -/
theorem Server.retract_apply [Quantity κ] (s : Server κ) (a : Allocation κ) :
    (s.apply a).retract a = { s with cpuUsed := ((s.apply a).retract a).cpuUsed } := by
  simp [apply, retract]

namespace Fleet

variable [Quantity κ]

theorem perform_eq (f : Fleet κ χ) (op : Registry κ → Change κ α) :
    f.perform op = ((op f.registry).result, (f.perform op).2) := rfl

theorem registry_perform (f : Fleet κ χ) (op : Registry κ → Change κ α) :
    (f.perform op).2.registry = (op f.registry).registry := rfl

theorem perform_unchanged (f : Fleet κ χ) (a : α) :
    f.perform (·.unchanged a) = (a, f) := by
  obtain ⟨⟨r, store⟩, pool, placer, events⟩ := f
  cases store <;> rfl

/-- An operation that changes nothing leaves the fleet as it is. -/
theorem perform_of_unchanged {f : Fleet κ χ} {op : Registry κ → Change κ α} {a : α}
    (same : op f.registry = f.registry.unchanged a) : f.perform op = (a, f) := by
  rw [← perform_unchanged f a, perform, perform, Ledger.perform, Ledger.perform]
  rw [registry] at same
  rw [same]

/-- The store takes every write. -/
theorem attempt_none (f : Fleet κ χ) (lift : RegistryError → ε)
    (op : Registry κ → Change κ (Except ε α)) :
    f.attempt none lift op = ((op f.registry).result, (f.perform op).2) := rfl

/-- What is left of an operation when the store refuses a write after the first `taken`. -/
def halted (f : Fleet κ χ) (taken : Nat) (c : Change κ α) (store : Store κ) : Fleet κ χ :=
  { f with ledger := ⟨c.refused taken, some (store.applyAll (c.writes.take taken))⟩ }

theorem halted_of_same {f : Fleet κ χ} {c : Change κ α} {store : Store κ}
    (stored : f.ledger.store = some store) (same : c.refused 0 = f.registry) :
    f.halted 0 c store = f := by
  obtain ⟨⟨r, rows⟩, pool, placer, events⟩ := f
  cases stored
  rw [halted, same]
  rfl

theorem attempt_of_refused {f : Fleet κ χ} {store : Store κ} (stored : f.ledger.store = some store)
    {taken : Nat} (cause : StoreError) (lift : RegistryError → ε)
    {op : Registry κ → Change κ (Except ε α)} (reached : taken < (op f.registry).writes.length) :
    f.attempt (some ⟨taken, cause⟩) lift op =
      (.error (lift (.store cause)), f.halted taken (op f.registry) store) := by
  rw [registry] at reached
  simp only [attempt, Ledger.attempt, stored, if_pos reached]
  rfl

/-- **An attempt** is performed, or the store refuses one of its writes. -/
theorem attempt_cases (f : Fleet κ χ) (refusal : Option Refusal) (lift : RegistryError → ε)
    (op : Registry κ → Change κ (Except ε α)) :
    f.attempt refusal lift op = f.perform op ∨
    ∃ taken cause store, refusal = some ⟨taken, cause⟩ ∧ f.ledger.store = some store ∧
      taken < (op f.registry).writes.length ∧
      f.attempt refusal lift op =
        (.error (lift (.store cause)), f.halted taken (op f.registry) store) := by
  cases refusal with
  | none => exact .inl rfl
  | some refusal =>
    cases hstore : f.ledger.store with
    | none =>
      left
      simp only [attempt, Ledger.attempt, hstore]
      rfl
    | some store =>
      by_cases reached : refusal.taken < (op f.ledger.registry).writes.length
      · exact .inr ⟨refusal.taken, refusal.cause, store, rfl, rfl, reached,
          attempt_of_refused hstore refusal.cause lift reached⟩
      · left
        simp only [attempt, Ledger.attempt, hstore, if_neg reached]
        rfl

omit [Quantity κ] in
theorem foldl_emit {β : Type} (event : β → HealthEvent) (l : List β) (f : Fleet κ χ) :
    l.foldl (fun f b => f.emit (event b)) f = { f with events := f.events ++ l.map event } := by
  induction l generalizing f with
  | nil => rw [List.map_nil, List.append_nil, List.foldl_nil]
  | cons b rest ih =>
    rw [List.foldl_cons, ih, List.map_cons, List.append_cons]
    rfl

end Fleet

/-! ## Activities on their own -/

/-- A call to a daemon that was answered. -/
structure Called (κ : Type) where
  serverId : String
  op : Operation κ
  answer : Except BackendError op.Answer

/-- How an activity goes while nothing else happens: the calls that were answered, the result,
unless it was abandoned, and the state that it leaves. -/
inductive Activity.Runs :
    Activity κ χ α → Fleet κ χ → List (Called κ) → Option α → Fleet κ χ → Prop where
  | done {a : α} {f : Fleet κ χ} : Runs (.done a) f [] (some a) f
  | atomic {write : Fleet κ χ → Fleet κ χ} {next : Fleet κ χ → Activity κ χ α} {f f' : Fleet κ χ}
      {log : List (Called κ)} {r : Option α} (rest : Runs (next f) (write f) log r f') :
      Runs (.atomic write next) f log r f'
  | answered {id : String} {op : Operation κ} {abandon : Fleet κ χ → Fleet κ χ}
      {next : Except BackendError op.Answer → Activity κ χ α} {f f' : Fleet κ χ}
      {log : List (Called κ)} {r : Option α} (answer : Except BackendError op.Answer)
      (rest : Runs (next answer) f log r f') :
      Runs (.call id op abandon next) f (⟨id, op, answer⟩ :: log) r f'
  | abandoned {id : String} {op : Operation κ} {abandon : Fleet κ χ → Fleet κ χ}
      {next : Except BackendError op.Answer → Activity κ χ α} {f : Fleet κ χ} :
      Runs (.call id op abandon next) f [] none (abandon f)

theorem Activity.Runs.perform {step : Fleet κ χ → β × Fleet κ χ} {next : β → Activity κ χ α}
    {f f' : Fleet κ χ} {log : List (Called κ)} {r : Option α} {b : β} (given : (step f).1 = b)
    (rest : (next b).Runs (step f).2 log r f') : (Activity.perform step next).Runs f log r f' := by
  subst given
  exact .atomic rest

theorem Activity.Runs.of_perform {step : Fleet κ χ → β × Fleet κ χ} {next : β → Activity κ χ α}
    {f f' : Fleet κ χ} {log : List (Called κ)} {r : Option α}
    (run : (Activity.perform step next).Runs f log r f') :
    (next (step f).1).Runs (step f).2 log r f' := by
  cases run with
  | atomic rest => exact rest

theorem Activity.Runs.of_map {g : α → β} {a : Activity κ χ α} {f f' : Fleet κ χ}
    {log : List (Called κ)} {r : Option β} (run : (a.map g).Runs f log r f') :
    ∃ r', a.Runs f log r' f' ∧ r = r'.map g := by
  induction a generalizing f log with
  | done a =>
    cases run
    exact ⟨some a, .done, rfl⟩
  | atomic write next ih =>
    cases run with
    | atomic rest =>
      obtain ⟨r', rest', hr⟩ := ih _ rest
      exact ⟨r', .atomic rest', hr⟩
  | call id op abandon next ih =>
    cases run with
    | answered answer rest =>
      obtain ⟨r', rest', hr⟩ := ih _ rest
      exact ⟨r', .answered answer rest', hr⟩
    | abandoned => exact ⟨none, .abandoned, rfl⟩

/-! ## What a placement leaves -/

namespace Orchestrator

/-- All is as it was, apart from the cores that are counted as used. -/
structure Undone (before after : Registry κ) : Prop where
  workspaces : after.workspaces = before.workspaces
  pending : after.pending = before.pending
  servers : before.servers.Matches (fun s s' => ∃ x, s' = { s with cpuUsed := x }) after.servers

theorem Undone.refl (r : Registry κ) : Undone r r :=
  ⟨rfl, rfl, .refl fun _ s _ => ⟨s.cpuUsed, rfl⟩⟩

theorem Undone.countedOn_eq {before after : Registry κ} (h : Undone before after) (id : String)
    (q : Resource) : countedOn after.servers id q = countedOn before.servers id q := by
  rcases h.servers id with ⟨hbefore, hafter⟩ | ⟨s, _, hs, hs', x, rfl⟩
  · rw [countedOn_of_none hbefore, countedOn_of_none hafter]
  · rw [countedOn_of_get? hs, countedOn_of_get? hs']
    cases q <;> rfl

/-- The containers that were removed are those that were made. -/
def Cleaned (log : List (Called κ)) : Prop :=
  ∀ id c, (∃ answer, ⟨id, .remove c, answer⟩ ∈ log) ↔ ∃ spec, ⟨id, .create spec, .ok c⟩ ∈ log

theorem cleaned_nil : Cleaned ([] : List (Called κ)) := by
  intro id c
  simp

/-- No container was made. -/
theorem cleaned_unmade (id : String) (spec : ContainerSpec κ) (e : BackendError) :
    Cleaned [⟨id, .create spec, .error e⟩] := by
  intro j c
  constructor
  · rintro ⟨answer, hmem⟩
    cases List.mem_singleton.1 hmem
  · rintro ⟨spec', hmem⟩
    cases List.mem_singleton.1 hmem

/-- A container was made that did not start. -/
theorem cleaned_removed (id container : String) (spec : ContainerSpec κ)
    (started removed : Except BackendError Unit) :
    Cleaned [⟨id, .create spec, .ok container⟩, ⟨id, .start container, started⟩,
      ⟨id, .remove container, removed⟩] := by
  intro j c
  constructor
  · rintro ⟨answer, hmem⟩
    rcases List.mem_cons.1 hmem with hhead | hmem
    · cases hhead
    · rcases List.mem_cons.1 hmem with hhead | hmem
      · cases hhead
      · cases List.mem_singleton.1 hmem
        exact ⟨spec, List.mem_cons_self⟩
  · rintro ⟨spec', hmem⟩
    rcases List.mem_cons.1 hmem with hhead | hmem
    · cases hhead
      exact ⟨removed, List.mem_cons_of_mem _ (List.mem_cons_of_mem _ List.mem_cons_self)⟩
    · rcases List.mem_cons.1 hmem with hhead | hmem
      · cases hhead
      · cases List.mem_singleton.1 hmem

variable [Quantity κ]

/-- The workspace is recorded on its server, which counts one allocation more, and nothing else is
different. -/
structure Placed (a : Allocation κ) (before after : Registry κ) (id container : String) : Prop where
  record : ∃ w, after.workspaces.get? container = some w ∧ w.containerId = container ∧
    w.serverId = id ∧ w.allocation = a
  others : ∀ c, c ≠ container → after.workspaces.get? c = before.workspaces.get? c
  pending : after.pending = before.pending
  server : ∃ s, before.servers.get? id = some s ∧ after.servers.get? id = some (s.apply a) ∧
    ∀ q, (s.apply a).used q = s.used q + a.needs q
  elsewhere : ∀ j, j ≠ id → after.servers.get? j = before.servers.get? j

/-- The hold is gone, and its server counts it still; nothing else is different. -/
structure Stranded (a : Allocation κ) (before after : Registry κ) : Prop where
  workspaces : after.workspaces = before.workspaces
  pending : after.pending = before.pending
  server : ∃ id s, before.servers.get? id = some s ∧
    after.servers = before.servers.insert id (s.apply a) ∧
    ∀ q, (s.apply a).used q = s.used q + a.needs q

/-- The server counts the hold until the next reconciliation, and then no more. -/
theorem Stranded.reconciled {a : Allocation κ} {before after : Registry κ}
    (h : Stranded a before after) (keyed : before.servers.Keyed Server.serverId) (id : String)
    (q : Resource) : countedOn after.reconcile.registry.servers id q =
      countedOn before.reconcile.registry.servers id q := by
  obtain ⟨j, s, found, hservers, -⟩ := h.server
  have hkeyed : after.servers.Keyed Server.serverId := by
    rw [hservers]
    exact keyed.replace found rfl
  refine Registry.countedOn_reconcile_congr keyed hkeyed h.workspaces h.pending ?_ q
  rw [hservers, Table.contains_insert_of_get? found]

/-- The error is that of the store, which refused to take a hold back, or a workspace down before. -/
inductive Told (refused : Refusals) : OrchestratorError → Prop where
  | rollback {hold taken : Nat} {id : String} {cause : StoreError}
      (refusal : refused.releasing = some ⟨taken, cause⟩) :
      Told refused (.reservationRollback hold id (.store cause))
  | commit {taken : Nat} {cause : StoreError}
      (refusal : refused.committing = some ⟨taken, cause⟩) : Told refused (.registry (.store cause))

/-- What a placement leaves that comes to nothing, with the error that it answers: all is undone, or
the store has refused the one write that gives the hold back. -/
inductive Reverted (refused : Refusals) (a : Allocation κ) (before after : Registry κ)
    (error? : Option OrchestratorError) : Prop where
  | undone (same : Undone before after)
  | stranded {cause : StoreError} (refusal : refused.releasing = some ⟨0, cause⟩)
      (counted : Stranded a before after) (told : ∀ e, error? = some e → Told refused e)

/-- Where the store takes what it is given, all is undone. -/
theorem Reverted.undone_of_taken {refused : Refusals} {a : Allocation κ} {before after : Registry κ}
    {error? : Option OrchestratorError} (h : Reverted refused a before after error?)
    (taken : refused.releasing = none) : Undone before after := by
  cases h with
  | undone same => exact same
  | stranded refusal =>
    rw [taken] at refusal
    cases refusal

/-- What a placement must leave, by its result: the server and the container, which was made there
and has started; an error; or nothing if it was abandoned. -/
def Settled (refused : Refusals) (spec : ContainerSpec κ) (a : Allocation κ)
    (before after : Registry κ) (log : List (Called κ)) : Option (Outcome (String × String)) → Prop
  | some (.ok (id, container)) => Placed a before after id container ∧
    log = [⟨id, .create (spec.withLimits a), .ok container⟩, ⟨id, .start container, .ok ()⟩]
  | some (.error e) => Reverted refused a before after (some e) ∧ Cleaned log
  | none => Reverted refused a before after none

/-! ## The hold of a placement -/

/-- A registry with one hold more, of a new id. -/
structure Held (before r : Registry κ) (hold : Reservation κ) : Prop where
  server : ∃ s, before.servers.get? hold.serverId = some s ∧
    r.servers = before.servers.insert hold.serverId (s.apply hold.allocation)
  workspaces : r.workspaces = before.workspaces
  pending : r.pending = before.pending ++ [hold]
  new : ∀ h ∈ before.pending, h.id ≠ hold.id

namespace Held

variable {before r : Registry κ} {hold : Reservation κ}

theorem hold?_eq (h : Held before r hold) : r.hold? hold.id = some hold := by
  have hnone : before.pending.find? (·.id == hold.id) = none := by
    rw [List.find?_eq_none]
    intro k hk
    simpa using h.new k hk
  rw [Registry.hold?, h.pending, List.find?_append, hnone]
  simp

theorem withoutHold_eq (h : Held before r hold) : r.withoutHold hold.id = before.pending := by
  have hall : before.pending.filter (·.id != hold.id) = before.pending := by
    rw [List.filter_eq_self]
    intro k hk
    simpa using h.new k hk
  rw [Registry.withoutHold, h.pending, List.filter_append, hall]
  simp

/-- **A hold that is given back** leaves all as it was. -/
theorem released (h : Held before r hold) : Undone before (r.release hold).registry := by
  obtain ⟨s, found, hservers⟩ := h.server
  have hget : r.servers.get? hold.serverId = some (s.apply hold.allocation) := by
    rw [hservers, Table.get?_insert_self]
  simp only [Registry.release, h.hold?_eq, hget]
  refine ⟨h.workspaces, h.withoutHold_eq, ?_⟩
  rw [hservers, Table.insert_insert]
  exact (Undone.refl before).servers.insert_right found ⟨_, Server.retract_apply s _⟩

theorem writes_release (h : Held before r hold) : (r.release hold).writes.length = 1 := by
  obtain ⟨s, -, hservers⟩ := h.server
  have hget : r.servers.get? hold.serverId = some (s.apply hold.allocation) := by
    rw [hservers, Table.get?_insert_self]
  simp only [Registry.release, h.hold?_eq, hget]
  rfl

/-- **A hold that the store refuses to take back** is gone, and counted still. -/
theorem stranded (h : Held before r hold) (taken : Nat) :
    Stranded hold.allocation before ((r.release hold).refused taken) := by
  obtain ⟨s, found, hservers⟩ := h.server
  have hget : r.servers.get? hold.serverId = some (s.apply hold.allocation) := by
    rw [hservers, Table.get?_insert_self]
  simp only [Registry.release, h.hold?_eq, hget]
  exact ⟨h.workspaces, h.withoutHold_eq, hold.serverId, s, found, hservers,
    Server.used_apply s hold.allocation⟩

/-- **A hold that is committed** leaves the workspace placed. -/
theorem committed (h : Held before r hold) (container : String) (now : Nat) :
    (∃ w, (r.commit hold container now).result = .ok w) ∧
      Placed hold.allocation before (r.commit hold container now).registry hold.serverId
        container := by
  obtain ⟨s, found, hservers⟩ := h.server
  simp only [Registry.commit, h.hold?_eq, Registry.changed]
  refine ⟨⟨_, rfl⟩, ⟨⟨_, Table.get?_insert_self _ _ _, rfl, rfl, rfl⟩, ?_, h.withoutHold_eq,
    ⟨s, found, ?_, Server.used_apply s hold.allocation⟩, ?_⟩⟩
  · intro c hc
    rw [Table.get?_insert_of_ne hc.symm, h.workspaces]
  · rw [hservers, Table.get?_insert_self]
  · intro j hj
    rw [hservers, Table.get?_insert_of_ne hj.symm]

end Held

/-- Taking a hold either fails and changes nothing, or it is held. -/
theorem held_of_reserve {r : Registry κ} {issued : List (Reservation κ)}
    (b : Registry.Booked r issued) (id : String) (a : Allocation κ) :
    (∃ e, (r.reserve id a).result = .error e ∧ (r.reserve id a).registry = r) ∨
    ∃ hold, (r.reserve id a).result = .ok hold ∧ (hold.serverId = id ∧ hold.allocation = a) ∧
      Held r (r.reserve id a).registry hold := by
  rcases Registry.reserve_cases r id a with ⟨e, h⟩ | ⟨s, found, -, h⟩
  · left
    rw [h]
    exact ⟨e, rfl, rfl⟩
  · right
    rw [h]
    refine ⟨_, rfl, ⟨rfl, rfl⟩, ⟨s, found, rfl⟩, rfl, rfl, ?_⟩
    intro k hk
    exact b.id_ne_next (b.given.subset hk)

theorem held_of_reserveWith {ε : Type} {r : Registry κ} {issued : List (Reservation κ)}
    (b : Registry.Booked r issued) (a : Allocation κ)
    (select : List (Server κ) → Except ε String) (lift : RegistryError → ε) :
    (∃ e, (r.reserveWith a select lift).result = .error e ∧
      (r.reserveWith a select lift).registry = r) ∨
    ∃ hold, (r.reserveWith a select lift).result = .ok hold ∧ hold.allocation = a ∧
      Held r (r.reserveWith a select lift).registry hold := by
  cases hs : select r.listServers with
  | error e =>
    left
    simp only [Registry.reserveWith, hs]
    exact ⟨e, rfl, rfl⟩
  | ok id =>
    simp only [Registry.reserveWith, hs, Change.map]
    rcases held_of_reserve b id a with ⟨e, hresult, hsame⟩ | ⟨hold, hresult, ⟨-, hneeds⟩, hheld⟩
    · exact .inl ⟨lift e, by rw [hresult]; rfl, hsame⟩
    · exact .inr ⟨hold, by rw [hresult]; rfl, hneeds, hheld⟩

/-! ## Ways through a placement -/

section Launch

variable {refused : Refusals} {before : Registry κ} {hold : Reservation κ} {f f' : Fleet κ χ}
  {log : List (Called κ)}

/-- An attempt to take a hold fails and changes nothing, or the hold is held. -/
theorem held_of_attempt (refusal : Option Refusal) (lift : RegistryError → ε)
    (op : Registry κ → Change κ (Except ε (Reservation κ))) {P : Reservation κ → Prop}
    (stays : ∀ taken, (op f.registry).refused taken = f.registry)
    (takes : (∃ e, (op f.registry).result = .error e ∧ (op f.registry).registry = f.registry) ∨
      ∃ hold, (op f.registry).result = .ok hold ∧ P hold ∧
        Held f.registry (op f.registry).registry hold) :
    (∃ e, (f.attempt refusal lift op).1 = .error e ∧
      (f.attempt refusal lift op).2.registry = f.registry) ∨
    ∃ hold, (f.attempt refusal lift op).1 = .ok hold ∧ P hold ∧
      Held f.registry (f.attempt refusal lift op).2.registry hold := by
  rcases f.attempt_cases refusal lift op with h | ⟨taken, cause, store, -, -, -, h⟩
  · rw [h]
    exact takes
  · rw [h]
    exact .inl ⟨_, rfl, stays taken⟩

theorem held_of_reservePlaced {issued : List (Reservation κ)} (b : f.registry.Booked issued)
    (refused : Refusals) (req : Requirements κ) (strategy : Strategy) :
    (∃ e, (reservePlaced refused req strategy f).1 = .error e ∧
      (reservePlaced refused req strategy f).2.registry = f.registry) ∨
    ∃ hold, (reservePlaced refused req strategy f).1 = .ok hold ∧
      hold.allocation = req.allocation ∧
      Held f.registry (reservePlaced refused req strategy f).2.registry hold :=
  held_of_attempt refused.reserving PlacementError.registry _
    (fun taken => Registry.refused_reserveWith f.registry req.allocation _ PlacementError.registry taken)
    (held_of_reserveWith b req.allocation
      (fun _ => (f.placer.place req strategy f.registry.listServers).1.map Placement.serverId)
      PlacementError.registry)

theorem rollback_eq (refused : Refusals) (hold : Reservation κ) (f : Fleet κ χ) :
    (rollback refused hold f).2 = (f.attempt refused.releasing id (·.release hold)).2 := by
  rw [rollback]
  split
  · next heq => rw [heq]
  · next heq => rw [heq]

theorem Reverted.forget {a : Allocation κ} {after : Registry κ}
    {error? : Option OrchestratorError} (h : Reverted refused a before after error?) :
    Reverted refused a before after none := by
  cases h with
  | undone same => exact .undone same
  | stranded refusal counted told => exact .stranded refusal counted nofun

/-- **A hold is given back**, or the store refuses that and its server counts it still. -/
theorem rollback_cases (refused : Refusals) (h : Held before f.registry hold) :
    Undone before (rollback refused hold f).2.registry ∨
    ∃ cause, refused.releasing = some ⟨0, cause⟩ ∧
      (rollback refused hold f).1 =
        .error (.reservationRollback hold.id hold.serverId (.store cause)) ∧
      Stranded hold.allocation before (rollback refused hold f).2.registry := by
  rcases f.attempt_cases refused.releasing id (·.release hold) with
    hdone | ⟨taken, cause, store, refusal, -, hwrite, hrefused⟩
  · left
    rw [rollback_eq, hdone]
    exact h.released
  · have hfirst : taken = 0 := by
      rw [h.writes_release] at hwrite
      exact Nat.lt_one_iff.1 hwrite
    subst hfirst
    refine .inr ⟨cause, refusal, ?_, ?_⟩
    · rw [rollback, hrefused]
      rfl
    · rw [rollback_eq, hrefused]
      exact h.stranded 0

theorem reverted_letGo (h : Held before f.registry hold) {error? : Option OrchestratorError}
    (told : ∀ e, error? = some e → Told refused e) :
    Reverted refused hold.allocation before (letGo refused hold f).registry error? := by
  rcases rollback_cases refused h with hundone | ⟨cause, refusal, -, hstranded⟩
  · exact .undone hundone
  · exact .stranded refusal hstranded told

/-- A failure after which the hold is given back. -/
theorem failWith_runs (h : Held before f.registry hold) {cause : OrchestratorError}
    {r : Option (Outcome String)} (run : (failWith refused hold cause).Runs f log r f') :
    log = [] ∧ ∃ e, r = some (.error e) ∧
      Reverted refused hold.allocation before f'.registry (some e) := by
  have rest := run.of_perform
  rcases rollback_cases refused h with hundone | ⟨cause', refusal, hanswer, hstranded⟩
  · cases hback : (rollback refused hold f).1 with
    | ok u =>
      rw [hback] at rest
      cases rest
      exact ⟨rfl, _, rfl, .undone hundone⟩
    | error e =>
      rw [hback] at rest
      cases rest
      exact ⟨rfl, _, rfl, .undone hundone⟩
  · rw [hanswer] at rest
    cases rest
    refine ⟨rfl, _, rfl, .stranded refusal hstranded ?_⟩
    rintro _ ⟨⟩
    exact .rollback refusal

/-- A commit makes the workspace, or the store refuses it and the hold is let go. -/
theorem commitHold_cases (h : Held before f.registry hold) (container : String) (now : Nat) :
    (∃ w f', commitHold refused hold container now f = (.ok w, f') ∧
      Placed hold.allocation before f'.registry hold.serverId container) ∨
    ∃ e f', commitHold refused hold container now f = (.error e, f') ∧
      Reverted refused hold.allocation before f'.registry (some e) := by
  rcases f.attempt_cases refused.committing id (·.commit hold container now) with
    hdone | ⟨taken, cause, store, refusal, -, -, hrefused⟩
  · obtain ⟨⟨w, hw⟩, hplaced⟩ := h.committed container now
    left
    refine ⟨w, (f.perform (·.commit hold container now)).2, ?_, hplaced⟩
    rw [commitHold, hdone, Fleet.perform_eq, hw]
  · right
    refine ⟨.registry (.store cause), _, by rw [commitHold, hrefused]; rfl, ?_⟩
    have hheld : Held before
        (f.halted taken (f.registry.commit hold container now) store).registry hold := by
      show Held before ((f.registry.commit hold container now).refused taken) hold
      rw [Registry.refused_commit]
      exact h
    refine reverted_letGo hheld ?_
    rintro _ ⟨⟩
    exact .commit refusal

/-- **Every way through a launch.** -/
theorem launch_runs (h : Held before f.registry hold) {spec : ContainerSpec κ} {now : Nat}
    {r : Option (Outcome String)} (run : (launch refused hold spec now).Runs f log r f') :
    Settled refused spec hold.allocation before f'.registry log
      (r.map (Except.map fun container => (hold.serverId, container))) := by
  cases run with
  | abandoned => exact reverted_letGo h nofun
  | answered created rest =>
    cases created with
    | error e =>
      obtain ⟨rfl, cause, rfl, hreverted⟩ := failWith_runs h rest
      exact ⟨hreverted, cleaned_unmade _ _ _⟩
    | ok container =>
      cases rest with
      | abandoned => exact reverted_letGo h nofun
      | answered started rest =>
        cases started with
        | error e =>
          cases rest with
          | abandoned => exact reverted_letGo h nofun
          | answered removed rest =>
            obtain ⟨rfl, cause, rfl, hreverted⟩ := failWith_runs h rest
            exact ⟨hreverted, cleaned_removed _ _ _ _ _⟩
        | ok u =>
          have rest' := rest.of_perform
          rcases commitHold_cases h container now with
            ⟨w, f₁, hcommit, hplaced⟩ | ⟨e, f₁, hcommit, hreverted⟩
          · rw [hcommit] at rest'
            cases rest'
            exact ⟨hplaced, rfl⟩
          · rw [hcommit] at rest'
            cases rest' with
            | abandoned => exact hreverted.forget
            | answered removed rest =>
              cases rest
              exact ⟨hreverted, cleaned_removed _ _ _ _ _⟩

end Launch

/-- **All or nothing.** Whatever the daemons answer, whatever the store refuses, and wherever it is
abandoned, a placement that is alone leaves either its workspace recorded, with one allocation more on
the server, or nothing; only where the store refuses the write that gives the hold back, its server
counts the hold until the next reconciliation. If it answers a container, that one was made there and has started. If it
fails, the container is removed if and only if it was made. -/
theorem all_or_nothing {ids : Registry κ → String → Prop} {f : Fleet κ χ}
    {issued : List (Reservation κ)} (reached : Reached ids (.running f.ledger issued))
    (refused : Refusals) (req : Requirements κ) (spec : ContainerSpec κ) (now : Nat) :
    (∀ strategy log r f', (place refused req strategy spec now).Runs f log r f' →
      Settled refused spec req.allocation f.registry f'.registry log
        (r.map (Except.map fun p => (p.serverId, p.containerId)))) ∧
    ∀ id log r f', (create refused id req spec now).Runs f log r f' →
      Settled refused spec req.allocation f.registry f'.registry log
        (r.map (Except.map fun container => (id, container))) := by
  have b : f.registry.Booked issued := reached.ledger_sound.registry.booked
  constructor
  · intro strategy log r f' run
    have rest := run.of_perform
    rcases held_of_reservePlaced b refused req strategy with
      ⟨e, hfailed, hsame⟩ | ⟨hold, hgiven, hneeds, hheld⟩
    · rw [hfailed] at rest
      cases rest
      refine ⟨.undone ?_, cleaned_nil⟩
      rw [hsame]
      exact .refl f.registry
    · rw [hgiven] at rest
      obtain ⟨r', rest', rfl⟩ := Activity.Runs.of_map rest
      have hsettled := launch_runs hheld rest'
      rw [hneeds] at hsettled
      cases r' with
      | none => exact hsettled
      | some result => cases result <;> exact hsettled
  · intro server log r f' run
    have rest := run.of_perform
    rcases held_of_attempt refused.reserving id (·.reserve server req.allocation)
        (fun taken => Registry.refused_reserve f.registry server req.allocation taken)
        (held_of_reserve b server req.allocation) with
      ⟨e, hfailed, hsame⟩ | ⟨hold, hgiven, ⟨rfl, hneeds⟩, hheld⟩
    · rw [hfailed] at rest
      cases rest
      refine ⟨.undone ?_, cleaned_nil⟩
      rw [hsame]
      exact .refl f.registry
    · rw [hgiven] at rest
      have hsettled := launch_runs hheld rest
      rwa [hneeds] at hsettled

/-- A fleet with room for one workspace more. -/
def sampleFleet : Fleet Rat Unit where
  ledger := (Ledger.after (.inMemory, []) (SampleRun.calls.take 2)).1
  pool := ∅
  placer := .initial
  events := []

/-- The same fleet with a store. -/
def storedFleet : Fleet Rat Unit :=
  { sampleFleet with
    ledger := (Ledger.after (⟨.empty, some .empty⟩, []) (SampleRun.calls.take 2)).1 }

theorem storedFleet_reached : Reached Registry.Unrecorded (.running storedFleet.ledger
    (Ledger.after (⟨.empty, some .empty⟩, []) (SampleRun.calls.take 2)).2) :=
  .performed (.performed (.opened .created Ledger.ofStore_empty) SampleRun.config_inRange)
    ⟨SampleRun.allocation_inRange,
      Ledger.numberLeft_after ⟨.empty, some .empty⟩ (SampleRun.calls.take 1) (by decide)⟩

/-- The store takes the hold, and no write after that. -/
def filledUp : Refusals where
  reserving := none
  committing := some ⟨0, .write "no space left"⟩
  releasing := some ⟨0, .write "no space left"⟩

/-- What a daemon is asked, and answers, when the workspace cannot be taken down. -/
def unrecorded : List (Called Rat) :=
  [⟨"a", .create ((ContainerSpec.ofImage "image").withLimits ⟨1, 40, 3⟩), .ok "c"⟩,
    ⟨"a", .start "c", .ok ()⟩, ⟨"a", .remove "c", .ok ()⟩]

/-- A placement that is abandoned while its container is made, and one that the store refuses to take
down and to give back: the server counts a workspace that is not there. -/
theorem all_or_nothing_refused :
    (∃ f', (create .none "a" (.ofResources 1 40 3) (.ofImage "image") 0).Runs storedFleet [] none
        f' ∧ Undone storedFleet.registry f'.registry) ∧
    ∃ f', (create filledUp "a" (.ofResources 1 40 3) (.ofImage "image") 0).Runs storedFleet
        unrecorded (some (.error (.registry (.store (.write "no space left"))))) f' ∧
      Stranded ⟨1, 40, 3⟩ storedFleet.registry f'.registry := by
  have hgiven : (storedFleet.perform (·.reserve "a" ⟨1, 40, 3⟩)).1 = .ok ⟨2, "a", ⟨1, 40, 3⟩⟩ :=
    eq_ok_of_toOption (by decide +kernel)
  constructor
  · obtain ⟨f', run⟩ : ∃ f', (create .none "a" (.ofResources 1 40 3) (.ofImage "image") 0).Runs
        storedFleet [] none f' := ⟨_, .perform hgiven .abandoned⟩
    have settled := (all_or_nothing storedFleet_reached .none (.ofResources 1 40 3)
      (.ofImage "image") 0).2 "a" _ _ _ run
    exact ⟨f', run, Reverted.undone_of_taken settled rfl⟩
  · have hrefused : (commitHold filledUp ⟨2, "a", ⟨1, 40, 3⟩⟩ "c" 0
        (storedFleet.perform (·.reserve "a" ⟨1, 40, 3⟩)).2).1 =
          .error (.registry (.store (.write "no space left"))) := by decide +kernel
    have run : (create filledUp "a" (.ofResources 1 40 3) (.ofImage "image") 0).Runs storedFleet
        unrecorded (some (.error (.registry (.store (.write "no space left"))))) _ :=
      .perform hgiven (.answered _ (.answered _ (.perform hrefused (.answered _ .done))))
    refine ⟨_, run, ?_⟩
    cases ((all_or_nothing storedFleet_reached filledUp (.ofResources 1 40 3) (.ofImage "image")
      0).2 "a" _ _ _ run).1 with
    | stranded _ counted => exact counted
    | undone same => exact absurd (same.countedOn_eq "a" .slots) (by decide +kernel)

end Orchestrator
end WorkspaceFleet
