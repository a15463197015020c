import WorkspaceFleet.Proofs.Membership

/-!
# WorkspaceFleet.Proofs.Displacing

A workspace is forgotten when it is removed, or when a commit names its container once more.

The records of all servers stand in one table under the bare ids of their containers, and a commit
puts its record there whether or not the id is taken. Ids are unique only within one daemon.
`Reached.kept_until_displaced` says what follows, whatever ids the daemons hand out: a commit adds a
record and keeps all others exactly when its container was not recorded, and until a later call
removes or displaces it the workspace is recorded, looked after and counted. `displaced_on_other`
is a run in which a workspace is lost that nobody removed.
-/

namespace WorkspaceFleet

variable {κ : Type}

namespace Table

variable {α : Type} {t : Table α} {k : String}

theorem size_eq_length (t : Table α) : t.size = t.values.length := by
  rw [size, values, List.length_map]

theorem size_insert (t : Table α) (k : String) (v : α) :
    (t.insert k v).size = (t.erase k).size + 1 := by
  rw [size_eq_length, (t.values_insert_perm k v).length_eq, List.length_cons, ← size_eq_length]

/-- A table grows by what is put under a new key. -/
theorem size_insert_of_none (h : t.get? k = none) (v : α) :
    (t.insert k v).size = t.size + 1 := by
  rw [size_insert, erase_of_get?_none h]

theorem size_insert_of_get? {v : α} (h : t.get? k = some v) (w : α) :
    (t.insert k w).size = t.size := by
  rw [size_insert, ← size_insert t k v, insert_of_get? h]

end Table

namespace Registry

/-- The call neither removes the record of the container nor puts another in its place. -/
def Call.Spares (c : String) : Call κ → Prop
  | .commit _ d _ => d ≠ c
  | .removeWorkspace d => d ≠ c
  | _ => True

variable [Quantity κ]

/-- The workspace is recorded, looked after and counted: its record is listed, every round of the
monitor plans a check of its container while its server is not offline, reconciliation counts its
allocation, and its server is registered and counts it too. -/
structure Hosts (r : Registry κ) (w : Workspace κ) : Prop where
  recorded : ∃ v, r.workspaces.get? w.containerId = some v ∧ w.SamePlace v ∧ v ∈ r.listWorkspaces
  monitored : ∀ {χ : Type} (c : MonitorConfig) (now : Nat) (f : Fleet κ χ),
    f.registry = r → ∀ s, r.servers.get? w.serverId = some s → s.status ≠ .offline →
      (w.containerId, .workspace c w.serverId w.containerId) ∈
        (Monitor.planWorkspaces c now f).2.1
  reconciled : w.allocation ∈ r.allocationsOn w.serverId
  counted : ∃ s, r.servers.get? w.serverId = some s ∧ 0 < s.workspaceCount ∧
    ∀ q, w.allocation.needs q ≤ s.used q

variable {r : Registry κ} {issued : List (Reservation κ)} {ids : String → Prop}

/-- **One call** that spares a record leaves it where it is. -/
theorem Call.record_kept {call : Call κ} {c : String} (permitted : call.Permitted issued ids)
    (spares : call.Spares c) {w : Workspace κ} (found : r.workspaces.get? c = some w) :
    ∃ v, (call.change r).registry.workspaces.get? c = some v ∧ w.SamePlace v := by
  have same : ∀ {t : Table (Workspace κ)}, t = r.workspaces →
      ∃ v, t.get? c = some v ∧ w.SamePlace v := by
    rintro t rfl
    exact ⟨w, found, .refl w⟩
  cases call with
  | addServer config => exact same (workspaces_addServer r _)
  | removeServer id => exact same (workspaces_removeServer r id)
  | recordServerCheck id check => exact same (workspaces_recordServerCheck r id check)
  | reserve id a => exact same (workspaces_reserve r id a)
  | reserveWith a select lift => exact same (workspaces_reserveWith r a select lift)
  | release hold => exact same (workspaces_release r hold)
  | commit hold d now =>
    show ∃ v, (r.commit hold d now).registry.workspaces.get? c = some v ∧ w.SamePlace v
    rw [workspaces_commit]
    split
    · rw [Table.get?_insert_of_ne spares]
      exact ⟨w, found, .refl w⟩
    · exact ⟨w, found, .refl w⟩
  | updateWorkspace d f =>
    have hkept := Monitor.without_updateWorkspace r d fun w => (permitted w).1
    refine hkept.exists_kept found fun hnone => ?_
    exact (hkept.get?_eq_none_iff found).1 hnone
  | removeWorkspace d =>
    show ∃ v, (r.removeWorkspace d).registry.workspaces.get? c = some v ∧ w.SamePlace v
    rw [workspaces_removeWorkspace, Table.get?_erase, if_neg spares]
    exact ⟨w, found, .refl w⟩
  | reconcile => exact same rfl

/-- What is recorded in a sound registry is looked after and counted. -/
theorem Sound.hosts (h : r.Sound issued) {c : String} {w v : Workspace κ}
    (named : w.containerId = c) (found : r.workspaces.get? c = some v) (same : w.SamePlace v) :
    r.Hosts w := by
  subst named
  have hlisted : v ∈ r.listWorkspaces := mem_listWorkspaces.2 ⟨_, found⟩
  refine ⟨⟨v, found, same, hlisted⟩, ?_, ?_, ?_⟩
  · rintro χ c now f rfl s hs asked
    rw [(Monitor.planWorkspaces_planned c now f).1]
    refine List.mem_filterMap.2 ⟨v, hlisted, ?_⟩
    rw [← same.serverId] at hs ⊢
    rw [Monitor.checkOf?, Monitor.skipReason?_eq_none.2 ⟨s, hs, asked⟩, same.containerId]
  · refine List.mem_append_left _ (List.mem_map.2 ⟨v, List.mem_filter.2 ⟨?_, ?_⟩, same.allocation⟩)
    · exact Table.mem_values_iff.2 ⟨_, found⟩
    · exact beq_iff_eq.2 same.serverId
  · obtain ⟨s, hs, hcount⟩ := h.exists_of_names (.inl ⟨_, v, found, same.serverId⟩)
    refine ⟨s, hs, hcount, fun q => ?_⟩
    have hload := needs_le_loadOn found q
    rw [same.serverId, same.allocation] at hload
    exact Nat.le_trans hload (h.counted.loadOn_le hs q)

/-- **A commit** puts its record under its container and leaves all others where they are. It adds a
record and displaces none exactly when the container was not recorded. -/
theorem workspaces_of_commit {hold : Reservation κ} {c : String} {now : Nat} {w : Workspace κ}
    (done : (r.commit hold c now).result = .ok w) :
    let r' := (r.commit hold c now).registry
    w = .ofReservation hold c now ∧ r'.workspaces.get? c = some w ∧
    (∀ d, d ≠ c → r'.workspaces.get? d = r.workspaces.get? d) ∧
    ((r'.workspaces.size = r.workspaces.size + 1 ∧
        ∀ d v, r.workspaces.get? d = some v → r'.workspaces.get? d = some v) ↔
      r.workspaces.get? c = none) := by
  have hok : (r.commit hold c now).result.isOk = true := by rw [done]; rfl
  have hw : w = .ofReservation hold c now := by
    cases hh : r.hold? hold.id with
    | none =>
      simp only [commit, hh] at done
      cases done
    | some held =>
      simp only [commit, hh] at done
      exact (Except.ok.inj done).symm
  dsimp only
  rw [workspaces_commit, if_pos hok]
  refine ⟨hw, by rw [Table.get?_insert_self, hw], fun d hd => Table.get?_insert_of_ne hd.symm, ?_⟩
  cases found : r.workspaces.get? c with
  | none =>
    refine iff_of_true ⟨Table.size_insert_of_none found _, fun d v hv => ?_⟩ rfl
    rw [Table.get?_insert_of_ne (fun hd => by rw [← hd, found] at hv; cases hv), hv]
  | some v =>
    refine iff_of_false (fun h => ?_) (Option.some_ne_none v)
    have hsize := h.1
    rw [Table.size_insert_of_get? found] at hsize
    omega

end Registry

variable [Quantity κ]

/-- What later calls lead to that spare the record of a container. -/
inductive Onward (ids : Registry κ → String → Prop) (c : String) (ledger₀ : Ledger κ)
    (issued₀ : List (Reservation κ)) : Ledger κ → List (Reservation κ) → Prop where
  | here : Onward ids c ledger₀ issued₀ ledger₀ issued₀
  | performed {ledger : Ledger κ} {issued : List (Reservation κ)} {call : Registry.Call κ}
      (before : Onward ids c ledger₀ issued₀ ledger issued)
      (permitted : call.Permitted issued (ids ledger.registry)) (spares : call.Spares c) :
      Onward ids c ledger₀ issued₀ (ledger.perform (call.change ·)).2
        (issued ++ (ledger.perform (call.change ·)).1)

namespace Onward

variable {ids : Registry κ → String → Prop} {c : String} {ledger₀ ledger : Ledger κ}
  {issued₀ issued : List (Reservation κ)}

theorem reached (h : Onward ids c ledger₀ issued₀ ledger issued)
    (start : Reached ids (.running ledger₀ issued₀)) : Reached ids (.running ledger issued) := by
  induction h with
  | here => exact start
  | performed before permitted spares ih => exact .performed ih permitted

theorem record_kept (h : Onward ids c ledger₀ issued₀ ledger issued) {w : Workspace κ}
    (found : ledger₀.registry.workspaces.get? c = some w) :
    ∃ v, ledger.registry.workspaces.get? c = some v ∧ w.SamePlace v := by
  induction h with
  | here => exact ⟨w, found, .refl w⟩
  | performed before permitted spares ih =>
    obtain ⟨v, hv, hsame⟩ := ih
    obtain ⟨v', hv', hsame'⟩ := Registry.Call.record_kept permitted spares hv
    exact ⟨v', hv', hsame.trans hsame'⟩

end Onward

/-- **A workspace is kept until it is removed or displaced.** In every run, and whatever ids the
daemons hand out, a successful commit puts its record under its container and leaves the others
where they are; it adds a record and displaces none exactly when the container was not recorded.
From then on the workspace is recorded, looked after and counted until a call removes the record of
its container or commits another under the same id. -/
theorem Reached.kept_until_displaced {ids : Registry κ → String → Prop} {ledger : Ledger κ}
    {issued : List (Reservation κ)} (h : Reached ids (.running ledger issued))
    {hold : Reservation κ} {c : String} {now : Nat}
    (permitted : (Registry.Call.commit hold c now).Permitted issued (ids ledger.registry))
    {w : Workspace κ} (done : (ledger.perform (·.commit hold c now)).1 = .ok w) :
    let committed := (ledger.perform (·.commit hold c now)).2
    (∀ d, d ≠ c →
      committed.registry.workspaces.get? d = ledger.registry.workspaces.get? d) ∧
    ((committed.registry.workspaces.size = ledger.registry.workspaces.size + 1 ∧
        ∀ d v, ledger.registry.workspaces.get? d = some v →
          committed.registry.workspaces.get? d = some v) ↔
      ledger.registry.workspaces.get? c = none) ∧
    w.containerId = c ∧ w.serverId = hold.serverId ∧ w.allocation = hold.allocation ∧
    ∀ ledger' issued', Onward ids c committed issued ledger' issued' →
      ledger'.registry.Hosts w := by
  obtain ⟨hw, hrecorded, hothers, hadds⟩ := Registry.workspaces_of_commit done
  have hcommitted : Reached ids (.running (ledger.perform (·.commit hold c now)).2 issued) := by
    have := h.performed permitted
    rwa [show (ledger.perform ((Registry.Call.commit hold c now).change ·)).1 = [] from rfl,
      List.append_nil] at this
  refine ⟨hothers, hadds, ?_, ?_, ?_, fun ledger' issued' onward => ?_⟩
  · rw [hw]
    rfl
  · rw [hw]
    rfl
  · rw [hw]
    rfl
  · obtain ⟨v, hv, hsame⟩ := onward.record_kept hrecorded
    exact (onward.reached hcommitted).ledger_sound.registry.hosts (by rw [hw]; rfl) hv hsame

/-! ## Two daemons with one id -/

namespace DisplacedRun

def other : ServerConfig Rat := { SampleRun.config with serverId := "b" }

def otherHold : Reservation Rat := { id := 2, serverId := "b", allocation := SampleRun.allocation }

/-- A hold is taken on each of two servers. -/
def calls : List (Registry.Call Rat) :=
  [.addServer SampleRun.config, .addServer other, .reserve "a" SampleRun.allocation,
    .reserve "b" SampleRun.allocation]

def held : Ledger Rat × List (Reservation Rat) := Ledger.after (.inMemory, []) calls

theorem held_reached : Reached (fun _ _ => True) (.running held.1 held.2) := by
  refine .performed (.performed (.performed (.performed .inMemory ?_) ?_) ?_) ?_
  · exact SampleRun.config_inRange
  · constructor <;> decide
  · exact ⟨SampleRun.allocation_inRange, Ledger.numberLeft_after _ (calls.take 2) (by decide)⟩
  · exact ⟨SampleRun.allocation_inRange, Ledger.numberLeft_after _ (calls.take 3) (by decide)⟩

theorem permitted (hold : Reservation Rat) (given : hold ∈ held.2) :
    (Registry.Call.commit hold "c" 0).Permitted held.2 fun _ => True :=
  ⟨given, trivial, by decide⟩

/-- The first server's daemon calls its container `c`. -/
def recorded : Ledger Rat := (held.1.perform (·.commit SampleRun.hold "c" 0)).2

theorem recorded_reached : Reached (fun _ _ => True) (.running recorded held.2) := by
  have := held_reached.performed (permitted SampleRun.hold (by decide +kernel))
  rwa [show (held.1.perform ((Registry.Call.commit SampleRun.hold "c" 0).change ·)).1 = [] from rfl,
    List.append_nil] at this

end DisplacedRun

/-- The first commit adds a record, and the workspace is still hosted when another hold is taken. -/
theorem kept_while_reserving :
    DisplacedRun.recorded.registry.workspaces.size = 1 ∧
      (DisplacedRun.recorded.perform
        (·.reserve "a" SampleRun.allocation)).2.registry.Hosts
        (.ofReservation SampleRun.hold "c" 0) := by
  have hgiven : SampleRun.hold ∈ DisplacedRun.held.2 := by decide +kernel
  obtain ⟨-, hadds, -, -, -, honward⟩ := DisplacedRun.held_reached.kept_until_displaced
    (DisplacedRun.permitted SampleRun.hold hgiven)
    (show (DisplacedRun.held.1.perform (·.commit SampleRun.hold "c" 0)).1 =
      .ok (.ofReservation SampleRun.hold "c" 0) by decide +kernel)
  refine ⟨(hadds.2 (by decide +kernel)).1.trans (by decide +kernel), ?_⟩
  have hpermitted : (Registry.Call.reserve "a" SampleRun.allocation).Permitted DisplacedRun.held.2
      fun _ => True :=
    ⟨SampleRun.allocation_inRange, Ledger.numberLeft_after _ DisplacedRun.calls (by decide)⟩
  have hspares : (Registry.Call.reserve "a" SampleRun.allocation : Registry.Call Rat).Spares "c" :=
    trivial
  exact honward _ _ (.performed .here hpermitted hspares)

/-- The second server's daemon calls its container `c` too. The commit succeeds, the record of the
first server's workspace is gone although nobody removed it, and with the next reconciliation its
server counts it no more. -/
theorem displaced_on_other :
    Reached (fun _ _ => True) (.running DisplacedRun.recorded DisplacedRun.held.2) ∧
    DisplacedRun.otherHold ∈ DisplacedRun.held.2 ∧
    DisplacedRun.recorded.registry.listWorkspaces.map Workspace.serverId = ["a"] ∧
    let committed := DisplacedRun.recorded.perform (·.commit DisplacedRun.otherHold "c" 0)
    let reconciled := (committed.2.perform (·.reconcile)).2
    committed.1.isOk = true ∧
    committed.2.registry.listWorkspaces.map Workspace.serverId = ["b"] ∧
    (committed.2.registry.servers.get? "a").map Server.workspaceCount = some 1 ∧
    (reconciled.registry.servers.get? "a").map Server.workspaceCount = some 0 := by
  refine ⟨DisplacedRun.recorded_reached, ?_⟩
  decide +kernel

end WorkspaceFleet
