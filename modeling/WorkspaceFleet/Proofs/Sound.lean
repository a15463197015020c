import WorkspaceFleet.Proofs.Call
import WorkspaceFleet.Proofs.Reconcile

/-!
# WorkspaceFleet.Proofs.Sound

The invariants of a registry that hold whatever is called, in three parts.

* `Booked`: every entry stands under its own id, the holds given out are numbered from 1 and fewer
  than there are numbers, and the pending ones are among them.
* `Counted`: on every server the load is at most what is counted, and that is at most what is
  declared. A server that is not registered counts nothing, so nothing can name it.
* `Ranged`: all numbers fit their words.

Each part is kept by every `Effect`; `Sound.effect` puts them together.
-/

namespace WorkspaceFleet
namespace Registry

variable {κ : Type} {r r' : Registry κ} {issued out : List (Reservation κ)} {ws : List (Write κ)}
  {ids : String → Prop}

/-! ## Entries and holds -/

structure Booked (r : Registry κ) (issued : List (Reservation κ)) : Prop where
  keyed : r.servers.Keyed Server.serverId
  filed : r.workspaces.Keyed Workspace.containerId
  numbered : issued.map Reservation.id = List.range' 1 issued.length
  next : r.nextReservation = (issued.length + 1) % word64
  few : issued.length < word64
  given : r.pending.Sublist issued

namespace Booked

/-- Entries that stand under their own ids, and no hold given out yet. -/
theorem unheld (keyed : r.servers.Keyed Server.serverId)
    (filed : r.workspaces.Keyed Workspace.containerId) (pending : r.pending = [])
    (next : r.nextReservation = 1) : Booked r [] where
  keyed := keyed
  filed := filed
  numbered := rfl
  next := next
  few := Nat.two_pow_pos 64
  given := pending ▸ .slnil

theorem empty : Booked (.empty : Registry κ) [] := .unheld (.nothing _) (.nothing _) rfl rfl

theorem issued_nodup (b : Booked r issued) : (issued.map Reservation.id).Nodup := by
  rw [b.numbered]
  exact List.nodup_range'

theorem pending_nodup (b : Booked r issued) : (r.pending.map Reservation.id).Nodup :=
  (b.given.map _).nodup b.issued_nodup

/-- The number of the next hold is new. -/
theorem id_ne_next (b : Booked r issued) {h : Reservation κ} (given : h ∈ issued) :
    h.id ≠ r.nextReservation := by
  have hmem := List.mem_map_of_mem (f := Reservation.id) given
  rw [b.numbered, List.mem_range'_1] at hmem
  have hfew := b.few
  rw [b.next]
  -- the numbers begin again with 0, which is not given out before
  rcases Nat.lt_or_eq_of_le (Nat.succ_le_of_lt hfew) with hlt | heq
  · rw [Nat.mod_eq_of_lt hlt]
    omega
  · rw [← Nat.succ_eq_add_one, heq, Nat.mod_self]
    omega

/-- A hold is known by its id. -/
theorem eq_of_id (b : Booked r issued) {h k : Reservation κ} (hh : h ∈ issued) (hk : k ∈ issued)
    (hid : h.id = k.id) : h = k :=
  List.inj_on_of_nodup_map b.issued_nodup hh hk hid

theorem held_eq (b : Booked r issued) {hold held : Reservation κ} (given : hold ∈ issued)
    (pending : held ∈ r.pending) (same : held.id = hold.id) : held = hold :=
  b.eq_of_id (b.given.subset pending) given same

theorem withoutHold_sublist (b : Booked r issued) (id : Nat) : (r.withoutHold id).Sublist issued :=
  List.filter_sublist.trans b.given

theorem effect [Quantity κ] (b : Booked r issued) (e : Effect r issued ids r' ws out) :
    Booked r' (issued ++ out) := by
  cases e with
  | nothing => simpa using b
  | added free range => simpa using { b with keyed := b.keyed.insert rfl }
  | withdrawn found idle => simpa using { b with keyed := b.keyed.erase _ }
  | checked found range => simpa using { b with keyed := b.keyed.replace found rfl }
  | @held id s a found room range left =>
    have hnext : r.nextReservation = issued.length + 1 := b.next.trans (Nat.mod_eq_of_lt left)
    refine ⟨b.keyed.replace found rfl, b.filed, ?_, ?_, ?_, b.given.append (.refl _)⟩
    · rw [List.map_append, b.numbered, List.length_append, List.length_singleton,
        List.range'_1_concat, List.map_singleton, hnext, Nat.add_comm 1]
    · rw [List.length_append, List.length_singleton, hnext]
    · rw [List.length_append, List.length_singleton]
      exact left
  | released pending found =>
    simpa using { b with
      keyed := b.keyed.replace found rfl
      given := b.withoutHold_sublist _ }
  | forgotten pending missing => simpa using { b with given := b.withoutHold_sublist _ }
  | committed given pending same named range =>
    simpa using { b with
      filed := b.filed.insert rfl
      given := b.withoutHold_sublist _ }
  | updated found same range =>
    simpa using { b with filed := b.filed.replace found same.containerId }
  | removed found server =>
    simpa using { b with
      keyed := b.keyed.replace server rfl
      filed := b.filed.erase _ }
  | strayed found missing => simpa using { b with filed := b.filed.erase _ }
  | reconciled => simpa using { b with keyed := keyed_reconcile b.keyed }

end Booked

/-! ## Loads -/

theorem loadOn_hold (r : Registry κ) (t : Table (Server κ)) (hold : Reservation κ) (n : Nat)
    (id : String) (q : Resource) :
    ({ r with servers := t, pending := r.pending ++ [hold], nextReservation := n } :
      Registry κ).loadOn id q = r.loadOn id q + hold.loadOn id q := by
  simp only [loadOn_eq, heldOn_append]
  omega

/-- A hold that is given back takes its load with it. -/
theorem loadOn_withoutHold (b : Booked r issued) {hold : Reservation κ}
    (pending : hold ∈ r.pending) (t : Table (Server κ)) (id : String) (q : Resource) :
    ({ r with servers := t, pending := r.withoutHold hold.id } : Registry κ).loadOn id q +
      hold.loadOn id q = r.loadOn id q := by
  simp only [loadOn_eq, withoutHold]
  rw [heldOn_filter b.pending_nodup pending]
  omega

/-- A hold that becomes a record keeps its load; what is lost is the load of a record that stood in
its place. -/
theorem loadOn_commit [Quantity κ] (b : Booked r issued) {hold : Reservation κ}
    (pending : hold ∈ r.pending) (c : String) (now : Nat) (id : String) (q : Resource) :
    ({ r with
        pending := r.withoutHold hold.id
        workspaces := r.workspaces.insert c (.ofReservation hold c now) } :
      Registry κ).loadOn id q = recordedOn (r.workspaces.erase c) id q + heldOn r.pending id q := by
  have hsame : (Workspace.ofReservation hold c now).loadOn id q = hold.loadOn id q := rfl
  simp only [loadOn_eq, recordedOn_insert, withoutHold]
  rw [hsame, heldOn_filter b.pending_nodup pending]
  omega

theorem loadOn_commit_le [Quantity κ] (b : Booked r issued) {hold : Reservation κ}
    (pending : hold ∈ r.pending) (c : String) (now : Nat) (id : String) (q : Resource) :
    ({ r with
        pending := r.withoutHold hold.id
        workspaces := r.workspaces.insert c (.ofReservation hold c now) } :
      Registry κ).loadOn id q ≤ r.loadOn id q := by
  rw [loadOn_commit b pending, loadOn_eq]
  exact Nat.add_le_add_right (recordedOn_erase_le _ _ _ _) _

theorem loadOn_update {c : String} {w w' : Workspace κ} (found : r.workspaces.get? c = some w)
    (same : w.SamePlace w') (id : String) (q : Resource) :
    ({ r with workspaces := r.workspaces.insert c w' } : Registry κ).loadOn id q =
      r.loadOn id q := by
  rw [loadOn_eq, loadOn_eq, recordedOn_insert, recordedOn_erase found, Workspace.loadOn,
    Workspace.loadOn, same.serverId, same.allocation]

/-- A record that is removed takes its load with it. -/
theorem loadOn_erase {c : String} {w : Workspace κ} (found : r.workspaces.get? c = some w)
    (t : Table (Server κ)) (id : String) (q : Resource) :
    ({ r with workspaces := r.workspaces.erase c, servers := t } : Registry κ).loadOn id q +
      w.loadOn id q = r.loadOn id q := by
  simp only [loadOn_eq]
  rw [recordedOn_erase found]
  omega

/-- The load never passes the counters, and these never pass what is declared. -/
structure Counted (r : Registry κ) : Prop where
  covered : ∀ id q, r.loadOn id q ≤ countedOn r.servers id q
  bounded : ∀ id q, countedOn r.servers id q ≤ declaredOn r.servers id q

namespace Counted

theorem empty : Counted (.empty : Registry κ) :=
  ⟨fun _ _ => Nat.le_refl 0, fun _ _ => Nat.le_refl 0⟩

theorem loadOn_le (h : Counted r) {id : String} {s : Server κ} (found : r.servers.get? id = some s)
    (q : Resource) : r.loadOn id q ≤ s.used q := by
  rw [← countedOn_of_get? found]
  exact h.covered id q

theorem used_le (h : Counted r) {id : String} {s : Server κ} (found : r.servers.get? id = some s)
    (q : Resource) : s.used q ≤ s.declared q := by
  rw [← countedOn_of_get? found, ← declaredOn_of_get? found]
  exact h.bounded id q

theorem loadOn_none (h : Counted r) {id : String} (missing : r.servers.get? id = none)
    (q : Resource) : r.loadOn id q = 0 := by
  have := h.covered id q
  rw [countedOn_of_none missing] at this
  omega

/-- Whatever names a server names one that is registered. -/
theorem exists_server (h : Counted r) {id : String} (loaded : 0 < r.loadOn id .slots) :
    ∃ s, r.servers.get? id = some s := by
  cases hs : r.servers.get? id with
  | some s => exact ⟨s, rfl⟩
  | none =>
    rw [h.loadOn_none hs] at loaded
    exact absurd loaded (Nat.lt_irrefl 0)

theorem loadOn_idle (h : Counted r) {id : String} {s : Server κ}
    (found : r.servers.get? id = some s) (idle : s.used .slots = 0) (q : Resource) :
    r.loadOn id q = 0 := by
  have hslots := h.loadOn_le found .slots
  exact loadOn_eq_zero (by omega) q

/-- Another server with the same limits in the place of one, and no more load on the others. -/
theorem replace (h : Counted r) {id : String} {s s' : Server κ}
    (servers : r'.servers = r.servers.insert id s')
    (limits : ∀ q, s'.declared q = s.declared q) (room : ∀ q, s'.used q ≤ s.declared q)
    (here : ∀ q, r'.loadOn id q ≤ s'.used q)
    (elsewhere : ∀ j q, id ≠ j → r'.loadOn j q ≤ r.loadOn j q) : Counted r' := by
  constructor
  · intro j q
    rw [servers, countedOn_insert]
    split
    · next hj => exact hj ▸ here q
    · next hj => exact Nat.le_trans (elsewhere j q hj) (h.covered j q)
  · intro j q
    rw [servers, countedOn_insert, declaredOn_insert]
    split
    · rw [limits]
      exact room q
    · exact h.bounded j q

/-- The same servers, and no more load on any. -/
theorem lessen (h : Counted r) (servers : r'.servers = r.servers)
    (less : ∀ j q, r'.loadOn j q ≤ r.loadOn j q) : Counted r' := by
  refine ⟨fun j q => ?_, fun j q => ?_⟩
  · rw [servers]
    exact Nat.le_trans (less j q) (h.covered j q)
  · rw [servers]
    exact h.bounded j q

theorem added [Quantity κ] (h : Counted r) {c : ServerConfig κ}
    (free : r.servers.get? c.serverId = none) :
    Counted { r with servers := r.servers.insert c.serverId (.ofConfig c) } := by
  constructor
  · intro j q
    rw [countedOn_insert]
    split
    · next hj =>
      rw [Server.used_ofConfig]
      exact Nat.le_of_eq (h.loadOn_none (hj ▸ free) q)
    · exact h.covered j q
  · intro j q
    rw [countedOn_insert, declaredOn_insert]
    split
    · rw [Server.used_ofConfig]
      exact Nat.zero_le _
    · exact h.bounded j q

theorem withdrawn (h : Counted r) {id : String} {s : Server κ}
    (found : r.servers.get? id = some s) (idle : s.used .slots = 0) :
    Counted { r with servers := r.servers.erase id } := by
  constructor
  · intro j q
    rw [countedOn_erase]
    split
    · next hj => exact Nat.le_of_eq (h.loadOn_idle (hj ▸ found) idle q)
    · exact h.covered j q
  · intro j q
    rw [countedOn_erase, declaredOn_erase]
    split
    · exact Nat.zero_le _
    · exact h.bounded j q

/-- After reconciliation every counter is the load. -/
theorem countedOn_reconciled [Quantity κ] (h : Counted r) (b : Booked r issued) (j : String)
    (q : Resource) : countedOn r.reconcile.registry.servers j q = r.loadOn j q := by
  cases hs : r.servers.get? j with
  | some s => exact countedOn_reconcile b.keyed hs q
  | none =>
    have hnone := get?_reconcile b.keyed j
    rw [hs] at hnone
    rw [countedOn_of_none hnone, h.loadOn_none hs]

theorem reconcile [Quantity κ] (h : Counted r) (b : Booked r issued) :
    Counted r.reconcile.registry := by
  have hload : ∀ j q, r.reconcile.registry.loadOn j q = r.loadOn j q := fun _ _ => rfl
  constructor
  · intro j q
    exact Nat.le_of_eq (by rw [hload, h.countedOn_reconciled b])
  · intro j q
    rw [h.countedOn_reconciled b, declaredOn_reconcile b.keyed]
    exact Nat.le_trans (h.covered j q) (h.bounded j q)

theorem effect [Quantity κ] (h : Counted r) (b : Booked r issued)
    (e : Effect r issued ids r' ws out) : Counted r' := by
  cases e with
  | nothing => exact h
  | added free range => exact h.added free
  | withdrawn found idle => exact h.withdrawn found idle
  | checked found range =>
    refine h.replace rfl (declared_checked _ _) ?_ ?_ fun _ _ _ => Nat.le_refl _
    · intro q
      rw [used_checked]
      exact h.used_le found q
    · intro q
      rw [used_checked]
      exact h.loadOn_le found q
  | @held id s a found room range left =>
    refine h.replace rfl (Server.declared_apply _ _)
      (fun q => Server.used_apply_le room (h.used_le found q)) ?_ ?_
    · intro q
      rw [loadOn_hold, Server.used_apply, Reservation.loadOn, if_pos rfl]
      exact Nat.add_le_add_right (h.loadOn_le found q) _
    · intro j q hj
      rw [loadOn_hold, Reservation.loadOn, if_neg hj]
      exact Nat.le_refl _
  | @released hold s pending found =>
    refine h.replace rfl (Server.declared_retract _ _) ?_ ?_ ?_
    · intro q
      rw [Server.used_retract]
      exact Nat.le_trans (Nat.sub_le _ _) (h.used_le found q)
    · intro q
      have hload := loadOn_withoutHold b pending (r.servers.insert hold.serverId
        (s.retract hold.allocation)) hold.serverId q
      have hle := h.loadOn_le found q
      rw [Reservation.loadOn, if_pos rfl] at hload
      rw [Server.used_retract]
      omega
    · intro j q _
      rw [← loadOn_withoutHold b pending _ j q]
      exact Nat.le_add_right _ _
  | forgotten pending missing =>
    refine h.lessen rfl fun j q => ?_
    rw [← loadOn_withoutHold b pending r.servers j q]
    exact Nat.le_add_right _ _
  | committed given pending same named range =>
    obtain rfl := b.held_eq given pending same
    -- a record that stood under the id is lost, so the load may fall below the counters
    exact h.lessen rfl fun j q => loadOn_commit_le b pending _ _ j q
  | updated found same range =>
    exact h.lessen rfl fun j q => Nat.le_of_eq (loadOn_update found same j q)
  | @removed c w s found server =>
    refine h.replace rfl (Server.declared_retract _ _) ?_ ?_ ?_
    · intro q
      rw [Server.used_retract]
      exact Nat.le_trans (Nat.sub_le _ _) (h.used_le server q)
    · intro q
      have hload := loadOn_erase found (r.servers.insert w.serverId (s.retract w.allocation))
        w.serverId q
      have hle := h.loadOn_le server q
      rw [Workspace.loadOn, if_pos rfl] at hload
      rw [Server.used_retract]
      omega
    · intro j q _
      rw [← loadOn_erase found _ j q]
      exact Nat.le_add_right _ _
  | strayed found missing =>
    refine h.lessen rfl fun j q => ?_
    rw [← loadOn_erase found r.servers j q]
    exact Nat.le_add_right _ _
  | reconciled => exact h.reconcile b

end Counted

/-! ## Words -/

/-- All numbers fit their words. -/
structure Ranged (r : Registry κ) (issued : List (Reservation κ)) : Prop where
  servers : r.servers.All Server.InRange
  workspaces : r.workspaces.All Workspace.InRange
  holds : ∀ h ∈ issued, h.allocation.InRange

namespace Ranged

theorem empty : Ranged (.empty : Registry κ) [] where
  servers := .nothing
  workspaces := .nothing
  holds h hmem := by cases hmem

/-- No load is too large for its word. -/
theorem loadOn_lt (h : Ranged r issued) (c : Counted r) (id : String) (q : Resource) :
    r.loadOn id q < q.limit := by
  cases hs : r.servers.get? id with
  | none =>
    rw [c.loadOn_none hs]
    exact q.limit_pos
  | some s => exact Nat.lt_of_le_of_lt (c.loadOn_le hs q) ((h.servers id s hs).used q)

variable [Quantity κ]

theorem corrected (h : Ranged r issued) (c : Counted r) {s : Server κ} (hs : s.InRange)
    (id : String) : (corrected s (r.usageOn id)).InRange := by
  refine hs.corrected fun q => ?_
  rw [total_usageOn]
  exact h.loadOn_lt c id q

theorem reconcile (h : Ranged r issued) (b : Booked r issued) (c : Counted r) :
    Ranged r.reconcile.registry issued := by
  refine ⟨?_, h.workspaces, h.holds⟩
  intro id v hv
  rw [get?_reconcile b.keyed, Option.map_eq_some_iff] at hv
  obtain ⟨s, hs, rfl⟩ := hv
  unfold settled
  split
  · exact h.corrected c (h.servers id s hs) id
  · exact h.servers id s hs

theorem effect (h : Ranged r issued) (b : Booked r issued) (c : Counted r)
    (e : Effect r issued ids r' ws out) : Ranged r' (issued ++ out) := by
  cases e with
  | nothing => simpa using h
  | added free range => simpa using { h with servers := h.servers.insert _ (.ofConfig range) }
  | withdrawn found idle => simpa using { h with servers := h.servers.erase _ }
  | checked found range =>
    simpa using { h with servers := h.servers.insert _ ((h.servers _ _ found).checked range) }
  | held found room range left =>
    refine ⟨h.servers.insert _ ((h.servers _ _ found).apply room (c.used_le found)),
      h.workspaces, fun k hk => ?_⟩
    rcases List.mem_append.1 hk with hold | hnew
    · exact h.holds k hold
    · rw [List.mem_singleton.1 hnew]
      exact range
  | released pending found =>
    simpa using { h with servers := h.servers.insert _ ((h.servers _ _ found).retract _) }
  | forgotten pending missing => simpa using { h with }
  | committed given pending same named range =>
    simpa using { h with
      workspaces := h.workspaces.insert _ (.ofReservation (h.holds _ given) _ range) }
  | updated found same range =>
    simpa using { h with
      workspaces := h.workspaces.insert _ (range (h.workspaces _ _ found)) }
  | removed found server =>
    simpa using { h with
      servers := h.servers.insert _ ((h.servers _ _ server).retract _)
      workspaces := h.workspaces.erase _ }
  | strayed found missing => simpa using { h with workspaces := h.workspaces.erase _ }
  | reconciled => simpa using h.reconcile b c

end Ranged

/-! ## All together -/

structure Sound (r : Registry κ) (issued : List (Reservation κ)) : Prop where
  booked : Booked r issued
  counted : Counted r
  ranged : Ranged r issued

theorem Sound.empty : Sound (.empty : Registry κ) [] := ⟨.empty, .empty, .empty⟩

theorem Sound.reconcile [Quantity κ] (h : Sound r issued) :
    Sound r.reconcile.registry issued :=
  ⟨{ h.booked with keyed := keyed_reconcile h.booked.keyed }, h.counted.reconcile h.booked,
    h.ranged.reconcile h.booked h.counted⟩

/-- **Every call keeps the invariants.** -/
theorem Sound.effect [Quantity κ] (h : Sound r issued) (e : Effect r issued ids r' ws out) :
    Sound r' (issued ++ out) :=
  ⟨h.booked.effect e, h.counted.effect h.booked e, h.ranged.effect h.booked h.counted e⟩

end Registry
end WorkspaceFleet
