import WorkspaceFleet.Proofs.Sound

/-!
# WorkspaceFleet.Proofs.Cut

The tables of a registry after only some of a call's writes.

`Registry.absorb` makes a write to the tables in memory. `Effect.cut` says what comes of a
registry that absorbs the writes of a permitted call up to some point: it is sound without its
holds, and each of its rows is as before or as after the call.
-/

namespace WorkspaceFleet

variable {κ : Type}

namespace Registry

variable {r r' : Registry κ} {issued out : List (Reservation κ)} {ws : List (Write κ)}
  {ids : String → Prop}

/-- The registry with a write made to its tables. -/
def absorb (r : Registry κ) : Write κ → Registry κ
  | .putServer s => { r with servers := r.servers.insert s.serverId s }
  | .deleteServer id => { r with servers := r.servers.erase id }
  | .putWorkspace w => { r with workspaces := r.workspaces.insert w.containerId w }
  | .deleteWorkspace id => { r with workspaces := r.workspaces.erase id }

/-- The registry with several writes made to its tables. -/
def absorbAll (r : Registry κ) (ws : List (Write κ)) : Registry κ := ws.foldl absorb r

/-- The registry without its holds; nothing of them outlives the process. -/
def rest (r : Registry κ) : Registry κ := { r with pending := [], nextReservation := 1 }

theorem absorbAll_putServer (r : Registry κ) (l : List (Server κ)) :
    r.absorbAll (l.map .putServer) =
      { r with servers := l.foldl (fun t s => t.insert s.serverId s) r.servers } := by
  induction l generalizing r with
  | nil => rfl
  | cons s rest ih =>
    rw [List.map_cons, absorbAll, List.foldl_cons]
    exact ih (r.absorb (.putServer s))

theorem loadOn_rest (r : Registry κ) (id : String) (q : Resource) :
    r.rest.loadOn id q = recordedOn r.workspaces id q := by
  rw [loadOn_eq]
  rfl

theorem loadOn_rest_le (r : Registry κ) (id : String) (q : Resource) :
    r.rest.loadOn id q ≤ r.loadOn id q := by
  rw [loadOn_rest, loadOn_eq]
  exact Nat.le_add_right _ _

/-- Sound tables are sound without holds. -/
theorem Sound.rest (h : Sound r issued) : Sound r.rest [] := by
  refine ⟨.unheld h.booked.keyed h.booked.filed rfl rfl, ?_, ?_⟩
  · exact h.counted.lessen rfl (loadOn_rest_le r)
  · refine ⟨h.ranged.servers, h.ranged.workspaces, ?_⟩
    intro k hk
    cases hk

/-- A sound registry without holds whose servers are each as in the first or as in the second
registry, and whose workspaces are those of the first or those of the second. -/
structure Between (r r' m : Registry κ) : Prop where
  sound : Sound m []
  pending : m.pending = []
  servers : ∀ id, m.servers.get? id = r.servers.get? id ∨ m.servers.get? id = r'.servers.get? id
  workspaces : m.workspaces = r.workspaces ∨ m.workspaces = r'.workspaces

theorem Between.first (h : Sound r issued) (r' : Registry κ) : Between r r' r.rest :=
  ⟨h.rest, rfl, fun _ => .inl rfl, .inl rfl⟩

theorem Between.second (h : Sound r' issued) (r : Registry κ) : Between r r' r'.rest :=
  ⟨h.rest, rfl, fun _ => .inr rfl, .inr rfl⟩

/-- A record that is gone while its server still counts it. -/
theorem Between.removed (h : Sound r issued) (c : String) (t : Table (Server κ)) :
    Between r { r with workspaces := r.workspaces.erase c, servers := t }
      { r with workspaces := r.workspaces.erase c }.rest := by
  have hcounted : Counted { r with workspaces := r.workspaces.erase c } := by
    refine h.counted.lessen rfl fun id q => ?_
    rw [loadOn_eq, loadOn_eq]
    exact Nat.add_le_add_right (recordedOn_erase_le _ _ _ _) _
  have hsound : Sound { r with workspaces := r.workspaces.erase c } issued :=
    ⟨{ h.booked with filed := h.booked.filed.erase c }, hcounted,
      { h.ranged with workspaces := h.ranged.workspaces.erase c }⟩
  exact ⟨hsound.rest, rfl, fun _ => .inl rfl, .inr rfl⟩

variable [Quantity κ]

/-! ## Writes that are cut -/

/-- Some of the corrected servers in the place of the others: each is as it was or settled. -/
theorem get?_corrections_take (b : Booked r issued) (k : Nat) (id : String) :
    ((r.corrections.take k).foldl (fun t s => t.insert s.serverId s) r.servers).get? id =
        r.servers.get? id ∨
      ((r.corrections.take k).foldl (fun t s => t.insert s.serverId s) r.servers).get? id =
        r.reconcile.registry.servers.get? id := by
  by_cases hid : ∃ v ∈ r.corrections.take k, v.serverId = id
  · obtain ⟨v, hv, rfl⟩ := hid
    right
    have hnodup := corrections_nodup b.keyed
    rw [servers_reconcile,
      Table.get?_foldl_insert_of_mem (f := fun s => s) hnodup (List.mem_of_mem_take hv)]
    refine Table.get?_foldl_insert_of_mem (f := fun s => s) ?_ hv
    rw [List.map_take]
    exact hnodup.sublist (List.take_sublist _ _)
  · left
    refine Table.get?_foldl_insert_of_ne (f := fun s => s) fun v hv heq => ?_
    exact hid ⟨v, hv, heq⟩

/-- Servers that are each as they were or settled, halfway through a reconciliation. -/
theorem Between.reconciled (h : Sound r issued) {t : Table (Server κ)}
    (ht : ∀ id, t.get? id = r.servers.get? id ∨ t.get? id = r.reconcile.registry.servers.get? id) :
    Between r r.reconcile.registry { r with servers := t }.rest := by
  have h' := h.reconcile
  have hkeyed : t.Keyed Server.serverId := by
    intro id v hv
    rcases ht id with hid | hid
    · exact h.booked.keyed id v (hid ▸ hv)
    · exact h'.booked.keyed id v (hid ▸ hv)
  have hcounted : Counted { r with servers := t } := by
    constructor
    · intro id q
      show r.loadOn id q ≤ (t.get? id).elim 0 (·.used q)
      rcases ht id with hid | hid
      · rw [hid]
        exact h.counted.covered id q
      · rw [hid]
        exact h'.counted.covered id q
    · intro id q
      show (t.get? id).elim 0 (·.used q) ≤ (t.get? id).elim 0 (·.declared q)
      rcases ht id with hid | hid
      · rw [hid]
        exact h.counted.bounded id q
      · rw [hid]
        exact h'.counted.bounded id q
  have hrange : t.All Server.InRange := by
    intro id v hv
    rcases ht id with hid | hid
    · exact h.ranged.servers id v (hid ▸ hv)
    · exact h'.ranged.servers id v (hid ▸ hv)
  have hsound : Sound { r with servers := t } issued :=
    ⟨{ h.booked with keyed := hkeyed }, hcounted, { h.ranged with servers := hrange }⟩
  exact ⟨hsound.rest, rfl, ht, .inl rfl⟩

/-- All writes together make the tables of the registry afterwards. -/
theorem Effect.rest_absorbAll (b : Booked r issued) (e : Effect r issued ids r' ws out) :
    (r.absorbAll ws).rest = r'.rest := by
  cases e with
  | nothing => rfl
  | added free range => rfl
  | withdrawn found idle => rfl
  | checked found range =>
    rw [← b.keyed _ _ found]
    rfl
  | held found room range =>
    rw [← b.keyed _ _ found]
    rfl
  | released pending found =>
    rw [← b.keyed _ _ found]
    rfl
  | forgotten pending missing => rfl
  | committed given pending same named range => rfl
  | updated found same range =>
    rw [← b.filed _ _ found, ← same.containerId]
    rfl
  | removed found server =>
    rw [← b.keyed _ _ server]
    rfl
  | strayed found missing => rfl
  | reconciled =>
    rw [writes_reconcile, absorbAll_putServer, ← servers_reconcile]
    rfl

/-- Where there is one write at most, it is made or not. -/
theorem Effect.cut_short (h : Sound r issued) (e : Effect r issued ids r' ws out)
    (short : ws.length ≤ 1) (k : Nat) : Between r r' (r.absorbAll (ws.take k)).rest := by
  cases k with
  | zero => exact .first h r'
  | succ k =>
    rw [List.take_of_length_le (by omega), e.rest_absorbAll h.booked]
    exact .second (h.effect e) r

/-- **A call that is cut.** Wherever the writes of a permitted call are cut, the rows are those of a
sound registry between the one before and the one after. -/
theorem Effect.cut (h : Sound r issued) (e : Effect r issued ids r' ws out) (k : Nat) :
    Between r r' (r.absorbAll (ws.take k)).rest := by
  by_cases short : ws.length ≤ 1
  · exact e.cut_short h short k
  · have after := h.effect e
    have hall := e.rest_absorbAll h.booked
    cases e with
    | @removed c w s found server =>
      -- after the first write the record is gone and its server still counts it
      match k with
      | 0 => exact .first h _
      | 1 => exact .removed h c _
      | k + 2 =>
        rw [List.take_of_length_le (by simp), hall]
        exact .second after r
    | reconciled =>
      rw [writes_reconcile, ← List.map_take, absorbAll_putServer]
      exact .reconciled h (get?_corrections_take h.booked k)
    -- every other call makes one write at most
    | _ => exact absurd (by simp) short

end Registry
end WorkspaceFleet
