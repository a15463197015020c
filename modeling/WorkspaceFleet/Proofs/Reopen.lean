import WorkspaceFleet.Ledger
import WorkspaceFleet.Proofs.Cut
import WorkspaceFleet.Proofs.Encoding

/-!
# WorkspaceFleet.Proofs.Reopen

The rows of a store and the registry over it, and what a restart makes of the rows.

A store `Mirrors` a registry if every value in memory has a row that is its written form or that
it was read from, and there are no other rows. Rows and registry follow the writes together
(`Mirrors.applyAll`). What is read from rows that mirror a sound registry is sound again
(`Reads.sound`), with each value as it was or with its numbers read again (`Reads.workspace`).
-/

namespace WorkspaceFleet

variable {κ : Type} [Quantity κ]

/-- The row of a server: its written form, or what it was read from at a restart. -/
def Server.InRow (row : Document κ) (s : Server κ) : Prop :=
  row = s.encode ∨ (Store.readRow Server.decode row).map Registry.reopened = .ok s

/-- The row of a workspace: its written form, or what it was read from. -/
def Workspace.InRow (row : Document κ) (w : Workspace κ) : Prop :=
  row = w.encode ∨ Store.readRow Workspace.decode row = .ok w

/-- Every value in memory has a row, and every row a value. -/
structure Store.Mirrors (store : Store κ) (r : Registry κ) : Prop where
  servers : store.servers.Matches Server.InRow r.servers
  workspaces : store.workspaces.Matches Workspace.InRow r.workspaces

namespace Store.Mirrors

variable {store : Store κ} {r : Registry κ}

theorem empty : Mirrors (.empty : Store κ) .empty := ⟨.nothing _, .nothing _⟩

theorem apply (h : Mirrors store r) (w : Write κ) : Mirrors (store.apply w) (r.absorb w) := by
  cases w with
  | putServer s => exact ⟨h.servers.insert _ (.inl rfl), h.workspaces⟩
  | deleteServer id => exact ⟨h.servers.erase _, h.workspaces⟩
  | putWorkspace w => exact ⟨h.servers, h.workspaces.insert _ (.inl rfl)⟩
  | deleteWorkspace id => exact ⟨h.servers, h.workspaces.erase _⟩

/-- **The rows follow the writes.** -/
theorem applyAll (h : Mirrors store r) (ws : List (Write κ)) :
    Mirrors (store.applyAll ws) (r.absorbAll ws) := by
  induction ws generalizing store r with
  | nil => exact h
  | cons w rest ih => exact ih (h.apply w)

/-- Holds have no rows. -/
theorem rest_iff : Mirrors store r.rest ↔ Mirrors store r := by
  constructor <;> exact fun h => ⟨h.servers, h.workspaces⟩

/-- The rows after a permitted call mirror the registry after it. -/
theorem effect {r' : Registry κ} {issued out : List (Reservation κ)} {ws : List (Write κ)}
    {ids : String → Prop}
    (h : Mirrors store r) (b : Registry.Booked r issued)
    (e : Registry.Effect r issued ids r' ws out) : Mirrors (store.applyAll ws) r' := by
  rw [← rest_iff, ← e.rest_absorbAll b, rest_iff]
  exact h.applyAll ws

end Store.Mirrors

/-! ## Rows that are read again -/

/-- A server that is read again comes back as it is, or, where its row is its written form, with its
numbers read again and not taken for healthy. -/
theorem Server.InRow.read {row : Document κ} {s s' : Server κ} (h : s.InRow row)
    (hread : (Store.readRow Server.decode row).map Registry.reopened = .ok s') :
    s' = s ∨ row = s.encode ∧ s.InRange ∧ s.Numbers Quantity.Readable ∧
      s' = Registry.reopened s.reread := by
  rcases h with rfl | hrow
  · right
    obtain ⟨v, hv, rfl⟩ := map_eq_ok.1 hread
    obtain ⟨⟨hrange, hnumbers⟩, rfl⟩ := Store.readRow_server.1 hv
    exact ⟨rfl, hrange, hnumbers, rfl⟩
  · left
    rw [hrow] at hread
    cases hread
    rfl

/-- A workspace likewise. -/
theorem Workspace.InRow.read {row : Document κ} {w w' : Workspace κ} (h : w.InRow row)
    (hread : Store.readRow Workspace.decode row = .ok w') :
    w' = w ∨ row = w.encode ∧ w.InRange ∧ w.Numbers Quantity.Readable ∧ w' = w.reread := by
  rcases h with rfl | hrow
  · right
    obtain ⟨⟨hrange, hnumbers⟩, rfl⟩ := Store.readRow_workspace.1 hread
    exact ⟨rfl, hrange, hnumbers, rfl⟩
  · left
    rw [hrow] at hread
    cases hread
    rfl

namespace Registry

/-- The registry that the rows of a store are read as. -/
structure Reads (store : Store κ) (l : Registry κ) : Prop where
  servers : store.servers.Matches
    (fun row s => (Store.readRow Server.decode row).map reopened = .ok s) l.servers
  workspaces : store.workspaces.Matches
    (fun row w => Store.readRow Workspace.decode row = .ok w) l.workspaces
  pending : l.pending = []
  next : l.nextReservation = 1

namespace Reads

variable {store : Store κ} {l m : Registry κ} {issued : List (Reservation κ)}

/-- What was read mirrors the rows. -/
theorem mirrors (h : Reads store l) : store.Mirrors l where
  servers := h.servers.imp fun _ _ _ _ _ hread => .inr hread
  workspaces := h.workspaces.imp fun _ _ _ _ _ hread => .inr hread

/-- The servers that were read, beside those in memory before. -/
theorem again_servers (h : Reads store l) (hm : store.Mirrors m) :
    m.servers.Matches (fun s s' => s' = s ∨ s.InRange ∧ s' = reopened s.reread) l.servers := by
  refine (hm.servers.join h.servers).imp ?_
  rintro id s s' - - ⟨row, hrow, hread⟩
  rcases hrow.read hread with hsame | ⟨-, hrange, -, hagain⟩
  · exact .inl hsame
  · exact .inr ⟨hrange, hagain⟩

/-- The workspaces that were read, beside those in memory before. -/
theorem again_workspaces (h : Reads store l) (hm : store.Mirrors m) :
    m.workspaces.Matches (fun w w' => w' = w ∨ w.InRange ∧ w' = w.reread) l.workspaces := by
  refine (hm.workspaces.join h.workspaces).imp ?_
  rintro id w w' - - ⟨row, hrow, hread⟩
  rcases hrow.read hread with hsame | ⟨-, hrange, -, hagain⟩
  · exact .inl hsame
  · exact .inr ⟨hrange, hagain⟩

theorem booked (h : Reads store l) (hm : store.Mirrors m) (b : Booked m issued) : Booked l [] := by
  refine .unheld ?_ ?_ h.pending h.next
  · intro id s' hs'
    obtain ⟨s, hs, rfl | ⟨-, rfl⟩⟩ := (h.again_servers hm).some_right hs'
    · exact b.keyed id s' hs
    · rw [serverId_reopened, Server.serverId_reread, b.keyed id s hs]
  · intro id w' hw'
    obtain ⟨w, hw, rfl | ⟨-, rfl⟩⟩ := (h.again_workspaces hm).some_right hw'
    · exact b.filed id w' hw
    · rw [Workspace.containerId_reread, b.filed id w hw]

theorem recordedOn_eq (h : Reads store l) (hm : store.Mirrors m) (id : String) (q : Resource) :
    recordedOn l.workspaces id q = recordedOn m.workspaces id q := by
  refine recordedOn_congr id q ((h.again_workspaces hm).imp ?_)
  rintro _ w w' - - (rfl | ⟨-, rfl⟩)
  · rfl
  · exact Workspace.loadOn_reread w id q

theorem countedOn_eq (h : Reads store l) (hm : store.Mirrors m) (id : String) (q : Resource) :
    countedOn l.servers id q = countedOn m.servers id q := by
  rcases h.again_servers hm id with ⟨hnone, hnone'⟩ | ⟨s, s', hs, hs', rfl | ⟨-, rfl⟩⟩
  · rw [countedOn_of_none hnone, countedOn_of_none hnone']
  · rw [countedOn_of_get? hs, countedOn_of_get? hs']
  · rw [countedOn_of_get? hs, countedOn_of_get? hs', used_reopened, Server.used_reread]

theorem declaredOn_eq (h : Reads store l) (hm : store.Mirrors m) (id : String) (q : Resource) :
    declaredOn l.servers id q = declaredOn m.servers id q := by
  rcases h.again_servers hm id with ⟨hnone, hnone'⟩ | ⟨s, s', hs, hs', rfl | ⟨-, rfl⟩⟩
  · rw [declaredOn, declaredOn, hnone, hnone']
  · rw [declaredOn_of_get? hs, declaredOn_of_get? hs']
  · rw [declaredOn_of_get? hs, declaredOn_of_get? hs', declared_reopened, Server.declared_reread]

/-- **What is read is sound** if the rows mirror a sound registry. -/
theorem sound (h : Reads store l) (hm : store.Mirrors m) (hs : Sound m issued) : Sound l [] := by
  refine ⟨h.booked hm hs.booked, ⟨?_, ?_⟩, ⟨?_, ?_, ?_⟩⟩
  · intro id q
    calc l.loadOn id q
        = m.rest.loadOn id q := by
          rw [loadOn_eq, h.pending, heldOn_nil, h.recordedOn_eq hm, loadOn_rest, Nat.add_zero]
      _ ≤ countedOn m.servers id q := hs.rest.counted.covered id q
      _ = countedOn l.servers id q := (h.countedOn_eq hm id q).symm
  · intro id q
    rw [h.countedOn_eq hm, h.declaredOn_eq hm]
    exact hs.counted.bounded id q
  · intro id s' hs'
    obtain ⟨s, hget, rfl | ⟨hrange, rfl⟩⟩ := (h.again_servers hm).some_right hs'
    · exact hs.ranged.servers id s' hget
    · exact hrange.reread.reopened
  · intro id w' hw'
    obtain ⟨w, hget, rfl | ⟨hrange, rfl⟩⟩ := (h.again_workspaces hm).some_right hw'
    · exact hs.ranged.workspaces id w' hget
    · exact hrange.reread
  · intro k hk
    cases hk

/-- **Records survive** if and only if those whose rows are their written forms have numbers that
read back as they are. -/
theorem workspaces_eq_iff (h : Reads store l) (hm : store.Mirrors m) :
    l.workspaces = m.workspaces ↔ ∀ id w, m.workspaces.get? id = some w →
      store.workspaces.get? id = some w.encode → w.reread = w := by
  constructor
  · intro hsame id w hw hrow
    obtain ⟨w', hw', hread⟩ := h.workspaces.some_left hrow
    rw [hsame, hw] at hw'
    cases hw'
    exact (Store.readRow_workspace.1 hread).2.symm
  · intro hsteady
    refine Table.Matches.eq_of_eq fun id => ?_
    rcases hm.workspaces id with ⟨hrow, hw⟩ | ⟨row, w, hrow, hw, hin⟩
    · exact .inl ⟨hw, h.workspaces.none_left hrow⟩
    · obtain ⟨w', hw', hread⟩ := h.workspaces.some_left hrow
      refine .inr ⟨w, w', hw, hw', ?_⟩
      rcases hin.read hread with hsame | ⟨rfl, -, -, rfl⟩
      · exact hsame
      · exact hsteady id w hw hrow

end Reads

/-! ## Loading -/

/-- Every number has the property that stands in a row in the written form of its value. -/
structure Written (store : Store κ) (m : Registry κ) (P : κ → Prop) : Prop where
  servers : ∀ id s, m.servers.get? id = some s → store.servers.get? id = some s.encode → s.Numbers P
  workspaces : ∀ id w, m.workspaces.get? id = some w →
    store.workspaces.get? id = some w.encode → w.Numbers P

variable {store : Store κ} {m : Registry κ} {issued : List (Reservation κ)}

theorem serverId_of_read (hm : store.Mirrors m) (b : Booked m issued) {id : String}
    {row : Document κ} {v : Server κ} (hrow : store.servers.get? id = some row)
    (hread : Store.readRow Server.decode row = .ok v) : v.serverId = id := by
  obtain ⟨s, hs, hin⟩ := hm.servers.some_left hrow
  have hsame : (reopened v).serverId = s.serverId := by
    rcases hin.read (by rw [hread]; rfl) with heq | ⟨-, -, -, heq⟩
    · rw [heq]
    · rw [heq, serverId_reopened, Server.serverId_reread]
  rw [← serverId_reopened, hsame, b.keyed id s hs]

theorem containerId_of_read (hm : store.Mirrors m) (b : Booked m issued) {id : String}
    {row : Document κ} {v : Workspace κ} (hrow : store.workspaces.get? id = some row)
    (hread : Store.readRow Workspace.decode row = .ok v) : v.containerId = id := by
  obtain ⟨w, hw, hin⟩ := hm.workspaces.some_left hrow
  rcases hin.read hread with rfl | ⟨-, -, -, rfl⟩
  · exact b.filed id _ hw
  · rw [Workspace.containerId_reread, b.filed id w hw]

/-- The registry that is made of the values that were read. -/
def loaded (servers : List (Server κ)) (workspaces : List (Workspace κ)) : Registry κ where
  servers := Table.ofList (servers.map fun s => (s.serverId, reopened s))
  workspaces := Table.ofList (workspaces.map fun w => (w.containerId, w))
  pending := []
  nextReservation := 1

theorem load_eq_ok {store : Store κ} {c : Change κ (List UsageCorrection)} :
    load store = .ok c ↔ ∃ servers, store.listServers = .ok servers ∧
      ∃ workspaces, store.listWorkspaces = .ok workspaces ∧
      ∃ corrections, (loaded servers workspaces).reconcile.result = .ok corrections ∧
        c = (loaded servers workspaces).reconcile.map fun _ => corrections := by
  simp only [load, bind_eq_ok, mapError_eq_ok, pure_eq_ok]
  rfl

/-- Loading reads the rows and reconciles, if every row is read as a value of its id. -/
theorem reads_of_named {store : Store κ}
    (servers : ∀ id row v, store.servers.get? id = some row →
      Store.readRow Server.decode row = .ok v → v.serverId = id)
    (workspaces : ∀ id row v, store.workspaces.get? id = some row →
      Store.readRow Workspace.decode row = .ok v → v.containerId = id)
    {c : Change κ (List UsageCorrection)} (h : load store = .ok c) :
    ∃ l, Reads store l ∧ c.registry = l.reconcile.registry ∧ c.writes = l.reconcile.writes := by
  obtain ⟨ss, hservers, ws, hworkspaces, _, -, rfl⟩ := load_eq_ok.1 h
  refine ⟨loaded ss ws, ⟨?_, ?_, rfl, rfl⟩, rfl, rfl⟩
  · exact Table.matches_ofList hservers servers reopened
  · have hfiled := Table.matches_ofList hworkspaces workspaces fun w => w
    refine hfiled.imp ?_
    intro _ row w _ _ hread
    obtain ⟨v, hv, rfl⟩ := map_eq_ok.1 hread
    exact hv

theorem reads_of_load (hm : store.Mirrors m) (b : Booked m issued)
    {c : Change κ (List UsageCorrection)} (h : load store = .ok c) :
    ∃ l, Reads store l ∧ c.registry = l.reconcile.registry ∧ c.writes = l.reconcile.writes :=
  reads_of_named (fun _ _ _ => serverId_of_read hm b) (fun _ _ _ => containerId_of_read hm b) h

/-- Loading succeeds where every row can be read. -/
theorem exists_load {store : Store κ} :
    (∃ c, load store = .ok c) ↔
      (∀ row ∈ store.servers.values, ∃ s, Store.readRow Server.decode row = .ok s) ∧
      ∀ row ∈ store.workspaces.values, ∃ w, Store.readRow Workspace.decode row = .ok w := by
  rw [← exists_mapM_eq_ok, ← exists_mapM_eq_ok]
  constructor
  · rintro ⟨c, h⟩
    obtain ⟨servers, hservers, workspaces, hworkspaces, -⟩ := load_eq_ok.1 h
    exact ⟨⟨servers, hservers⟩, workspaces, hworkspaces⟩
  · rintro ⟨⟨servers, hservers⟩, workspaces, hworkspaces⟩
    exact ⟨_, load_eq_ok.2 ⟨servers, hservers, workspaces, hworkspaces, _, rfl, rfl⟩⟩

/-- **When a store opens.** It does if and only if the numbers that stand in it as they were written
can be read; what was read before can be read again. -/
theorem exists_load_iff (hm : store.Mirrors m) (hs : Sound m issued) :
    (∃ c, load store = .ok c) ↔ Written store m Quantity.Readable := by
  rw [exists_load]
  constructor
  · rintro ⟨hservers, hworkspaces⟩
    constructor
    · intro id s _ hrow
      obtain ⟨v, hv⟩ := hservers _ (Table.mem_values_iff.2 ⟨id, hrow⟩)
      exact (Store.readRow_server.1 hv).1.2
    · intro id w _ hrow
      obtain ⟨v, hv⟩ := hworkspaces _ (Table.mem_values_iff.2 ⟨id, hrow⟩)
      exact (Store.readRow_workspace.1 hv).1.2
  · intro hwritten
    -- a row is either the written form of its value, or was read once and can be read again
    constructor
    · intro row hmem
      obtain ⟨id, hrow⟩ := Table.mem_values_iff.1 hmem
      obtain ⟨s, hget, rfl | hread⟩ := hm.servers.some_left hrow
      · exact ⟨s.reread, Store.readRow_server.2
          ⟨⟨hs.ranged.servers id s hget, hwritten.servers id s hget hrow⟩, rfl⟩⟩
      · obtain ⟨v, hv, -⟩ := map_eq_ok.1 hread
        exact ⟨v, hv⟩
    · intro row hmem
      obtain ⟨id, hrow⟩ := Table.mem_values_iff.1 hmem
      obtain ⟨w, hget, rfl | hread⟩ := hm.workspaces.some_left hrow
      · exact ⟨w.reread, Store.readRow_workspace.2
          ⟨⟨hs.ranged.workspaces id w hget, hwritten.workspaces id w hget hrow⟩, rfl⟩⟩
      · exact ⟨w, hread⟩

end Registry
end WorkspaceFleet
