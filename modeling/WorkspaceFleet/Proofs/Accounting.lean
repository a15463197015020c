import WorkspaceFleet.Proofs.Run

/-!
# WorkspaceFleet.Proofs.Accounting

The counters of every registry that is ever reached.

`Reached.never_overbooked`: no counter passes what its server declares or falls below the load,
so no addition of counters or of loads leaves its word. `Reached.exact_accounting`: as long as
daemons hand out no container id that is recorded, every counter is the load, and nothing that is
taken off a counter is more than it counts. The store takes every write (`Reached`).
-/

namespace WorkspaceFleet

variable {κ : Type}

namespace Registry

variable {r r' : Registry κ} {issued out : List (Reservation κ)} {ws : List (Write κ)}

/-- Some of the allocations on a server, in any order, are no more than the load. -/
theorem sum_needs_le {part : List (Allocation κ)} {id : String}
    (h : part.Subperm (r.allocationsOn id)) (q : Resource) :
    (part.map (·.needs q)).sum ≤ r.loadOn id q := by
  obtain ⟨l, hperm, hsub⟩ := h
  obtain ⟨others, hall⟩ := hsub.exists_perm_append
  rw [loadOn, (hall.map (·.needs q)).sum_eq, List.map_append, List.sum_append,
    (hperm.map (·.needs q)).sum_eq]
  exact Nat.le_add_right _ _

/-- Every counter is the load. -/
def Exact (r : Registry κ) : Prop := ∀ id q, countedOn r.servers id q = r.loadOn id q

namespace Exact

theorem empty : Exact (.empty : Registry κ) := fun _ _ => rfl

theorem used_eq (h : Exact r) {id : String} {s : Server κ} (found : r.servers.get? id = some s)
    (q : Resource) : s.used q = r.loadOn id q := by
  rw [← countedOn_of_get? found, h]

theorem loadOn_none (h : Exact r) {id : String} (missing : r.servers.get? id = none)
    (q : Resource) : r.loadOn id q = 0 := by
  rw [← h, countedOn_of_none missing]

/-- Whatever names a server names one that is registered. -/
theorem exists_server (h : Exact r) {id : String} (loaded : 0 < r.loadOn id .slots) :
    ∃ s, r.servers.get? id = some s := by
  cases hs : r.servers.get? id with
  | some s => exact ⟨s, rfl⟩
  | none =>
    have := h.loadOn_none hs .slots
    omega

/-- Another server in the place of one, and no other load on the others. -/
theorem replace (h : Exact r) {id : String} {s' : Server κ}
    (servers : r'.servers = r.servers.insert id s') (here : ∀ q, s'.used q = r'.loadOn id q)
    (elsewhere : ∀ j q, id ≠ j → r'.loadOn j q = r.loadOn j q) : Exact r' := by
  intro j q
  rw [servers, countedOn_insert]
  split
  · next hj => exact hj ▸ here q
  · next hj => rw [elsewhere j q hj, h]

/-- The same servers, and the same load on each. -/
theorem same (h : Exact r) (servers : r'.servers = r.servers)
    (loads : ∀ j q, r'.loadOn j q = r.loadOn j q) : Exact r' := by
  intro j q
  rw [servers, loads, h]

end Exact

/-- A hold is part of the load on its server. -/
theorem Booked.needs_le (b : Booked r issued) {hold : Reservation κ} (pending : hold ∈ r.pending)
    (q : Resource) : hold.allocation.needs q ≤ r.loadOn hold.serverId q := by
  rw [loadOn_eq, heldOn_filter b.pending_nodup pending, Reservation.loadOn, if_pos rfl]
  omega

/-- A record is part of the load on its server. -/
theorem needs_le_loadOn {c : String} {w : Workspace κ} (found : r.workspaces.get? c = some w)
    (q : Resource) : w.allocation.needs q ≤ r.loadOn w.serverId q := by
  rw [loadOn_eq, recordedOn_erase found, Workspace.loadOn, if_pos rfl]
  omega

variable [Quantity κ]

/-- **A call keeps the counters exact**, if a commit names a container that is not recorded. -/
theorem Exact.effect (h : Exact r) (b : Booked r issued) (c : Counted r)
    (e : Effect r issued (Unrecorded r) r' ws out) : Exact r' := by
  cases e with
  | nothing => exact h
  | added free range =>
    refine h.replace rfl (fun q => ?_) fun _ _ _ => rfl
    rw [Server.used_ofConfig]
    exact (h.loadOn_none free q).symm
  | @withdrawn id s found idle =>
    intro j q
    rw [countedOn_erase]
    split
    · next hj =>
      subst hj
      exact (c.loadOn_idle found idle q).symm
    · exact h j q
  | checked found range =>
    refine h.replace rfl (fun q => ?_) fun _ _ _ => rfl
    rw [used_checked]
    exact h.used_eq found q
  | @held id s a found room range =>
    refine h.replace rfl (fun q => ?_) fun j q hj => ?_
    · rw [loadOn_hold, Server.used_apply, Reservation.loadOn, if_pos rfl, h.used_eq found]
    · rw [loadOn_hold, Reservation.loadOn, if_neg hj, Nat.add_zero]
  | @released hold s pending found =>
    refine h.replace rfl (fun q => ?_) fun j q hj => ?_
    · have hload := loadOn_withoutHold b pending (r.servers.insert hold.serverId
        (s.retract hold.allocation)) hold.serverId q
      rw [Reservation.loadOn, if_pos rfl] at hload
      rw [Server.used_retract, h.used_eq found]
      omega
    · rw [← loadOn_withoutHold b pending _ j q, Reservation.loadOn, if_neg hj, Nat.add_zero]
  | @forgotten hold pending missing =>
    -- the hold would be load on a server that counts none
    obtain ⟨s, hs⟩ := h.exists_server (b.needs_le pending .slots)
    rw [missing] at hs
    cases hs
  | @committed hold held c now given pending same named range =>
    obtain rfl := b.held_eq given pending same
    refine h.same rfl fun j q => ?_
    rw [loadOn_commit b pending, Table.erase_of_get?_none named, loadOn_eq]
  | updated found same range => exact h.same rfl (loadOn_update found same)
  | @removed c w s found server =>
    refine h.replace rfl (fun q => ?_) fun j q hj => ?_
    · have hload := loadOn_erase found (r.servers.insert w.serverId (s.retract w.allocation))
        w.serverId q
      rw [Workspace.loadOn, if_pos rfl] at hload
      rw [Server.used_retract, h.used_eq server]
      omega
    · rw [← loadOn_erase found _ j q, Workspace.loadOn, if_neg hj, Nat.add_zero]
  | @strayed c w found missing =>
    obtain ⟨s, hs⟩ := h.exists_server (needs_le_loadOn found .slots)
    rw [missing] at hs
    cases hs
  | reconciled => exact c.countedOn_reconciled b

end Registry

variable [Quantity κ]

/-! ## Limits -/

/-- **No server is ever overbooked.** Whatever was called, in whatever order, every counter is
between the load and what the server declares. Taking an allocation that fits leaves no word, and
neither does a sum over some of the allocations on a server, taken in any order. -/
theorem Reached.never_overbooked {ids : Registry κ → String → Prop} {ledger : Ledger κ}
    {issued : List (Reservation κ)} (reached : Reached ids (.running ledger issued)) :
    (∀ id s, ledger.registry.servers.get? id = some s →
      s.workspaceCount ≤ s.maxWorkspaces ∧ s.memoryUsedMb ≤ s.totalMemoryMb ∧
      s.diskUsedGb ≤ s.totalDiskGb ∧ ∀ q, ledger.registry.loadOn id q ≤ s.used q) ∧
    (∀ id s a, ledger.registry.servers.get? id = some s → s.fits a = true →
      ∀ q, (s.apply a).used q < q.limit) ∧
    ∀ (id : String) (part : List (Allocation κ)),
      part.Subperm (ledger.registry.allocationsOn id) →
      ∀ q : Resource, (part.foldl Usage.add .none).total q < q.limit := by
  have hsound := reached.ledger_sound.registry
  refine ⟨?_, ?_, ?_⟩
  · intro id s found
    have hle := hsound.counted.used_le found
    exact ⟨hle .slots, hle .memory, hle .disk, hsound.counted.loadOn_le found⟩
  · intro id s a found room q
    have hrange := hsound.ranged.servers id s found
    exact (hrange.apply room (hsound.counted.used_le found)).used q
  · intro id part hpart q
    rw [Registry.total_foldl_add, Usage.total_none, Nat.zero_add]
    exact Nat.lt_of_le_of_lt (Registry.sum_needs_le hpart q)
      (hsound.ranged.loadOn_lt hsound.counted id q)

theorem never_overbooked_unstored : ∃ s, SampleRun.unstored.1.registry.servers.get? "a" = some s ∧
    s.workspaceCount = 2 ∧ s.workspaceCount ≤ s.maxWorkspaces ∧
    SampleRun.unstored.1.registry.loadOn "a" .memory ≤ s.memoryUsedMb := by
  have hcount : (SampleRun.unstored.1.registry.servers.get? "a").map (·.workspaceCount) =
      some 2 := by decide +kernel
  obtain ⟨s, found, hs⟩ := Option.map_eq_some_iff.1 hcount
  obtain ⟨hslots, -, -, hload⟩ :=
    SampleRun.unstored_reached.never_overbooked.1 "a" s found
  exact ⟨s, found, hs, hslots, hload .memory⟩

/-! ## Exact accounts -/

/-- Running, every counter is the load. -/
def Phase.Exact : Phase κ → Prop
  | .running ledger _ => ledger.registry.Exact
  | .stopped _ => True

theorem Reached.exact {p : Phase κ} (h : Reached Registry.Unrecorded p) : p.Exact := by
  induction h with
  | inMemory => exact Registry.Exact.empty
  | created => trivial
  | opened before opens ih =>
    obtain ⟨l, -, hl, hregistry, -⟩ := Store.Sound.opened before.sound opens
    show Registry.Exact _
    rw [hregistry]
    exact hl.counted.countedOn_reconciled hl.booked
  | @performed ledger issued call before permitted ih =>
    have hsound := before.ledger_sound.registry
    exact Registry.Exact.effect ih hsound.booked hsound.counted
      (Registry.change_effect permitted)
  | died before stored permitted k ih => trivial
  | diedOpening before loads k ih => trivial

/-- Where no more is taken than is counted, only the cores can fall short. -/
theorem Server.underflow?_eq_cpu {s : Server κ} {a : Allocation κ} {counter : Counter}
    (enough : ∀ q, a.needs q ≤ s.used q) (h : s.underflow? a = some counter) : counter = .cpu := by
  have hslots : 1 ≤ s.workspaceCount := enough .slots
  have hmemory : a.memoryMb ≤ s.memoryUsedMb := enough .memory
  have hdisk : a.diskGb ≤ s.diskUsedGb := enough .disk
  rw [underflow?, if_neg (by omega), if_neg (Nat.not_lt.2 hmemory),
    if_neg (Nat.not_lt.2 hdisk)] at h
  split at h
  · cases h
    rfl
  · cases h

/-- What a release can fail for. -/
theorem Registry.release_eq_error {r : Registry κ} {hold : Reservation κ} {e : RegistryError}
    (h : (r.release hold).result = .error e) : ∃ held ∈ r.pending, held.id = hold.id ∧
      (r.servers.get? held.serverId = none ∧ e = .serverNotFound held.serverId ∨
        ∃ s counter, r.servers.get? held.serverId = some s ∧
          s.underflow? held.allocation = some counter ∧
          e = .counterUnderflow held.serverId counter) := by
  cases hhold : r.hold? hold.id with
  | none =>
    simp only [release, hhold] at h
    cases h
  | some held =>
    obtain ⟨hmem, hid⟩ := mem_pending_of_hold? hhold
    refine ⟨held, hmem, hid, ?_⟩
    cases hs : r.servers.get? held.serverId with
    | none =>
      simp only [release, hhold, hs] at h
      cases h
      exact .inl ⟨rfl, rfl⟩
    | some s =>
      simp only [release, hhold, hs] at h
      cases hunder : s.underflow? held.allocation with
      | none =>
        rw [hunder] at h
        cases h
      | some counter =>
        rw [hunder] at h
        cases h
        exact .inr ⟨s, counter, rfl, hunder, rfl⟩

/-- **Exact accounts.** As long as daemons hand out no container id that is recorded, every counter
is the load. Every pending hold and every record is then on a registered server, whose counters
have it in them; a release only ever fails for the cores. -/
theorem Reached.exact_accounting {ledger : Ledger κ} {issued : List (Reservation κ)}
    (reached : Reached Registry.Unrecorded (.running ledger issued)) :
    (∀ id s, ledger.registry.servers.get? id = some s →
      ∀ q, s.used q = ledger.registry.loadOn id q) ∧
    (∀ hold ∈ ledger.registry.pending, ∃ s,
      ledger.registry.servers.get? hold.serverId = some s ∧
      ∀ q, hold.allocation.needs q ≤ s.used q) ∧
    (∀ hold ∈ issued, ∀ e, (ledger.registry.release hold).result = .error e →
      e = .counterUnderflow hold.serverId .cpu) ∧
    ∀ c w, ledger.registry.workspaces.get? c = some w → ∃ s,
      ledger.registry.servers.get? w.serverId = some s ∧
      ∀ q, w.allocation.needs q ≤ s.used q := by
  have hexact : ledger.registry.Exact := reached.exact
  have hbooked := reached.ledger_sound.registry.booked
  have hpending : ∀ hold ∈ ledger.registry.pending, ∃ s,
      ledger.registry.servers.get? hold.serverId = some s ∧
      ∀ q, hold.allocation.needs q ≤ s.used q := by
    intro hold hmem
    obtain ⟨s, hs⟩ := hexact.exists_server (hbooked.needs_le hmem .slots)
    refine ⟨s, hs, fun q => ?_⟩
    rw [hexact.used_eq hs]
    exact hbooked.needs_le hmem q
  refine ⟨fun id s found => hexact.used_eq found, hpending, ?_, ?_⟩
  · intro hold given e herror
    obtain ⟨held, hmem, hid, hcause⟩ := Registry.release_eq_error herror
    obtain rfl := hbooked.held_eq given hmem hid
    obtain ⟨s, hs, enough⟩ := hpending held hmem
    rcases hcause with ⟨missing, -⟩ | ⟨s', counter, hs', hunder, rfl⟩
    · rw [hs] at missing
      cases missing
    · rw [hs] at hs'
      cases hs'
      rw [Server.underflow?_eq_cpu enough hunder]
  · intro c w found
    have hneeds := Registry.needs_le_loadOn found
    obtain ⟨s, hs⟩ := hexact.exists_server (hneeds .slots)
    refine ⟨s, hs, fun q => ?_⟩
    rw [hexact.used_eq hs]
    exact hneeds q

theorem exact_accounting_unstored :
    ∃ s, SampleRun.unstored.1.registry.servers.get? "a" = some s ∧
      s.memoryUsedMb = 80 ∧ SampleRun.unstored.1.registry.loadOn "a" .memory = 80 := by
  have hmemory : (SampleRun.unstored.1.registry.servers.get? "a").map (·.memoryUsedMb) =
      some 80 := by decide +kernel
  obtain ⟨s, found, hs⟩ := Option.map_eq_some_iff.1 hmemory
  have hload := SampleRun.unstored_reached.exact_accounting.1 "a" s found .memory
  exact ⟨s, found, hs, hload.symm.trans hs⟩

end WorkspaceFleet
