import WorkspaceFleet.Proofs.Run

/-!
# WorkspaceFleet.Proofs.Recovery

What a restart makes of the store that a dying process leaves.

`Reached.recovers`: wherever a permitted call was cut, the rows stand for a registry between the
one before and the one after it. The store opens if the numbers in it can be read, and then
nothing is held, the counters are those of the records, and every record is back, with its
numbers as reading gives them. The records are the same exactly where the written numbers read
back as they are; `records_altered` has a number that does not.
-/

namespace WorkspaceFleet

variable {κ : Type} [Quantity κ]

/-- A registry as a restart gives it from rows that stand for another. -/
structure Registry.Recovered (store : Store κ) (m r : Registry κ) : Prop where
  pending : r.pending = []
  counters : ∀ id s, r.servers.get? id = some s → ∀ q, s.used q = recordedOn r.workspaces id q
  servers : m.servers.Matches (fun s s' => ∀ q, s'.declared q = s.declared q) r.servers
  records : m.workspaces.Matches (fun w w' => w' = w ∨ w' = w.reread) r.workspaces
  same_iff : r.workspaces = m.workspaces ↔ ∀ id w, m.workspaces.get? id = some w →
    store.workspaces.get? id = some w.encode → w.reread = w

namespace Registry

variable {store : Store κ} {l m : Registry κ} {issued : List (Reservation κ)}

/-- Reading rows and reconciling recovers what they stand for. -/
theorem Reads.recovered (h : Reads store l) (hm : store.Mirrors m) (hs : Sound m issued) :
    Recovered store m l.reconcile.registry := by
  have hl := h.sound hm hs
  refine ⟨h.pending, ?_, ?_, ?_, h.workspaces_eq_iff hm⟩
  · intro id s found q
    have hcounted := hl.counted.countedOn_reconciled hl.booked id q
    rw [countedOn_of_get? found] at hcounted
    rw [hcounted, loadOn_eq, h.pending, heldOn_nil, Nat.add_zero]
    rfl
  · intro id
    rw [get?_reconcile hl.booked.keyed]
    rcases h.again_servers hm id with ⟨hnone, hnone'⟩ | ⟨s, s', hget, hget', hagain⟩
    · exact .inl ⟨hnone, by rw [hnone']; rfl⟩
    · refine .inr ⟨s, settled s' (l.usageOn id), hget, by rw [hget']; rfl, fun q => ?_⟩
      rw [declared_settled]
      rcases hagain with rfl | ⟨-, rfl⟩
      · rfl
      · rw [declared_reopened, Server.declared_reread]
  · refine (h.again_workspaces hm).imp ?_
    rintro _ w w' - - (hsame | ⟨-, hreread⟩)
    · exact .inl hsame
    · exact .inr hreread

end Registry

theorem exists_ofStore {store : Store κ} :
    (∃ ledger, Ledger.ofStore store = .ok ledger) ↔ ∃ c, Registry.load store = .ok c := by
  constructor
  · rintro ⟨ledger, h⟩
    obtain ⟨c, hload, -⟩ := Ledger.ofStore_eq_ok.1 h
    exact ⟨c, hload⟩
  · rintro ⟨c, hload⟩
    exact ⟨_, Ledger.ofStore_eq_ok.2 ⟨c, hload, rfl⟩⟩

/-- **Recovery.** A process may die after any number of the writes of a permitted call. What it
leaves stands for a registry `m` between the one before and the one after the call. It opens if and
only if the numbers that are written in it can be read, and opening recovers `m`. -/
theorem Reached.recovers {ids : Registry κ → String → Prop} {ledger : Ledger κ}
    {issued : List (Reservation κ)} (reached : Reached ids (.running ledger issued))
    {store : Store κ} (stored : ledger.store = some store) {call : Registry.Call κ}
    (permitted : call.Permitted issued (ids ledger.registry)) (k : Nat) :
    ∃ m : Registry κ,
      Registry.Between ledger.registry (call.change ledger.registry).registry m ∧
      ((∃ ledger', Ledger.ofStore (store.leftBy call ledger.registry k) = .ok ledger') ↔
        Registry.Written (store.leftBy call ledger.registry k) m Quantity.Readable) ∧
      ∀ ledger', Ledger.ofStore (store.leftBy call ledger.registry k) = .ok ledger' →
        Registry.Recovered (store.leftBy call ledger.registry k) m ledger'.registry := by
  obtain ⟨m, hbetween, hmirrors⟩ := reached.ledger_sound.left stored permitted k
  refine ⟨m, hbetween, ?_, ?_⟩
  · rw [exists_ofStore, Registry.exists_load_iff hmirrors hbetween.sound]
  · intro ledger' opens
    have hstore : (store.leftBy call ledger.registry k).Sound := ⟨m, hbetween.sound, hmirrors⟩
    obtain ⟨l, hreads, -, hregistry, -⟩ := hstore.opened opens
    rw [hregistry]
    exact hreads.recovered hmirrors hbetween.sound

namespace SampleRun

/-- After the sample calls over a new store. -/
def stored (κ : Type) [Quantity κ] : Ledger κ × List (Reservation κ) :=
  Ledger.after (⟨.empty, some .empty⟩, []) calls

theorem new_reached :
    Reached Registry.Unrecorded (.running (⟨.empty, some .empty⟩ : Ledger κ) []) :=
  .opened .created Ledger.ofStore_empty

theorem stored_reached :
    Reached Registry.Unrecorded (.running (stored Rat).1 (stored Rat).2) :=
  reached new_reached (by decide +kernel) (by decide +kernel)

end SampleRun

/-- A process that dies between the two writes by which a workspace is removed. -/
theorem recovers_half_removed : ∃ (store : Store Rat) (ledger' : Ledger Rat),
    (SampleRun.stored Rat).1.store = some store ∧
    Ledger.ofStore (store.leftBy (.removeWorkspace "c") (SampleRun.stored Rat).1.registry 1) =
      .ok ledger' ∧
    ledger'.registry.pending = [] ∧
    ∀ id s, ledger'.registry.servers.get? id = some s →
      ∀ q, s.used q = recordedOn ledger'.registry.workspaces id q := by
  obtain ⟨store, hstore⟩ : ∃ store, (SampleRun.stored Rat).1.store = some store := ⟨_, rfl⟩
  have permitted : (Registry.Call.removeWorkspace "c").Permitted (SampleRun.stored Rat).2
      (SampleRun.stored Rat).1.registry.Unrecorded := trivial
  obtain ⟨m, -, hopens, hrecovered⟩ := SampleRun.stored_reached.recovers hstore permitted 1
  have hnumbers : ∀ x : Rat, Quantity.Readable x := fun x => ⟨rfl, rfl⟩
  obtain ⟨ledger', opens⟩ := hopens.2
    ⟨fun _ s _ _ => ⟨hnumbers _, hnumbers _⟩, fun _ w _ _ => ⟨hnumbers _, hnumbers _⟩⟩
  have h := hrecovered ledger' opens
  exact ⟨store, ledger', hstore, opens, h.pending, h.counters⟩

/-! ## A number that is not recovered -/

namespace SampleRun

/-- A number of percent that reads back as its successor. -/
def percent : Float := 9.013069724515275e16

/-- The monitor records it. -/
def observe : Registry.Call Float := .updateWorkspace "c" fun w => { w with cpuPercent := percent }

/-- The bits of the percentage that is recorded. -/
def percentBits (t : Table (Workspace Float)) : Option UInt64 :=
  (t.get? "c").map (·.cpuPercent.toBits)

theorem stored_float_reached :
    Reached Registry.Unrecorded (.running (stored Float).1 (stored Float).2) :=
  reached new_reached (by decide +kernel) (by decide +kernel)

end SampleRun

/-- Every number of the servers and workspaces is finite. -/
def Registry.Finite (r : Registry κ) : Bool :=
  r.servers.values.all (fun s =>
    Quantity.isFinite s.totalCpuCores && Quantity.isFinite s.cpuUsed) &&
  r.workspaces.values.all (fun w =>
    Quantity.isFinite w.cpuPercent && Quantity.isFinite w.allocation.cpuCores)

/-- **A record altered by a restart.** In binary64, with finite numbers only, there is a run after
which a restart gives back neither the records before the last call nor those after it. -/
theorem records_altered : ∃ (ledger ledger' : Ledger Float) (issued : List (Reservation Float))
    (store : Store Float) (call : Registry.Call Float) (k : Nat),
    Reached Registry.Unrecorded (.running ledger issued) ∧ ledger.store = some store ∧
    call.Permitted issued ledger.registry.Unrecorded ∧
    ledger.registry.Finite = true ∧ (call.change ledger.registry).registry.Finite = true ∧
    Ledger.ofStore (store.leftBy call ledger.registry k) = .ok ledger' ∧
    ledger'.registry.workspaces ≠ ledger.registry.workspaces ∧
    ledger'.registry.workspaces ≠ (call.change ledger.registry).registry.workspaces := by
  obtain ⟨store, hstore⟩ : ∃ store, (SampleRun.stored Float).1.store = some store := ⟨_, rfl⟩
  have hread : (SampleRun.stored Float).1.store.bind (fun store =>
      (Ledger.ofStore (store.leftBy SampleRun.observe
        (SampleRun.stored Float).1.registry 1)).toOption.bind fun ledger' =>
          SampleRun.percentBits ledger'.registry.workspaces) = some 4860513566883216736 := by
    decide +kernel
  have hbefore : SampleRun.percentBits (SampleRun.stored Float).1.registry.workspaces =
      some 0 := by decide +kernel
  have hafter : SampleRun.percentBits
      (SampleRun.observe.change (SampleRun.stored Float).1.registry).registry.workspaces =
      some 4860513566883216735 := by decide +kernel
  rw [hstore, Option.bind_some] at hread
  obtain ⟨ledger', hopens, hbits⟩ := Option.bind_eq_some_iff.1 hread
  refine ⟨_, ledger', _, store, SampleRun.observe, 1, SampleRun.stored_float_reached, hstore,
    ?_, by decide +kernel, by decide +kernel, ?_, ?_, ?_⟩
  · intro w
    exact ⟨⟨rfl, rfl, rfl⟩, fun h =>
      ⟨h.memory, h.startedAt, h.checkedAt, h.allocation, h.failures⟩⟩
  · exact eq_ok_of_toOption hopens
  · intro hsame
    rw [hsame, hbefore] at hbits
    exact absurd hbits (by decide)
  · intro hsame
    rw [hsame, hafter] at hbits
    exact absurd hbits (by decide)

end WorkspaceFleet
