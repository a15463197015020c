import WorkspaceFleet.Proofs.Deeds
import WorkspaceFleet.Proofs.Run

/-!
# WorkspaceFleet.Proofs.Chronicle

Fleets over time, with what happened to them.

A `Chronicle` leads from nothing through deeds, deaths and restarts to a `Phase`, and lists the deeds
and restarts in their order. A check of a server is made from what was seen of it: others may have
changed its record since, but no check of it and no restart came in between (`Server.Seen`).

`Chronicle.law` is the induction over all this, made once: a law about values that stand under ids
holds at the end of every chronicle if it is `Lawful`, which says what one deed and one restart
have to keep.
-/

namespace WorkspaceFleet

variable {κ ν : Type}

/-- A server as it was found at some time after the last thing that happened to it, where `r` is the
registry now. -/
inductive Server.Seen (id : String) (seen : Server κ) :
    Registry κ → List (Happening κ) → Prop where
  | now {r : Registry κ} {log : List (Happening κ)} (found : r.servers.get? id = some seen) :
      Seen id seen r log
  | before {r found : Registry κ} {log : List (Happening κ)} {deed : Deed κ}
      (earlier : Seen id seen found log) (quiet : (Happening.did found deed).onServer id = none) :
      Seen id seen r (log ++ [.did found deed])

/-- What a deed relies on is still so. -/
def Deed.Current (r : Registry κ) (log : List (Happening κ)) : Deed κ → Prop
  | .check _ _ id seen _ => Server.Seen id seen r log
  | _ => True

/-! ## Chronicles -/

variable [Quantity κ]

/-- The phases that are reached from nothing, with what happened on the way. A process may halt
between two deeds, or die after some of the writes of one; the first write makes it done. It may
also die while it opens its store. -/
inductive Chronicle (rules : Rules κ) : Phase κ → List (Happening κ) → Prop where
  | inMemory : Chronicle rules (.running .inMemory []) []
  | created : Chronicle rules (.stopped .empty) []
  | opened {store : Store κ} {ledger : Ledger κ} {log : List (Happening κ)}
      (before : Chronicle rules (.stopped store) log) (opens : Ledger.ofStore store = .ok ledger) :
      Chronicle rules (.running ledger []) (log ++ [.restarted])
  | performed {ledger : Ledger κ} {issued : List (Reservation κ)} {log : List (Happening κ)}
      {deed : Deed κ} (before : Chronicle rules (.running ledger issued) log)
      (permitted : deed.Permitted rules ledger.registry issued)
      (current : deed.Current ledger.registry log) :
      Chronicle rules (.running (ledger.perform (deed.call.change ·)).2
          (issued ++ (ledger.perform (deed.call.change ·)).1))
        (log ++ [.did ledger.registry deed])
  | halted {ledger : Ledger κ} {store : Store κ} {issued : List (Reservation κ)}
      {log : List (Happening κ)} (before : Chronicle rules (.running ledger issued) log)
      (stored : ledger.store = some store) : Chronicle rules (.stopped store) log
  | died {ledger : Ledger κ} {store : Store κ} {issued : List (Reservation κ)}
      {log : List (Happening κ)} {deed : Deed κ}
      (before : Chronicle rules (.running ledger issued) log)
      (stored : ledger.store = some store)
      (permitted : deed.Permitted rules ledger.registry issued)
      (current : deed.Current ledger.registry log) (k : Nat) :
      Chronicle rules (.stopped (store.leftBy deed.call ledger.registry (k + 1)))
        (log ++ [.did ledger.registry deed])
  | diedOpening {store : Store κ} {c : Change κ (List UsageCorrection)}
      {log : List (Happening κ)} (before : Chronicle rules (.stopped store) log)
      (loads : Registry.load store = .ok c) (k : Nat) :
      Chronicle rules (.stopped (store.applyAll (c.writes.take k))) log

variable {rules : Rules κ} {p : Phase κ} {log : List (Happening κ)}

/-- The phase of a chronicle is reached. -/
theorem Chronicle.reached (h : Chronicle rules p log) : Reached rules.ids p := by
  induction h with
  | inMemory => exact .inMemory
  | created => exact .created
  | opened before opens ih => exact .opened ih opens
  | performed before permitted current ih => exact .performed ih permitted.call_permitted
  | @halted ledger store issued log before stored ih =>
    exact .died ih stored (show Registry.Call.reconcile.Permitted issued _ from trivial) 0
  | died before stored permitted current k ih =>
    exact .died ih stored permitted.call_permitted (k + 1)
  | diedOpening before loads k ih => exact .diedOpening ih loads k

theorem Chronicle.ledger_sound {ledger : Ledger κ} {issued : List (Reservation κ)}
    (h : Chronicle rules (.running ledger issued) log) : ledger.Sound issued :=
  h.reached.ledger_sound

/-- A deed that gives out no hold. -/
theorem Chronicle.made {ledger ledger' : Ledger κ} {issued : List (Reservation κ)} {deed : Deed κ}
    (before : Chronicle rules (.running ledger issued) log)
    (permitted : deed.Permitted rules ledger.registry issued)
    (current : deed.Current ledger.registry log)
    (done : ledger' = (ledger.perform (deed.call.change ·)).2)
    (noHold : (deed.call.change ledger.registry).result = []) :
    Chronicle rules (.running ledger' issued) (log ++ [.did ledger.registry deed]) := by
  have h := before.performed permitted current
  rw [← done, show (ledger.perform (deed.call.change ·)).1 = [] from noHold, List.append_nil] at h
  exact h

/-- What the last deed of a chronicle found and left. -/
theorem Chronicle.last_deed {ledger : Ledger κ} {issued : List (Reservation κ)}
    {found : Registry κ} {deed : Deed κ}
    (h : Chronicle rules (.running ledger issued) (log ++ [.did found deed])) :
    ∃ (ledger₀ : Ledger κ) (issued₀ : List (Reservation κ)),
      Chronicle rules (.running ledger₀ issued₀) log ∧ ledger₀.registry = found ∧
      deed.Permitted rules found issued₀ ∧
      ledger.registry = (deed.call.change found).registry := by
  generalize hlog : log ++ [Happening.did found deed] = whole at h
  cases h with
  | inMemory => simp at hlog
  | opened before opens => cases List.append_inj_right' hlog rfl
  | performed before permitted current =>
    obtain ⟨rfl, hlast⟩ := List.append_inj' hlog rfl
    cases hlast
    exact ⟨_, _, before, rfl, permitted, rfl⟩

/-- The ledger over the rows of another, after a restart. -/
def Ledger.reopened (ledger : Ledger κ) : Ledger κ :=
  (ledger.store.bind fun store => (Ledger.ofStore store).toOption).getD .inMemory

/-- A process that halts and starts again. -/
theorem Chronicle.again {ledger : Ledger κ} {issued : List (Reservation κ)}
    (before : Chronicle rules (.running ledger issued) log)
    (opens : (ledger.store.bind fun store => (Ledger.ofStore store).toOption).isSome = true) :
    Chronicle rules (.running ledger.reopened []) (log ++ [.restarted]) := by
  obtain ⟨ledger', hledger⟩ := Option.isSome_iff_exists.1 opens
  obtain ⟨store, hstore, hopens⟩ := Option.bind_eq_some_iff.1 hledger
  rw [Ledger.reopened, hledger, Option.getD_some]
  exact (before.halted hstore).opened (eq_ok_of_toOption hopens)

/-! ## Laws -/

/-- Values that stand under ids in a registry and outlive a restart, which changes each by
`again`. -/
structure Lasting (view : Registry κ → String → Option ν) (again : ν → ν) : Prop where
  empty : ∀ id, view .empty id = none
  rest : ∀ r id, view (Registry.rest r) id = view r id
  between : ∀ {r r' m : Registry κ}, Registry.Between r r' m → ∀ id,
    view m id = view r id ∨ view m id = view r' id
  reconciled : ∀ {r : Registry κ}, r.servers.Keyed Server.serverId → ∀ id,
    view r.reconcile.registry id = view r id
  read : ∀ {store : Store κ} {l m : Registry κ}, Registry.Reads store l → store.Mirrors m →
    ∀ id, view l id = (view m id).map again
  again_again : ∀ t, again (again t) = again t

/-- What a law about such values has to keep: through a deed and through a restart. A deed of more
than one write happens to none of the values. -/
structure Lawful (rules : Rules κ) (view : Registry κ → String → Option ν) (again : ν → ν)
    (Law : List (Happening κ) → String → ν → Prop) : Prop where
  deed : ∀ {ledger : Ledger κ} {issued : List (Reservation κ)} {log : List (Happening κ)}
    {deed : Deed κ}, Chronicle rules (.running ledger issued) log →
    deed.Permitted rules ledger.registry issued → deed.Current ledger.registry log →
    (∀ id t, view ledger.registry id = some t → Law log id t) →
    ∀ id t, view (deed.call.change ledger.registry).registry id = some t →
      Law (log ++ [.did ledger.registry deed]) id t
  restart : ∀ {log : List (Happening κ)} {id : String} {t : ν}, Law log id t →
    Law (log ++ [.restarted]) id (again t)
  long : ∀ {r : Registry κ} {deed : Deed κ} {log : List (Happening κ)} {id : String} {t : ν},
    1 < (deed.call.change r).writes.length → Law log id t → Law (log ++ [.did r deed]) id t

/-- The law holds; of rows it says that it will hold after a restart. -/
def Phase.Obeys (view : Registry κ → String → Option ν) (again : ν → ν)
    (Law : List (Happening κ) → String → ν → Prop) (log : List (Happening κ)) : Phase κ → Prop
  | .running ledger _ => ∀ id t, view ledger.registry id = some t → Law log id t
  | .stopped store => ∃ m : Registry κ, m.Sound [] ∧ store.Mirrors m ∧
      ∀ id t, view m id = some t → Law (log ++ [.restarted]) id (again t)

section Law

variable {view : Registry κ → String → Option ν} {again : ν → ν}
  {Law : List (Happening κ) → String → ν → Prop}

theorem Lawful.died (lasting : Lasting view again) (lawful : Lawful rules view again Law)
    {ledger : Ledger κ} {store : Store κ} {issued : List (Reservation κ)} {deed : Deed κ}
    (before : Chronicle rules (.running ledger issued) log) (stored : ledger.store = some store)
    (permitted : deed.Permitted rules ledger.registry issued)
    (current : deed.Current ledger.registry log) (k : Nat)
    (obeys : ∀ id t, view ledger.registry id = some t → Law log id t) :
    (Phase.stopped (store.leftBy deed.call ledger.registry (k + 1))).Obeys view again Law
      (log ++ [.did ledger.registry deed]) := by
  have sound := before.ledger_sound
  have e := Registry.change_effect (r := ledger.registry) permitted.call_permitted
  have cut := e.cut sound.registry (k + 1)
  refine ⟨_, cut.sound, Store.Mirrors.rest_iff.2 ((sound.rows store stored).applyAll _), ?_⟩
  intro id t ht
  have after := lawful.deed before permitted current obeys
  by_cases short : (deed.call.change ledger.registry).writes.length ≤ 1
  · rw [List.take_of_length_le (by omega), e.rest_absorbAll sound.registry.booked,
      lasting.rest] at ht
    exact lawful.restart (after id t ht)
  · rcases lasting.between cut id with hfirst | hsecond
    · exact lawful.restart (lawful.long (by omega) (obeys id t (hfirst ▸ ht)))
    · exact lawful.restart (after id t (hsecond ▸ ht))

/-- **A lawful law holds at the end of every chronicle.** -/
theorem Chronicle.law (lasting : Lasting view again) (lawful : Lawful rules view again Law)
    (h : Chronicle rules p log) : p.Obeys view again Law log := by
  induction h with
  | inMemory =>
    intro id t ht
    exact absurd ht (by rw [Ledger.inMemory, lasting.empty]; nofun)
  | created =>
    refine ⟨.empty, .empty, .empty, fun id t ht => ?_⟩
    rw [lasting.empty] at ht
    cases ht
  | opened before opens ih =>
    obtain ⟨m, sound, mirrors, hm⟩ := ih
    obtain ⟨c, hload, rfl⟩ := Ledger.ofStore_eq_ok.1 opens
    obtain ⟨l, reads, hregistry, -⟩ := Registry.reads_of_load mirrors sound.booked hload
    intro id t ht
    rw [hregistry, lasting.reconciled (reads.booked mirrors sound.booked).keyed,
      lasting.read reads mirrors] at ht
    obtain ⟨t, hget, rfl⟩ := Option.map_eq_some_iff.1 ht
    exact hm id t hget
  | performed before permitted current ih => exact lawful.deed before permitted current ih
  | @halted ledger store issued log before stored ih =>
    have sound := before.ledger_sound
    refine ⟨ledger.registry.rest, sound.registry.rest,
      Store.Mirrors.rest_iff.2 (sound.rows store stored), fun id t ht => ?_⟩
    rw [lasting.rest] at ht
    exact lawful.restart (ih id t ht)
  | died before stored permitted current k ih =>
    exact lawful.died lasting before stored permitted current k ih
  | diedOpening before loads k ih =>
    obtain ⟨m, sound, mirrors, hm⟩ := ih
    obtain ⟨l, reads, -, hwrites⟩ := Registry.reads_of_load mirrors sound.booked loads
    have hl := reads.sound mirrors sound
    have e : Registry.Effect l [] (fun _ => True) _ _ [] := .reconciled
    have cut := e.cut hl k
    rw [hwrites]
    refine ⟨_, cut.sound, Store.Mirrors.rest_iff.2 (reads.mirrors.applyAll _), ?_⟩
    -- what was read has been changed by a restart already, and reconciling it changes no value
    intro id t ht
    have hread : view l id = some t := by
      rcases lasting.between cut id with hfirst | hsecond
      · rw [← hfirst, ht]
      · rw [← lasting.reconciled hl.booked.keyed, ← hsecond, ht]
    rw [lasting.read reads mirrors] at hread
    obtain ⟨t, hget, rfl⟩ := Option.map_eq_some_iff.1 hread
    rw [lasting.again_again]
    exact hm id t hget

end Law
end WorkspaceFleet
