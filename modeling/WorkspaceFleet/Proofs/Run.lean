import WorkspaceFleet.Proofs.Reopen

/-!
# WorkspaceFleet.Proofs.Run

Registries over time: called in any order, cut off at any write, and opened again.

A `Phase` is a process at work on its ledger, or what a process left in its store. `Reached` holds
of every phase that permitted calls, deaths and restarts lead to, on a store that takes every write
until the process dies; `Reached.sound` says what all of these keep: running, the registry is sound
and its rows mirror it; stopped, the rows mirror some sound registry.
-/

namespace WorkspaceFleet

variable {κ : Type}

/-- The container ids that are not recorded. -/
def Registry.Unrecorded (r : Registry κ) (c : String) : Prop := r.workspaces.get? c = none

variable [Quantity κ]

/-- What a process leaves in its store that dies after so many of the writes of a call. -/
def Store.leftBy (store : Store κ) (call : Registry.Call κ) (r : Registry κ) (writes : Nat) :
    Store κ :=
  store.applyAll ((call.change r).writes.take writes)

/-- A process at work, with the holds that it has given out, or what a process left behind. -/
inductive Phase (κ : Type) where
  | running (ledger : Ledger κ) (issued : List (Reservation κ))
  | stopped (store : Store κ)

/-- The phases that are reached from nothing, where `ids` says which container ids a daemon may hand
out. A process may die after any number of the writes of a call, and of those of a restart. -/
inductive Reached (ids : Registry κ → String → Prop) : Phase κ → Prop where
  | inMemory : Reached ids (.running .inMemory [])
  | created : Reached ids (.stopped .empty)
  | opened {store : Store κ} {ledger : Ledger κ} (before : Reached ids (.stopped store))
      (opens : Ledger.ofStore store = .ok ledger) : Reached ids (.running ledger [])
  | performed {ledger : Ledger κ} {issued : List (Reservation κ)} {call : Registry.Call κ}
      (before : Reached ids (.running ledger issued))
      (permitted : call.Permitted issued (ids ledger.registry)) :
      Reached ids (.running (ledger.perform (call.change ·)).2
        (issued ++ (ledger.perform (call.change ·)).1))
  | died {ledger : Ledger κ} {store : Store κ} {issued : List (Reservation κ)}
      {call : Registry.Call κ} (before : Reached ids (.running ledger issued))
      (stored : ledger.store = some store)
      (permitted : call.Permitted issued (ids ledger.registry)) (k : Nat) :
      Reached ids (.stopped (store.leftBy call ledger.registry k))
  | diedOpening {store : Store κ} {c : Change κ (List UsageCorrection)}
      (before : Reached ids (.stopped store)) (loads : Registry.load store = .ok c) (k : Nat) :
      Reached ids (.stopped (store.applyAll (c.writes.take k)))

/-- A process may die between two calls. -/
theorem Reached.stopped {ids : Registry κ → String → Prop} {ledger : Ledger κ}
    {issued : List (Reservation κ)} (reached : Reached ids (.running ledger issued))
    {store : Store κ} (stored : ledger.store = some store) : Reached ids (.stopped store) :=
  @Reached.died _ _ ids ledger store issued .reconcile reached stored trivial 0

/-- The registry is sound, and the rows, if there are any, mirror it. -/
structure Ledger.Sound (ledger : Ledger κ) (issued : List (Reservation κ)) : Prop where
  registry : ledger.registry.Sound issued
  rows : ∀ store, ledger.store = some store → store.Mirrors ledger.registry

/-- The rows mirror a sound registry. -/
def Store.Sound (store : Store κ) : Prop := ∃ m : Registry κ, m.Sound [] ∧ store.Mirrors m

/-- What every phase keeps. -/
def Phase.Sound : Phase κ → Prop
  | .running ledger issued => ledger.Sound issued
  | .stopped store => store.Sound

theorem Ledger.ofStore_eq_ok {store : Store κ} {ledger : Ledger κ} :
    ofStore store = .ok ledger ↔ ∃ c, Registry.load store = .ok c ∧
      ledger = ⟨c.registry, some (store.applyAll c.writes)⟩ := by
  rw [ofStore, bind_eq_ok]
  simp only [pure_eq_ok]

namespace Store.Sound

variable {store : Store κ}

theorem empty : (Store.empty : Store κ).Sound := ⟨.empty, .empty, .empty⟩

/-- A store that opens gives the reconciled registry of its rows. -/
theorem opened (h : store.Sound) {ledger : Ledger κ} (opens : Ledger.ofStore store = .ok ledger) :
    ∃ l, Registry.Reads store l ∧ l.Sound [] ∧ ledger.registry = l.reconcile.registry ∧
      ledger.store = some (store.applyAll l.reconcile.writes) := by
  obtain ⟨m, hsound, hmirrors⟩ := h
  obtain ⟨c, hload, rfl⟩ := Ledger.ofStore_eq_ok.1 opens
  obtain ⟨l, hreads, hregistry, hwrites⟩ := Registry.reads_of_load hmirrors hsound.booked hload
  exact ⟨l, hreads, hreads.sound hmirrors hsound, hregistry, by rw [hwrites]⟩

/-- A death during a restart. -/
theorem diedOpening (h : store.Sound) {c : Change κ (List UsageCorrection)}
    (loads : Registry.load store = .ok c) (k : Nat) :
    (store.applyAll (c.writes.take k)).Sound := by
  obtain ⟨m, hsound, hmirrors⟩ := h
  obtain ⟨l, hreads, -, hwrites⟩ := Registry.reads_of_load hmirrors hsound.booked loads
  have hl := hreads.sound hmirrors hsound
  have e : Registry.Effect l [] (fun _ => True) _ _ [] := .reconciled
  rw [hwrites]
  exact ⟨_, (e.cut hl k).sound, Store.Mirrors.rest_iff.2 (hreads.mirrors.applyAll _)⟩

end Store.Sound

namespace Ledger.Sound

variable {ledger : Ledger κ} {issued : List (Reservation κ)} {ids : String → Prop}
  {call : Registry.Call κ}

theorem inMemory : (Ledger.inMemory : Ledger κ).Sound [] where
  registry := .empty
  rows store h := by cases h

theorem opened {store : Store κ} (h : store.Sound) (opens : Ledger.ofStore store = .ok ledger) :
    ledger.Sound [] := by
  obtain ⟨l, hreads, hl, hregistry, hstore⟩ := h.opened opens
  constructor
  · rw [hregistry]
    exact hl.reconcile
  · intro rows hrows
    rw [hstore] at hrows
    cases hrows
    rw [hregistry]
    have e : Registry.Effect l [] (fun _ => True) _ _ [] := .reconciled
    exact hreads.mirrors.effect hl.booked e

/-- **Step.** A permitted call keeps the registry sound and the rows in step with it. -/
theorem performed (h : ledger.Sound issued) (permitted : call.Permitted issued ids) :
    (ledger.perform (call.change ·)).2.Sound (issued ++ (ledger.perform (call.change ·)).1) := by
  have e := Registry.change_effect (r := ledger.registry) permitted
  constructor
  · exact h.registry.effect e
  · intro rows hrows
    obtain ⟨store, hstore, rfl⟩ := Option.map_eq_some_iff.1 hrows
    exact (h.rows store hstore).effect h.registry.booked e

/-- A death during a call: what is left stands for a registry between the one before and the one
after the call. -/
theorem left {store : Store κ} (h : ledger.Sound issued) (stored : ledger.store = some store)
    (permitted : call.Permitted issued ids) (k : Nat) :
    ∃ m, Registry.Between ledger.registry (call.change ledger.registry).registry m ∧
      (store.leftBy call ledger.registry k).Mirrors m := by
  have e := Registry.change_effect (r := ledger.registry) permitted
  exact ⟨_, e.cut h.registry k, Store.Mirrors.rest_iff.2 ((h.rows store stored).applyAll _)⟩

end Ledger.Sound

/-- **Every phase is sound.** -/
theorem Reached.sound {ids : Registry κ → String → Prop} {p : Phase κ} (h : Reached ids p) :
    p.Sound := by
  induction h with
  | inMemory => exact Ledger.Sound.inMemory
  | created => exact Store.Sound.empty
  | opened before opens ih => exact Ledger.Sound.opened ih opens
  | performed before permitted ih => exact Ledger.Sound.performed ih permitted
  | died before stored permitted k ih =>
    obtain ⟨m, hbetween, hmirrors⟩ := Ledger.Sound.left ih stored permitted k
    exact ⟨m, hbetween.sound, hmirrors⟩
  | diedOpening before loads k ih => exact Store.Sound.diedOpening ih loads k

theorem Reached.ledger_sound {ids : Registry κ → String → Prop} {ledger : Ledger κ}
    {issued : List (Reservation κ)} (h : Reached ids (.running ledger issued)) :
    ledger.Sound issued := h.sound

/-- A new store opens as an empty registry. -/
theorem Ledger.ofStore_empty : Ledger.ofStore (.empty : Store κ) = .ok ⟨.empty, some .empty⟩ := rfl

/-! ## A run -/

/-- A ledger and the holds it has given out, after some calls. -/
def Ledger.after (p : Ledger κ × List (Reservation κ)) (calls : List (Registry.Call κ)) :
    Ledger κ × List (Reservation κ) :=
  calls.foldl (fun p call =>
    ((p.1.perform (call.change ·)).2, p.2 ++ (p.1.perform (call.change ·)).1)) p

theorem Registry.Call.length_given_le (r : Registry κ) (call : Call κ) :
    (call.change r).result.length ≤ 1 := by
  have hone : ∀ {ε : Type} (answer : Except ε (Reservation κ)), (holdOf answer).length ≤ 1 := by
    intro ε answer
    cases answer <;> simp [holdOf]
  cases call with
  | reserve id a => exact hone _
  | reserveWith a select lift => exact hone _
  | _ => exact Nat.zero_le 1

/-- At most one hold is given out with each call. -/
theorem Ledger.length_after_le (p : Ledger κ × List (Reservation κ))
    (calls : List (Registry.Call κ)) : (after p calls).2.length ≤ p.2.length + calls.length := by
  induction calls generalizing p with
  | nil => exact Nat.le_refl _
  | cons call rest ih =>
    refine Nat.le_trans (ih _) ?_
    have hone := call.length_given_le p.1.registry
    simp only [perform, List.length_append, List.length_cons]
    omega

theorem Ledger.numberLeft_after (ledger : Ledger κ) (calls : List (Registry.Call κ))
    (few : calls.length + 1 < word64) : Registry.NumberLeft (after (ledger, []) calls).2 := by
  have hle := length_after_le (ledger, []) calls
  rw [List.length_nil, Nat.zero_add] at hle
  exact Nat.lt_of_le_of_lt (Nat.succ_le_succ hle) few

namespace SampleRun

/-- A server with room for two workspaces. -/
def config : ServerConfig κ where
  serverId := "a"
  name := ""
  host := "localhost"
  port := 2375
  transport := .plain
  totalCpuCores := Quantity.ofInt 4
  totalMemoryMb := 100
  totalDiskGb := 10
  maxWorkspaces := 2
  labels := ∅

def allocation : Allocation κ := { cpuCores := Quantity.one, memoryMb := 40, diskGb := 3 }

def hold : Reservation κ := { id := 1, serverId := "a", allocation }

/-- The server is registered, two holds are taken, and the first becomes a record. -/
def calls : List (Registry.Call κ) :=
  [.addServer config, .reserve "a" allocation, .reserve "a" allocation, .commit hold "c" 0]

theorem config_inRange : (config : ServerConfig κ).InRange := by
  constructor <;> simp [config, portLimit, word32, word64]

theorem allocation_inRange : (allocation : Allocation κ).InRange := by
  constructor <;> simp [allocation, word64]

/-- The calls are permitted on any new ledger that gives out the hold and has no record. -/
theorem reached {ledger : Ledger κ} (new : Reached Registry.Unrecorded (.running ledger []))
    (given : hold ∈ (Ledger.after (ledger, []) (calls.take 3)).2)
    (unrecorded :
      (Ledger.after (ledger, []) (calls.take 3)).1.registry.workspaces.get? "c" = none) :
    Reached Registry.Unrecorded
      (.running (Ledger.after (ledger, []) calls).1 (Ledger.after (ledger, []) calls).2) := by
  refine .performed (.performed (.performed (.performed new ?_) ?_) ?_) ?_
  · exact config_inRange
  · exact ⟨allocation_inRange, ledger.numberLeft_after (calls.take 1) (by simp [calls, word64])⟩
  · exact ⟨allocation_inRange, ledger.numberLeft_after (calls.take 2) (by simp [calls, word64])⟩
  · exact ⟨given, unrecorded, by decide⟩

/-- After these calls without a store. -/
def unstored : Ledger Rat × List (Reservation Rat) := Ledger.after (.inMemory, []) calls

theorem unstored_reached : Reached Registry.Unrecorded (.running unstored.1 unstored.2) :=
  reached .inMemory (by decide +kernel) (by decide +kernel)

end SampleRun
end WorkspaceFleet
