import WorkspaceFleet.Proofs.Range

/-!
# WorkspaceFleet.Proofs.Call

Calls of the registry's operations, and what one call can do.

`Call.change` performs a call on a registry. `Call.Permitted` is what its callers promise: servers
are registered as they are configured, holds are those that the registry gave out, containers have
the ids that daemons hand out, changes of a record keep where the workspace is and what it uses,
numbers fit their words, and a registry gives out fewer than `word64` holds.

`change_effect` lists once and for all what a permitted call may leave, write and give out: an
`Effect`. Every invariant of the registry is proved by cases on it.
-/

namespace WorkspaceFleet

variable {κ : Type}

/-- Both are records of one workspace on one server with one allocation. -/
structure Workspace.SamePlace (w w' : Workspace κ) : Prop where
  containerId : w'.containerId = w.containerId
  serverId : w'.serverId = w.serverId
  allocation : w'.allocation = w.allocation

namespace Registry

/-- A call of an operation of the registry. -/
inductive Call (κ : Type) : Type 1 where
  | addServer (config : ServerConfig κ)
  | removeServer (id : String)
  | recordServerCheck (id : String) (check : ServerCheck)
  | reserve (id : String) (allocation : Allocation κ)
  | reserveWith {ε : Type} (allocation : Allocation κ)
      (select : List (Server κ) → Except ε String) (lift : RegistryError → ε)
  | release (hold : Reservation κ)
  | commit (hold : Reservation κ) (containerId : String) (startedAt : Nat)
  | updateWorkspace (id : String) (f : Workspace κ → Workspace κ)
  | removeWorkspace (id : String)
  | reconcile

/-- The hold in an answer, if it holds one. -/
def holdOf {ε : Type} : Except ε (Reservation κ) → List (Reservation κ)
  | .ok hold => [hold]
  | .error _ => []

/-- Performs a call; the answer is the holds that are given out. -/
def Call.change [Quantity κ] (r : Registry κ) : Call κ → Change κ (List (Reservation κ))
  | .addServer c => (r.addServer (.ofConfig c)).map fun _ => []
  | .removeServer id => (r.removeServer id).map fun _ => []
  | .recordServerCheck id c => (r.recordServerCheck id c).map fun _ => []
  | .reserve id a => (r.reserve id a).map holdOf
  | .reserveWith a select lift => (r.reserveWith a select lift).map holdOf
  | .release hold => (r.release hold).map fun _ => []
  | .commit hold c now => (r.commit hold c now).map fun _ => []
  | .updateWorkspace id f => (r.updateWorkspace id f).map fun _ => []
  | .removeWorkspace id => (r.removeWorkspace id).map fun _ => []
  | .reconcile => r.reconcile.map fun _ => []

/-- The next hold, refused or not, has a number that no earlier one has. -/
def NumberLeft (issued : List (Reservation κ)) : Prop := issued.length + 1 < word64

theorem numberLeft_nil : NumberLeft ([] : List (Reservation κ)) :=
  show 1 < word64 by decide

/-- What the callers promise, where `issued` are the holds given out so far and `ids` the ids that a
daemon may hand out. -/
def Call.Permitted (issued : List (Reservation κ)) (ids : String → Prop) : Call κ → Prop
  | .addServer c => c.InRange
  | .recordServerCheck _ c => c.InRange
  | .reserve _ a => a.InRange ∧ NumberLeft issued
  | .reserveWith a _ _ => a.InRange ∧ NumberLeft issued
  | .release hold => hold ∈ issued
  | .commit hold c now => hold ∈ issued ∧ ids c ∧ now < word64
  | .updateWorkspace _ f => ∀ w, w.SamePlace (f w) ∧ (w.InRange → (f w).InRange)
  | .removeServer _ => True
  | .removeWorkspace _ => True
  | .reconcile => True

/-- What a permitted call may do: the registry afterwards, the writes on the way and the holds
given out. -/
inductive Effect [Quantity κ] (r : Registry κ) (issued : List (Reservation κ))
    (ids : String → Prop) : Registry κ → List (Write κ) → List (Reservation κ) → Prop where
  | nothing : Effect r issued ids r [] []
  | added {c : ServerConfig κ} (free : r.servers.get? c.serverId = none) (range : c.InRange) :
      Effect r issued ids { r with servers := r.servers.insert c.serverId (.ofConfig c) }
        [.putServer (.ofConfig c)] []
  | withdrawn {id : String} {s : Server κ} (found : r.servers.get? id = some s)
      (idle : s.used .slots = 0) :
      Effect r issued ids { r with servers := r.servers.erase id } [.deleteServer id] []
  | checked {id : String} {s : Server κ} {c : ServerCheck} (found : r.servers.get? id = some s)
      (range : c.InRange) :
      Effect r issued ids { r with servers := r.servers.insert id (checked s c) }
        [.putServer (checked s c)] []
  | held {id : String} {s : Server κ} {a : Allocation κ} (found : r.servers.get? id = some s)
      (room : s.fits a = true) (range : a.InRange) (left : NumberLeft issued) :
      Effect r issued ids
        { r with
          servers := r.servers.insert id (s.apply a)
          pending := r.pending ++ [⟨r.nextReservation, id, a⟩]
          nextReservation := (r.nextReservation + 1) % word64 }
        [.putServer (s.apply a)] [⟨r.nextReservation, id, a⟩]
  | released {hold : Reservation κ} {s : Server κ} (pending : hold ∈ r.pending)
      (found : r.servers.get? hold.serverId = some s) :
      Effect r issued ids
        { r with
          servers := r.servers.insert hold.serverId (s.retract hold.allocation)
          pending := r.withoutHold hold.id }
        [.putServer (s.retract hold.allocation)] []
  | forgotten {hold : Reservation κ} (pending : hold ∈ r.pending)
      (missing : r.servers.get? hold.serverId = none) :
      Effect r issued ids { r with pending := r.withoutHold hold.id } [] []
  | committed {hold held : Reservation κ} {c : String} {now : Nat} (given : hold ∈ issued)
      (pending : held ∈ r.pending) (same : held.id = hold.id) (named : ids c)
      (range : now < word64) :
      Effect r issued ids
        { r with
          pending := r.withoutHold hold.id
          workspaces := r.workspaces.insert c (.ofReservation hold c now) }
        [.putWorkspace (.ofReservation hold c now)] []
  | updated {c : String} {w w' : Workspace κ} (found : r.workspaces.get? c = some w)
      (same : w.SamePlace w') (range : w.InRange → w'.InRange) :
      Effect r issued ids { r with workspaces := r.workspaces.insert c w' } [.putWorkspace w'] []
  | removed {c : String} {w : Workspace κ} {s : Server κ} (found : r.workspaces.get? c = some w)
      (server : r.servers.get? w.serverId = some s) :
      Effect r issued ids
        { r with
          workspaces := r.workspaces.erase c
          servers := r.servers.insert w.serverId (s.retract w.allocation) }
        [.deleteWorkspace c, .putServer (s.retract w.allocation)] []
  | strayed {c : String} {w : Workspace κ} (found : r.workspaces.get? c = some w)
      (missing : r.servers.get? w.serverId = none) :
      Effect r issued ids { r with workspaces := r.workspaces.erase c } [.deleteWorkspace c] []
  | reconciled : Effect r issued ids r.reconcile.registry r.reconcile.writes []

theorem mem_pending_of_hold? {r : Registry κ} {id : Nat} {held : Reservation κ}
    (h : r.hold? id = some held) : held ∈ r.pending ∧ held.id = id := by
  rw [hold?] at h
  exact ⟨List.mem_of_find?_eq_some h, by simpa using List.find?_some h⟩

variable [Quantity κ] {r : Registry κ} {issued : List (Reservation κ)} {ids : String → Prop}

omit [Quantity κ] in
/-- A server is refused, or its id is new and it is taken in. -/
theorem addServer_cases (r : Registry κ) (s : Server κ) :
    (r.servers.contains s.serverId = true ∧
      r.addServer s = r.unchanged (.error (.duplicateServer s.serverId))) ∨
    r.servers.get? s.serverId = none ∧
      r.addServer s =
        r.changed (.ok ()) { r with servers := r.servers.insert s.serverId s } (.putServer s) := by
  by_cases known : r.servers.contains s.serverId = true
  · exact .inl ⟨known, if_pos known⟩
  · exact .inr ⟨Table.contains_eq_false_iff.1 (Bool.eq_false_iff.2 known), if_neg known⟩

omit [Quantity κ] in
/-- A server stays, or nothing is counted on it and it is taken out. -/
theorem removeServer_cases (r : Registry κ) (id : String) :
    (∃ e, r.removeServer id = r.unchanged (.error e)) ∨
    ∃ s, r.servers.get? id = some s ∧ s.workspaceCount = 0 ∧
      r.removeServer id =
        r.changed (.ok s) { r with servers := r.servers.erase id } (.deleteServer id) := by
  cases hs : r.servers.get? id with
  | none =>
    left
    simp only [removeServer, hs]
    exact ⟨_, rfl⟩
  | some s =>
    by_cases used : 0 < s.workspaceCount
    · left
      simp only [removeServer, hs, if_pos used]
      exact ⟨_, rfl⟩
    · right
      simp only [removeServer, hs, if_neg used]
      exact ⟨s, rfl, Nat.eq_zero_of_not_pos used, rfl⟩

omit [Quantity κ] in
/-- A check is refused, or it is recorded of a server that is there. -/
theorem recordServerCheck_cases (r : Registry κ) (id : String) (c : ServerCheck) :
    (r.servers.get? id = none ∧
      r.recordServerCheck id c = r.unchanged (.error (.serverNotFound id))) ∨
    ∃ s, r.servers.get? id = some s ∧
      r.recordServerCheck id c =
        r.changed (.ok s.status) { r with servers := r.servers.insert id (checked s c) }
          (.putServer (checked s c)) := by
  cases hs : r.servers.get? id with
  | none => exact .inl ⟨rfl, by simp only [recordServerCheck, hs]⟩
  | some s => exact .inr ⟨s, rfl, by simp only [recordServerCheck, hs]⟩

theorem addServer_effect (r : Registry κ) (issued : List (Reservation κ)) {c : ServerConfig κ}
    (range : c.InRange) :
    Effect r issued ids (r.addServer (.ofConfig c)).registry (r.addServer (.ofConfig c)).writes
      [] := by
  rw [addServer]
  split
  · exact .nothing
  · next hnew =>
    exact .added (Table.contains_eq_false_iff.1 (Bool.eq_false_iff.2 hnew)) range

/-- A hold is refused, or it is taken on a server that has room. -/
theorem reserve_cases (r : Registry κ) (id : String) (a : Allocation κ) :
    (∃ e, r.reserve id a = r.unchanged (.error e)) ∨
    ∃ s, r.servers.get? id = some s ∧ s.fits a = true ∧
      r.reserve id a =
        r.changed (.ok ⟨r.nextReservation, id, a⟩)
          { r with
            servers := r.servers.insert id (s.apply a)
            pending := r.pending ++ [⟨r.nextReservation, id, a⟩]
            nextReservation := (r.nextReservation + 1) % word64 }
          (.putServer (s.apply a)) := by
  cases hs : r.servers.get? id with
  | none =>
    left
    simp only [reserve, hs]
    exact ⟨_, rfl⟩
  | some s =>
    by_cases room : s.fits a = true
    · right
      simp only [reserve, hs, if_pos room]
      exact ⟨s, rfl, room, rfl⟩
    · left
      simp only [reserve, hs, if_neg room]
      exact ⟨_, rfl⟩

theorem reserve_effect (r : Registry κ) (id : String) {a : Allocation κ} (range : a.InRange)
    (left : NumberLeft issued) :
    Effect r issued ids (r.reserve id a).registry (r.reserve id a).writes
      (holdOf (r.reserve id a).result) := by
  rcases reserve_cases r id a with ⟨e, h⟩ | ⟨s, found, room, h⟩
  · rw [h]
    exact .nothing
  · rw [h]
    exact .held found room range left

/-- A choice either refuses, or takes the hold on the server that it names. -/
theorem reserveWith_effect {ε : Type} (r : Registry κ) {a : Allocation κ} (range : a.InRange)
    (left : NumberLeft issued) (select : List (Server κ) → Except ε String)
    (lift : RegistryError → ε) :
    Effect r issued ids (r.reserveWith a select lift).registry
      (r.reserveWith a select lift).writes (holdOf (r.reserveWith a select lift).result) := by
  cases hs : select r.listServers with
  | error e =>
    simp only [reserveWith, hs]
    exact .nothing
  | ok id =>
    simp only [reserveWith, hs, Change.map]
    have hsame : holdOf ((r.reserve id a).result.mapError lift) =
        holdOf (r.reserve id a).result := by
      cases (r.reserve id a).result <;> rfl
    rw [hsame]
    exact reserve_effect r id range left

theorem release_effect (r : Registry κ) (issued : List (Reservation κ)) (hold : Reservation κ) :
    Effect r issued ids (r.release hold).registry (r.release hold).writes [] := by
  cases hh : r.hold? hold.id with
  | none =>
    simp only [release, hh]
    exact .nothing
  | some held =>
    obtain ⟨hmem, hid⟩ := mem_pending_of_hold? hh
    cases hs : r.servers.get? held.serverId with
    | none =>
      simp only [release, hh, hs]
      rw [← hid]
      exact .forgotten hmem hs
    | some s =>
      simp only [release, hh, hs]
      rw [← hid]
      exact .released hmem hs

theorem commit_effect (r : Registry κ) {hold : Reservation κ} (given : hold ∈ issued) {c : String}
    (named : ids c) {now : Nat} (range : now < word64) :
    Effect r issued ids (r.commit hold c now).registry (r.commit hold c now).writes [] := by
  cases hh : r.hold? hold.id with
  | none =>
    simp only [commit, hh]
    exact .nothing
  | some held =>
    obtain ⟨hmem, hid⟩ := mem_pending_of_hold? hh
    simp only [commit, hh]
    exact .committed given hmem hid named range

theorem removeWorkspace_effect (r : Registry κ) (issued : List (Reservation κ)) (c : String) :
    Effect r issued ids (r.removeWorkspace c).registry (r.removeWorkspace c).writes [] := by
  cases hw : r.workspaces.get? c with
  | none =>
    simp only [removeWorkspace, hw]
    exact .nothing
  | some w =>
    cases hs : r.servers.get? w.serverId with
    | none =>
      simp only [removeWorkspace, hw, hs]
      exact .strayed hw hs
    | some s =>
      simp only [removeWorkspace, hw, hs]
      exact .removed hw hs

/-! A hold that the store refuses is not taken, and a record that it refuses is not made. -/

theorem refused_reserve (r : Registry κ) (id : String) (a : Allocation κ) (taken : Nat) :
    (r.reserve id a).refused taken = r := by
  rcases reserve_cases r id a with ⟨e, h⟩ | ⟨s, -, -, h⟩
  · rw [h]
    rfl
  · rw [h]
    rfl

theorem refused_reserveWith {ε : Type} (r : Registry κ) (a : Allocation κ)
    (select : List (Server κ) → Except ε String) (lift : RegistryError → ε) (taken : Nat) :
    (r.reserveWith a select lift).refused taken = r := by
  rw [reserveWith]
  split
  · rfl
  · exact refused_reserve r _ a taken

theorem refused_commit (r : Registry κ) (hold : Reservation κ) (c : String) (now taken : Nat) :
    (r.commit hold c now).refused taken = r := by
  rw [commit]
  split <;> rfl

/-- **What a call can do.** Every permitted call has one of the effects. -/
theorem change_effect {call : Call κ} (permitted : call.Permitted issued ids) :
    Effect r issued ids (call.change r).registry (call.change r).writes
      (call.change r).result := by
  cases call with
  | addServer c => exact addServer_effect r issued permitted
  | removeServer id =>
    rcases removeServer_cases r id with ⟨e, h⟩ | ⟨s, found, idle, h⟩
    · simp only [Call.change, h]
      exact .nothing
    · simp only [Call.change, h]
      exact .withdrawn found idle
  | recordServerCheck id c =>
    cases hs : r.servers.get? id with
    | none =>
      simp only [Call.change, Change.map, recordServerCheck, hs]
      exact .nothing
    | some s =>
      simp only [Call.change, Change.map, recordServerCheck, hs]
      exact .checked hs permitted
  | reserve id a => exact reserve_effect r id permitted.1 permitted.2
  | reserveWith a select lift => exact reserveWith_effect r permitted.1 permitted.2 select lift
  | release hold => exact release_effect r issued hold
  | commit hold c now => exact commit_effect r permitted.1 permitted.2.1 permitted.2.2
  | updateWorkspace c f =>
    cases hw : r.workspaces.get? c with
    | none =>
      simp only [Call.change, Change.map, updateWorkspace, hw]
      exact .nothing
    | some w =>
      simp only [Call.change, Change.map, updateWorkspace, hw]
      exact .updated hw (permitted w).1 (permitted w).2
  | removeWorkspace c => exact removeWorkspace_effect r issued c
  | reconcile => exact .reconciled

end Registry
end WorkspaceFleet
