import WorkspaceFleet.Proofs.WriteThrough

/-!
# WorkspaceFleet.Proofs.Resolving

Every hold is resolved at most once: it is given back, or it becomes a record, or it is pending.

The runs here are those of one process on its registry, from when it is made until it ends. Nothing
is promised by the callers, and the store behind the registry may refuse any single write. An
operation that is refused answers with the store's error and stops there, with the memory that
`Change.refused` says. A release lets go of its hold before it writes, so its hold is gone although
the call fails; a commit writes first.

The numbers of the holds are 64-bit words, so what is said of them is said of runs that give out
fewer holds than there are words.

`Attempt.booking` lists what one operation does to the holds, `Resolution` is the invariant that
follows, and `Attempted.resolved_once` is what it says of every run.
-/

namespace WorkspaceFleet
namespace Registry

variable {κ : Type} [Quantity κ]

/-! ## Operations that the store may refuse -/

/-- An operation, the registry that it found, and which of its writes was refused, if one was. -/
structure Attempt (κ : Type) : Type 1 where
  found : Registry κ
  act : Act κ
  refused : Option Nat

/-- A release let go of its hold: it answered anything but that there was none. -/
def letGo : Except RegistryError Bool → Bool
  | .ok false => false
  | _ => true

namespace Attempt

/-- Only a write that is made is refused. -/
def Possible (a : Attempt κ) : Prop :=
  ∀ k, a.refused = some k → k < (a.act.change a.found).writes.length

def left (a : Attempt κ) : Registry κ :=
  match a.refused with
  | none => (a.act.change a.found).registry
  | some taken => (a.act.change a.found).refused taken

/-- The holds that are given out. -/
def given (a : Attempt κ) : List (Reservation κ) :=
  match a.refused with
  | none => (a.act.change a.found).result
  | some _ => []

/-- A release or a commit that names the hold took effect. -/
def resolves (id : Nat) (a : Attempt κ) : Bool :=
  match a.act with
  | .made (.release hold) =>
    hold.id == id && (a.refused.isSome || letGo (a.found.release hold).result)
  | .made (.commit hold c now) =>
    hold.id == id && (a.refused.isNone && (a.found.commit hold c now).result.isOk)
  | _ => false

end Attempt

/-- How often a hold was resolved. -/
def resolutions (log : List (Attempt κ)) (id : Nat) : Nat := log.countP (Attempt.resolves id)

theorem resolutions_concat (log : List (Attempt κ)) (a : Attempt κ) (id : Nat) :
    resolutions (log ++ [a]) id = resolutions log id + (a.resolves id).toNat := by
  rw [resolutions, List.countP_append, List.countP_singleton]
  cases a.resolves id <;> rfl

/-- The runs of one process: its registry, the holds that it gave out, and what was attempted. -/
inductive Attempted : Registry κ → List (Reservation κ) → List (Attempt κ) → Prop where
  | created : Attempted .empty [] []
  | opened {store : Store κ} {c : Change κ (List UsageCorrection)}
      (loads : Registry.load store = .ok c) : Attempted c.registry [] []
  | attempted {r : Registry κ} {issued : List (Reservation κ)} {log : List (Attempt κ)}
      {act : Act κ} {refused : Option Nat} (before : Attempted r issued log)
      (possible : (Attempt.mk r act refused).Possible) :
      Attempted (Attempt.mk r act refused).left (issued ++ (Attempt.mk r act refused).given)
        (log ++ [⟨r, act, refused⟩])

/-! ## What one operation does to the holds -/

/-- The holds are as they were. -/
structure KeepsHolds (r r' : Registry κ) : Prop where
  pending : r'.pending = r.pending
  next : r'.nextReservation = r.nextReservation

/-- The holds after an operation: as they were, or with a new one at the end, or without the one
that the operation resolved. -/
inductive Attempt.Booking (a : Attempt κ) : Prop where
  | untouched (keeps : a.found.KeepsHolds a.left) (given : a.given = [])
      (idle : ∀ id, a.resolves id = false)
  | taken {hold : Reservation κ} (numbered : hold.id = a.found.nextReservation)
      (pending : a.left.pending = a.found.pending ++ [hold])
      (next : a.left.nextReservation = (a.found.nextReservation + 1) % word64)
      (given : a.given = [hold])
      (idle : ∀ id, a.resolves id = false)
  | resolved {held : Reservation κ} (was : held ∈ a.found.pending)
      (pending : a.left.pending = a.found.withoutHold held.id)
      (next : a.left.nextReservation = a.found.nextReservation) (given : a.given = [])
      (only : ∀ id, a.resolves id = (held.id == id))

variable {r : Registry κ}

omit [Quantity κ] in
theorem KeepsHolds.of_eq {r' : Registry κ} (same : r' = r) : r.KeepsHolds r' := by
  rw [same]
  exact ⟨rfl, rfl⟩

/-- The holds are as they were, whether the store takes the writes or refuses one. -/
structure LeavesHolds {α : Type} (r : Registry κ) (c : Change κ α) : Prop where
  taken : r.KeepsHolds c.registry
  refused : ∀ k, r.KeepsHolds (c.refused k)

section LeavesHolds

omit [Quantity κ]

variable {α : Type}

theorem leavesHolds_unchanged (r : Registry κ) (a : α) : r.LeavesHolds (r.unchanged a) :=
  ⟨.of_eq rfl, fun _ => .of_eq rfl⟩

theorem leavesHolds_changed {after : Registry κ} {a : α} {w : Write κ}
    (keeps : r.KeepsHolds after) : r.LeavesHolds (r.changed a after w) :=
  ⟨keeps, fun _ => .of_eq rfl⟩

theorem leavesHolds_addServer (r : Registry κ) (s : Server κ) : r.LeavesHolds (r.addServer s) := by
  rcases addServer_cases r s with ⟨-, h⟩ | ⟨-, h⟩
  · rw [h]
    exact leavesHolds_unchanged r _
  · rw [h]
    exact leavesHolds_changed ⟨rfl, rfl⟩

theorem leavesHolds_removeServer (r : Registry κ) (id : String) :
    r.LeavesHolds (r.removeServer id) := by
  rcases removeServer_cases r id with ⟨e, h⟩ | ⟨s, -, -, h⟩
  · rw [h]
    exact leavesHolds_unchanged r _
  · rw [h]
    exact leavesHolds_changed ⟨rfl, rfl⟩

theorem leavesHolds_recordServerCheck (r : Registry κ) (id : String) (c : ServerCheck) :
    r.LeavesHolds (r.recordServerCheck id c) := by
  rcases recordServerCheck_cases r id c with ⟨-, h⟩ | ⟨s, -, h⟩
  · rw [h]
    exact leavesHolds_unchanged r _
  · rw [h]
    exact leavesHolds_changed ⟨rfl, rfl⟩

theorem leavesHolds_updateWorkspace (r : Registry κ) (c : String)
    (f : Workspace κ → Workspace κ) : r.LeavesHolds (r.updateWorkspace c f) := by
  rw [updateWorkspace]
  split
  · exact leavesHolds_unchanged r _
  · exact leavesHolds_changed ⟨rfl, rfl⟩

end LeavesHolds

theorem leavesHolds_removeWorkspace (r : Registry κ) (c : String) :
    r.LeavesHolds (r.removeWorkspace c) := by
  rw [removeWorkspace]
  split
  · exact leavesHolds_unchanged r _
  · dsimp only
    split
    · exact leavesHolds_changed ⟨rfl, rfl⟩
    · refine ⟨⟨rfl, rfl⟩, fun k => ?_⟩
      dsimp only
      split <;> exact ⟨rfl, rfl⟩

theorem release_of_none {hold : Reservation κ} (h : r.hold? hold.id = none) :
    r.release hold = r.unchanged (.ok false) := by
  simp only [release, h]

/-- A release of a pending hold lets go of it, whatever it answers. -/
theorem release_of_some {hold held : Reservation κ} (h : r.hold? hold.id = some held) :
    letGo (r.release hold).result = true ∧
      (r.release hold).registry.pending = r.withoutHold hold.id ∧
      (r.release hold).registry.nextReservation = r.nextReservation := by
  simp only [release, h]
  cases r.servers.get? held.serverId with
  | none => exact ⟨rfl, rfl, rfl⟩
  | some s =>
    refine ⟨?_, rfl, rfl⟩
    cases hunder : s.underflow? held.allocation <;> simp only [hunder] <;> rfl

theorem commit_of_none {hold : Reservation κ} (h : r.hold? hold.id = none) (c : String)
    (now : Nat) : r.commit hold c now = r.unchanged (.error (.reservationNotFound hold.id)) := by
  simp only [commit, h]

/-- A refused release let go of the hold that it found; there was one, as it wrote. -/
theorem booking_release_refused {hold : Reservation κ} {k : Nat}
    (possible : (Attempt.mk r (.made (.release hold)) (some k)).Possible) :
    (Attempt.mk r (.made (.release hold)) (some k)).Booking := by
  have hk := possible k rfl
  simp only [Act.change, Call.change, Change.map] at hk
  cases hh : r.hold? hold.id with
  | none =>
    rw [release_of_none hh] at hk
    exact absurd hk (Nat.not_lt_zero k)
  | some held =>
    obtain ⟨hmem, hid⟩ := mem_pending_of_hold? hh
    cases hs : r.servers.get? held.serverId with
    | none =>
      simp only [release, hh, hs] at hk
      exact absurd hk (Nat.not_lt_zero k)
    | some s =>
      refine .resolved hmem ?_ ?_ rfl fun id => ?_
      · simp only [Attempt.left, Act.change, Call.change, Change.map, release, hh, hs, hid]
        rfl
      · simp only [Attempt.left, Act.change, Call.change, Change.map, release, hh, hs]
        rfl
      · rw [hid]
        exact Bool.and_true _

/-- A refused operation gives out no hold, and only a release lets go of one. -/
theorem booking_refused (act : Act κ) {k : Nat}
    (possible : (Attempt.mk r act (some k)).Possible) : (Attempt.mk r act (some k)).Booking := by
  cases act with
  | add s => exact .untouched ((leavesHolds_addServer r s).refused k) rfl fun _ => rfl
  | made call =>
    cases call with
    | addServer c => exact .untouched ((leavesHolds_addServer r _).refused k) rfl fun _ => rfl
    | removeServer id => exact .untouched ((leavesHolds_removeServer r id).refused k) rfl fun _ => rfl
    | recordServerCheck id c =>
      exact .untouched ((leavesHolds_recordServerCheck r id c).refused k) rfl fun _ => rfl
    | reserve id a => exact .untouched (.of_eq (refused_reserve r id a k)) rfl fun _ => rfl
    | reserveWith a select lift =>
      exact .untouched (.of_eq (refused_reserveWith r a select lift k)) rfl fun _ => rfl
    | release hold => exact booking_release_refused possible
    | commit hold c now =>
      exact .untouched (.of_eq (refused_commit r hold c now k)) rfl fun id => Bool.and_false _
    | updateWorkspace c f =>
      exact .untouched ((leavesHolds_updateWorkspace r c f).refused k) rfl fun _ => rfl
    | removeWorkspace c =>
      exact .untouched ((leavesHolds_removeWorkspace r c).refused k) rfl fun _ => rfl
    | reconcile => exact .untouched ⟨rfl, rfl⟩ rfl fun _ => rfl

theorem booking_reserve (id : String) (a : Allocation κ) {act : Act κ}
    (registry : (act.change r).registry = (r.reserve id a).registry)
    (result : (act.change r).result = holdOf (r.reserve id a).result)
    (idle : ∀ id, (Attempt.mk r act none).resolves id = false) :
    (Attempt.mk r act none).Booking := by
  rcases reserve_cases r id a with ⟨e, h⟩ | ⟨s, -, -, h⟩
  · rw [h] at registry result
    exact .untouched ⟨congrArg pending registry, congrArg nextReservation registry⟩ result idle
  · rw [h] at registry result
    exact .taken rfl (congrArg pending registry) (congrArg nextReservation registry) result idle

theorem booking_release (r : Registry κ) (hold : Reservation κ) :
    (Attempt.mk r (.made (.release hold)) none).Booking := by
  cases hh : r.hold? hold.id with
  | none =>
    refine .untouched ?_ rfl fun id => ?_
    · simp only [Attempt.left, Act.change, Call.change, Change.map, release_of_none hh]
      exact ⟨rfl, rfl⟩
    · simp only [Attempt.resolves, release_of_none hh]
      exact Bool.and_false _
  | some held =>
    obtain ⟨hmem, hid⟩ := mem_pending_of_hold? hh
    obtain ⟨hresult, hpending, hnext⟩ := release_of_some hh
    refine .resolved hmem ?_ hnext rfl fun id => ?_
    · rw [hid]
      exact hpending
    · simp only [Attempt.resolves, hresult, hid]
      exact Bool.and_true _

theorem booking_commit (r : Registry κ) (hold : Reservation κ) (c : String) (now : Nat) :
    (Attempt.mk r (.made (.commit hold c now)) none).Booking := by
  cases hh : r.hold? hold.id with
  | none =>
    refine .untouched ?_ rfl fun id => ?_
    · simp only [Attempt.left, Act.change, Call.change, Change.map, commit_of_none hh]
      exact ⟨rfl, rfl⟩
    · simp only [Attempt.resolves, commit_of_none hh]
      exact Bool.and_false _
  | some held =>
    obtain ⟨hmem, hid⟩ := mem_pending_of_hold? hh
    refine .resolved hmem ?_ ?_ rfl fun id => ?_
    · simp only [Attempt.left, Act.change, Call.change, Change.map, commit, hh, hid]
      rfl
    · simp only [Attempt.left, Act.change, Call.change, Change.map, commit, hh]
      rfl
    · simp only [Attempt.resolves, commit, hh, hid]
      exact Bool.and_true _

/-- **What one operation does to the holds.** -/
theorem Attempt.booking {a : Attempt κ} (possible : a.Possible) : a.Booking := by
  obtain ⟨r, act, refused⟩ := a
  cases refused with
  | some k => exact booking_refused act possible
  | none =>
    cases act with
    | add s => exact .untouched (leavesHolds_addServer r s).taken rfl fun _ => rfl
    | made call =>
      cases call with
      | addServer config => exact .untouched (leavesHolds_addServer r _).taken rfl fun _ => rfl
      | removeServer id => exact .untouched (leavesHolds_removeServer r id).taken rfl fun _ => rfl
      | recordServerCheck id check =>
        exact .untouched (leavesHolds_recordServerCheck r id check).taken rfl fun _ => rfl
      | reserve id a => exact booking_reserve id a rfl rfl fun _ => rfl
      | reserveWith a select lift =>
        cases hs : select r.listServers with
        | error e =>
          have h : (Act.made (.reserveWith a select lift)).change r = r.unchanged [] := by
            simp only [Act.change, Call.change, Change.map, reserveWith, hs]
            rfl
          exact .untouched ⟨congrArg (·.registry.pending) h,
            congrArg (·.registry.nextReservation) h⟩ (congrArg Change.result h) fun _ => rfl
        | ok id =>
          refine booking_reserve id a ?_ ?_ fun _ => rfl
          all_goals simp only [Act.change, Call.change, Change.map, reserveWith, hs]
          cases (r.reserve id a).result <;> rfl
      | release hold => exact booking_release r hold
      | commit hold c now => exact booking_commit r hold c now
      | updateWorkspace c f =>
        exact .untouched (leavesHolds_updateWorkspace r c f).taken rfl fun _ => rfl
      | removeWorkspace c => exact .untouched (leavesHolds_removeWorkspace r c).taken rfl fun _ => rfl
      | reconcile => exact .untouched ⟨rfl, rfl⟩ rfl fun _ => rfl

/-! ## Runs -/

/-- The holds are numbered from one on, none was resolved twice, and those that were not resolved
are the pending ones. -/
structure Resolution (r : Registry κ) (issued : List (Reservation κ)) (log : List (Attempt κ)) :
    Prop where
  numbered : issued.map Reservation.id = List.range' 1 issued.length
  next : r.nextReservation = (issued.length + 1) % word64
  pending : r.pending = issued.filter fun hold => resolutions log hold.id == 0
  once : ∀ id, resolutions log id ≤ 1
  /-- A number that was not given out was not resolved. -/
  ahead : ∀ id, id ∉ issued.map Reservation.id → resolutions log id = 0

namespace Resolution

variable {issued : List (Reservation κ)} {log : List (Attempt κ)}

theorem none (pending : r.pending = []) (next : r.nextReservation = 1) : Resolution r [] [] where
  numbered := rfl
  next := next
  pending := pending
  once _ := Nat.zero_le 1
  ahead _ _ := rfl

/-- **Step.** -/
theorem step {a : Attempt κ} (h : Resolution a.found issued log) (booking : a.Booking)
    (few : (issued ++ a.given).length < word64) :
    Resolution a.left (issued ++ a.given) (log ++ [a]) := by
  cases booking with
  | untouched keeps given idle =>
    have hcount : ∀ id, resolutions (log ++ [a]) id = resolutions log id := fun id => by
      rw [resolutions_concat, idle]
      rfl
    rw [given, List.append_nil]
    refine ⟨h.numbered, keeps.next.trans h.next, ?_, ?_, ?_⟩
    · simp only [hcount]
      exact keeps.pending.trans h.pending
    · simpa only [hcount] using h.once
    · simpa only [hcount] using h.ahead
  | @taken hold numbered pending next given idle =>
    have hcount : ∀ id, resolutions (log ++ [a]) id = resolutions log id := fun id => by
      rw [resolutions_concat, idle]
      rfl
    rw [given, List.length_append, List.length_singleton] at few
    have hnumber : hold.id = issued.length + 1 :=
      (numbered.trans h.next).trans (Nat.mod_eq_of_lt few)
    have hnew : resolutions log hold.id = 0 := by
      refine h.ahead _ ?_
      rw [h.numbered, List.mem_range'_1, hnumber]
      omega
    rw [given]
    refine ⟨?_, ?_, ?_, ?_, ?_⟩
    · rw [List.map_append, h.numbered, List.length_append, List.length_singleton,
        List.range'_concat, List.map_singleton, hnumber]
      simp [Nat.add_comm]
    · rw [next, h.next, List.length_append, List.length_singleton, Nat.mod_add_mod]
    · simp only [hcount]
      rw [pending, h.pending, List.filter_append]
      simp [hnew]
    · simpa only [hcount] using h.once
    · intro id hid
      rw [hcount]
      refine h.ahead id fun hbefore => hid ?_
      rw [List.map_append]
      exact List.mem_append_left _ hbefore
  | @resolved held was pending next given only =>
    have hcount : ∀ id, resolutions (log ++ [a]) id =
        resolutions log id + (held.id == id).toNat := fun id => by
      rw [resolutions_concat, only]
    have hheld : held ∈ issued ∧ resolutions log held.id = 0 := by
      rw [h.pending, List.mem_filter, beq_iff_eq] at was
      exact was
    rw [given, List.append_nil]
    refine ⟨h.numbered, next.trans h.next, ?_, ?_, ?_⟩
    · rw [pending, withoutHold, h.pending, List.filter_filter]
      refine List.filter_congr fun k _ => ?_
      rw [hcount]
      by_cases hk : held.id = k.id
      · rw [← hk, bne_self_eq_false, beq_self_eq_true]
        rfl
      · rw [bne_iff_ne.2 (Ne.symm hk), beq_false_of_ne hk]
        rfl
    · intro id
      rw [hcount]
      by_cases hid : held.id = id
      · rw [← hid, hheld.2]
        simp
      · rw [beq_false_of_ne hid]
        exact h.once id
    · intro id hid
      have hother : held.id ≠ id := fun h => hid (h ▸ List.mem_map_of_mem hheld.1)
      rw [hcount, h.ahead id hid, beq_false_of_ne hother]
      rfl

/-- A hold that was resolved is found no more. -/
theorem hold?_none (h : Resolution r issued log) {id : Nat} (resolved : 0 < resolutions log id) :
    r.hold? id = .none := by
  rw [hold?, List.find?_eq_none]
  intro held hheld hid
  rw [h.pending, List.mem_filter, beq_iff_eq] at hheld
  rw [beq_iff_eq] at hid
  rw [hid] at hheld
  omega

theorem nodup (h : Resolution r issued log) : (issued.map Reservation.id).Nodup := by
  rw [h.numbered]
  exact List.nodup_range'

end Resolution

omit [Quantity κ] in
/-- A pending hold is one of the allocations on its server, and once more than without it. -/
theorem allocationsOn_of_pending {hold : Reservation κ}
    (unique : (r.pending.map Reservation.id).Nodup) (pending : hold ∈ r.pending) :
    ∃ l₁ l₂, r.allocationsOn hold.serverId = l₁ ++ hold.allocation :: l₂ ∧
      ({ r with pending := r.withoutHold hold.id } : Registry κ).allocationsOn hold.serverId =
        l₁ ++ l₂ := by
  obtain ⟨before, after, hsplit⟩ := List.append_of_mem pending
  rw [hsplit, List.map_append, List.map_cons, List.nodup_append] at unique
  obtain ⟨-, hafter, hbefore⟩ := unique
  have hothers : r.withoutHold hold.id = before ++ after := by
    rw [withoutHold, hsplit, List.filter_append, List.filter_cons_of_neg (by simp)]
    congr 1
    · refine List.filter_eq_self.2 fun k hk => bne_iff_ne.2 ?_
      exact hbefore _ (List.mem_map_of_mem hk) _ List.mem_cons_self
    · refine List.filter_eq_self.2 fun k hk => bne_iff_ne.2 fun hid => ?_
      exact (List.nodup_cons.1 hafter).1 (hid ▸ List.mem_map_of_mem hk)
  simp only [allocationsOn, hothers]
  rw [hsplit, List.filter_append, List.filter_append, List.filter_cons_of_pos (by simp)]
  simp only [List.map_append, List.map_cons, ← List.append_assoc]
  exact ⟨_, _, rfl, rfl⟩

theorem Attempted.resolution {issued : List (Reservation κ)} {log : List (Attempt κ)}
    (h : Attempted r issued log) (few : issued.length < word64) : Resolution r issued log := by
  induction h with
  | created => exact .none rfl rfl
  | opened loads =>
    simp only [Registry.load, bind_eq_ok, pure_eq_ok] at loads
    obtain ⟨servers, -, workspaces, -, corrections, -, rfl⟩ := loads
    exact .none rfl rfl
  | attempted before possible ih =>
    have hbefore := Nat.lt_of_le_of_lt (List.sublist_append_left _ _).length_le few
    exact (ih hbefore).step (Attempt.booking possible) few

/-- **Every hold is resolved at most once.** In every run that gives out fewer holds than there are
words, the holds given out have different numbers. For each number at most one release or commit that
names it takes effect; after that every release of it answers false, every commit fails, and both
leave all as it was. A hold for which none took effect is pending as it was given out, and is part of
the usage that reconciliation computes for its server. -/
theorem Attempted.resolved_once {issued : List (Reservation κ)} {log : List (Attempt κ)}
    (h : Attempted r issued log) (few : issued.length < word64) :
    (issued.map Reservation.id).Nodup ∧
    (∀ id, resolutions log id ≤ 1) ∧
    (∀ hold, 0 < resolutions log hold.id →
      r.release hold = r.unchanged (.ok false) ∧
      ∀ c now, r.commit hold c now = r.unchanged (.error (.reservationNotFound hold.id))) ∧
    ∀ hold ∈ issued, resolutions log hold.id = 0 →
      hold ∈ r.pending ∧
      ∃ l₁ l₂, r.usageOn hold.serverId = (l₁ ++ hold.allocation :: l₂).foldl Usage.add .none ∧
        ({ r with pending := r.withoutHold hold.id } : Registry κ).usageOn hold.serverId =
          (l₁ ++ l₂).foldl Usage.add .none := by
  have hr := h.resolution few
  refine ⟨hr.nodup, hr.once, ?_, ?_⟩
  · intro hold resolved
    have hnone := hr.hold?_none resolved
    exact ⟨release_of_none hnone, commit_of_none hnone⟩
  · intro hold given unresolved
    have hpending : hold ∈ r.pending := by
      rw [hr.pending, List.mem_filter, beq_iff_eq]
      exact ⟨given, unresolved⟩
    have hunique : (r.pending.map Reservation.id).Nodup := by
      rw [hr.pending]
      exact (List.filter_sublist.map _).nodup hr.nodup
    obtain ⟨l₁, l₂, hwith, hwithout⟩ := allocationsOn_of_pending hunique hpending
    exact ⟨hpending, l₁, l₂, by rw [usageOn, hwith], by rw [usageOn, hwithout]⟩

/-! ## A run -/

namespace RefusedRun

/-- What was attempted so far, and one operation more. -/
def attempt (p : Registry κ × List (Reservation κ) × List (Attempt κ)) (act : Act κ)
    (refused : Option Nat) : Registry κ × List (Reservation κ) × List (Attempt κ) :=
  ((Attempt.mk p.1 act refused).left, p.2.1 ++ (Attempt.mk p.1 act refused).given,
    p.2.2 ++ [⟨p.1, act, refused⟩])

/-- Two holds are taken. -/
def held : Registry Rat × List (Reservation Rat) × List (Attempt Rat) :=
  attempt (attempt (attempt (.empty, [], []) (.made (.addServer SampleRun.config)) none)
    (.made (.reserve "a" SampleRun.allocation)) none)
    (.made (.reserve "a" SampleRun.allocation)) none

/-- The store refuses the write of the first one's release, which lets go of it all the same, and a
commit comes too late. -/
def state : Registry Rat × List (Reservation Rat) × List (Attempt Rat) :=
  attempt (attempt held (.made (.release SampleRun.hold)) (some 0))
    (.made (.commit SampleRun.hold "c" 0)) none

theorem attempted_attempt {p : Registry κ × List (Reservation κ) × List (Attempt κ)} (act : Act κ)
    (refused : Option Nat) (before : Attempted p.1 p.2.1 p.2.2)
    (possible : (Attempt.mk p.1 act refused).Possible) :
    Attempted (attempt p act refused).1 (attempt p act refused).2.1 (attempt p act refused).2.2 :=
  .attempted before possible

theorem possible (found : Registry κ) (act : Act κ) : (Attempt.mk found act none).Possible :=
  fun _ h => nomatch h

theorem attempted_held : Attempted held.1 held.2.1 held.2.2 :=
  attempted_attempt _ _ (attempted_attempt _ _ (attempted_attempt _ _ .created (possible _ _))
    (possible _ _)) (possible _ _)

theorem attempted : Attempted state.1 state.2.1 state.2.2 := by
  refine attempted_attempt _ _ (attempted_attempt _ _ attempted_held ?_) (possible _ _)
  rintro _ ⟨⟩
  decide +kernel

end RefusedRun

/-- The first hold is resolved although its release failed, and the second is still there. -/
theorem resolved_once_refused :
    ∃ (r : Registry Rat) (issued : List (Reservation Rat)) (log : List (Attempt Rat)),
      Attempted r issued log ∧ log.length = 5 ∧
      issued = [SampleRun.hold, { SampleRun.hold with id := 2 }] ∧
      resolutions log 1 = 1 ∧ r.release SampleRun.hold = r.unchanged (.ok false) ∧
      resolutions log 2 = 0 ∧ { SampleRun.hold with id := 2 } ∈ r.pending := by
  have hissued : RefusedRun.state.2.1 = [SampleRun.hold, { SampleRun.hold with id := 2 }] := by
    decide +kernel
  obtain ⟨-, -, hresolved, hpending⟩ := RefusedRun.attempted.resolved_once (by
    rw [hissued]
    decide)
  have hfirst : resolutions RefusedRun.state.2.2 1 = 1 := by decide +kernel
  have hsecond : resolutions RefusedRun.state.2.2 2 = 0 := by decide +kernel
  refine ⟨_, _, _, RefusedRun.attempted, rfl, hissued, hfirst, ?_, hsecond, ?_⟩
  · exact (hresolved SampleRun.hold (Nat.lt_of_lt_of_eq Nat.one_pos hfirst.symm)).1
  · refine (hpending { SampleRun.hold with id := 2 } ?_ hsecond).1
    rw [hissued]
    exact List.mem_cons_of_mem _ List.mem_cons_self

end Registry
end WorkspaceFleet
