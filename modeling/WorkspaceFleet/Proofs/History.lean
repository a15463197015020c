import WorkspaceFleet.Proofs.Sound

/-!
# WorkspaceFleet.Proofs.History

The calls that were made on a registry since it was empty, in their order, each with the registry
that it found.

`History` keeps no answers: what a call answered and left follows from what it found. A record is
there if and only if it was put there by a commit and not removed since (`contains_change`), so
every removal that answered a record is paid for by a commit: `History.removals_le`, and
`History.removals_eq` where no commit found its container recorded.
-/

namespace WorkspaceFleet
namespace Registry

variable {κ : Type}

/-- A call, and the registry that it found. -/
structure Entry (κ : Type) : Type 1 where
  found : Registry κ
  call : Call κ

/-- Whether an answer holds a record. -/
def answersRecord : Except RegistryError (Option (Workspace κ)) → Bool
  | .ok (some _) => true
  | _ => false

namespace Entry

variable [Quantity κ]

def left (e : Entry κ) : Registry κ := (e.call.change e.found).registry

/-- The call removed a container's record and answered it. -/
def removes (c : String) (e : Entry κ) : Bool :=
  match e.call with
  | .removeWorkspace id => id == c && answersRecord (e.found.removeWorkspace id).result
  | _ => false

/-- The call committed a hold for a container. -/
def commits (c : String) (e : Entry κ) : Bool :=
  match e.call with
  | .commit hold id now => id == c && (e.found.commit hold id now).result.isOk
  | _ => false

end Entry

/-- Calls that are made one after the other, each with the registry that it finds. -/
def entries [Quantity κ] (r : Registry κ) : List (Call κ) → List (Entry κ)
  | [] => []
  | call :: rest => ⟨r, call⟩ :: entries (call.change r).registry rest

theorem countP_concat (p : Entry κ → Bool) (log : List (Entry κ)) (e : Entry κ) :
    (log ++ [e]).countP p = log.countP p + (p e).toNat := by
  rw [List.countP_append, List.countP_singleton]
  cases p e <;> rfl

/-! ## One call -/

theorem workspaces_addServer (r : Registry κ) (s : Server κ) :
    (r.addServer s).registry.workspaces = r.workspaces := by
  rw [addServer]
  split <;> rfl

theorem workspaces_removeServer (r : Registry κ) (id : String) :
    (r.removeServer id).registry.workspaces = r.workspaces := by
  rw [removeServer]
  split
  · rfl
  · split <;> rfl

theorem workspaces_recordServerCheck (r : Registry κ) (id : String) (c : ServerCheck) :
    (r.recordServerCheck id c).registry.workspaces = r.workspaces := by
  rw [recordServerCheck]
  split <;> rfl

theorem contains_updateWorkspace (r : Registry κ) (id : String) (f : Workspace κ → Workspace κ)
    (c : String) :
    (r.updateWorkspace id f).registry.workspaces.contains c = r.workspaces.contains c := by
  cases h : r.workspaces.get? id with
  | none =>
    simp only [updateWorkspace, h]
    rfl
  | some w =>
    simp only [updateWorkspace, h, changed]
    exact Table.contains_insert_of_get? h _ c

variable [Quantity κ] {r : Registry κ} {issued : List (Reservation κ)} {log : List (Entry κ)}
  {c : String}

theorem removeWorkspace_of_none (h : r.workspaces.get? c = none) :
    r.removeWorkspace c = r.unchanged (.ok none) := by
  simp only [removeWorkspace, h]

theorem removeWorkspace_result_of_some {w : Workspace κ} (h : r.workspaces.get? c = some w) :
    (r.removeWorkspace c).result = .ok (some w) := by
  simp only [removeWorkspace, h]
  cases r.servers.get? w.serverId <;> rfl

theorem workspaces_removeWorkspace (r : Registry κ) (c : String) :
    (r.removeWorkspace c).registry.workspaces = r.workspaces.erase c := by
  cases h : r.workspaces.get? c with
  | none =>
    rw [removeWorkspace_of_none h, Table.erase_of_get?_none h]
    rfl
  | some w =>
    simp only [removeWorkspace, h]
    cases r.servers.get? w.serverId <;> rfl

theorem answersRecord_removeWorkspace (r : Registry κ) (c : String) :
    answersRecord (r.removeWorkspace c).result = r.workspaces.contains c := by
  cases h : r.workspaces.get? c with
  | none =>
    rw [removeWorkspace_of_none h, Table.contains, h]
    rfl
  | some w =>
    rw [removeWorkspace_result_of_some h, Table.contains, h]
    rfl

theorem workspaces_commit (r : Registry κ) (hold : Reservation κ) (c : String) (now : Nat) :
    (r.commit hold c now).registry.workspaces =
      if (r.commit hold c now).result.isOk then
        r.workspaces.insert c (.ofReservation hold c now)
      else r.workspaces := by
  cases h : r.hold? hold.id with
  | none =>
    simp only [commit, h]
    rfl
  | some held =>
    simp only [commit, h]
    rfl

theorem workspaces_reserve (r : Registry κ) (id : String) (a : Allocation κ) :
    (r.reserve id a).registry.workspaces = r.workspaces := by
  rcases reserve_cases r id a with ⟨e, h⟩ | ⟨s, -, -, h⟩
  · rw [h]
    rfl
  · rw [h]
    rfl

theorem workspaces_reserveWith {ε : Type} (r : Registry κ) (a : Allocation κ)
    (select : List (Server κ) → Except ε String) (lift : RegistryError → ε) :
    (r.reserveWith a select lift).registry.workspaces = r.workspaces := by
  rw [reserveWith]
  split
  · rfl
  · exact workspaces_reserve r _ a

theorem workspaces_release (r : Registry κ) (hold : Reservation κ) :
    (r.release hold).registry.workspaces = r.workspaces := by
  rw [release]
  split
  · rfl
  · dsimp only
    split <;> rfl

theorem contains_change_of_same {e : Entry κ} (same : e.left.workspaces = e.found.workspaces)
    (commits : e.commits c = false) (removes : e.removes c = false) :
    e.left.workspaces.contains c =
      (e.commits c || e.found.workspaces.contains c && !e.removes c) := by
  rw [same, commits, removes, Bool.false_or, Bool.not_false, Bool.and_true]

/-- **One call.** A record is there afterwards if the call put it there, or if it was there before
and the call did not remove it. -/
theorem contains_change (e : Entry κ) (c : String) :
    e.left.workspaces.contains c =
      (e.commits c || e.found.workspaces.contains c && !e.removes c) := by
  obtain ⟨r, call⟩ := e
  cases call with
  | addServer config => exact contains_change_of_same (workspaces_addServer r _) rfl rfl
  | removeServer id => exact contains_change_of_same (workspaces_removeServer r id) rfl rfl
  | recordServerCheck id check =>
    exact contains_change_of_same (workspaces_recordServerCheck r id check) rfl rfl
  | reserve id a => exact contains_change_of_same (workspaces_reserve r id a) rfl rfl
  | reserveWith a select lift =>
    exact contains_change_of_same (workspaces_reserveWith r a select lift) rfl rfl
  | release hold => exact contains_change_of_same (workspaces_release r hold) rfl rfl
  | commit hold id now =>
    show (r.commit hold id now).registry.workspaces.contains c =
      ((id == c && (r.commit hold id now).result.isOk) || r.workspaces.contains c && !false)
    rw [workspaces_commit]
    cases (r.commit hold id now).result.isOk with
    | true => simp [Table.contains_insert]
    | false => simp
  | updateWorkspace id f =>
    show (r.updateWorkspace id f).registry.workspaces.contains c =
      (false || r.workspaces.contains c && !false)
    rw [contains_updateWorkspace, Bool.false_or, Bool.not_false, Bool.and_true]
  | removeWorkspace id =>
    show (r.removeWorkspace id).registry.workspaces.contains c =
      (false || r.workspaces.contains c &&
        !(id == c && answersRecord (r.removeWorkspace id).result))
    rw [workspaces_removeWorkspace, Table.contains_erase, answersRecord_removeWorkspace]
    by_cases hid : id = c
    · subst hid
      cases r.workspaces.contains id <;> simp
    · simp [bne, beq_false_of_ne hid]
  | reconcile => exact contains_change_of_same rfl rfl rfl

/-- Only a record that is there is removed. -/
theorem contains_of_removes {e : Entry κ} (h : e.removes c = true) :
    e.found.workspaces.contains c = true := by
  obtain ⟨r, call⟩ := e
  cases call with
  | removeWorkspace id =>
    obtain ⟨hid, hanswer⟩ := Bool.and_eq_true_iff.1 h
    rw [answersRecord_removeWorkspace, beq_iff_eq.1 hid] at hanswer
    exact hanswer
  | _ => cases h

theorem commits_of_removes {e : Entry κ} (h : e.removes c = true) : e.commits c = false := by
  obtain ⟨r, call⟩ := e
  cases call with
  | removeWorkspace id => rfl
  | _ => cases h

/-- **The balance of one call.** What it removes and what is left is no more than what it commits
and what it found. -/
theorem balance_le (e : Entry κ) (c : String) :
    (e.removes c).toNat + (e.left.workspaces.contains c).toNat ≤
      (e.commits c).toNat + (e.found.workspaces.contains c).toNat := by
  rw [contains_change]
  cases hremoves : e.removes c with
  | true =>
    rw [commits_of_removes hremoves, contains_of_removes hremoves]
    decide
  | false => cases e.commits c <;> cases e.found.workspaces.contains c <;> decide

/-- It is exactly that much, unless a commit took the place of a record. -/
theorem balance_eq {e : Entry κ}
    (new : e.commits c = true → e.found.workspaces.contains c = false) :
    (e.removes c).toNat + (e.left.workspaces.contains c).toNat =
      (e.commits c).toNat + (e.found.workspaces.contains c).toNat := by
  rw [contains_change]
  cases hremoves : e.removes c with
  | true =>
    rw [commits_of_removes hremoves, contains_of_removes hremoves]
    rfl
  | false =>
    cases hcommits : e.commits c with
    | true =>
      rw [new hcommits]
      rfl
    | false => cases e.found.workspaces.contains c <;> rfl

/-! ## Histories -/

/-- The registries that are reached from nothing by permitted calls, with the holds that were given
out and the calls that were made. Daemons may hand out any container id. -/
inductive History : Registry κ → List (Reservation κ) → List (Entry κ) → Prop where
  | empty : History .empty [] []
  | called {r : Registry κ} {issued : List (Reservation κ)} {log : List (Entry κ)} {call : Call κ}
      (before : History r issued log) (permitted : call.Permitted issued fun _ => True) :
      History (call.change r).registry (issued ++ (call.change r).result) (log ++ [⟨r, call⟩])

namespace History

theorem sound (h : History r issued log) : r.Sound issued := by
  induction h with
  | empty => exact .empty
  | called before permitted ih => exact ih.effect (change_effect permitted)

/-- Every call found a sound registry. -/
theorem found_sound (h : History r issued log) {e : Entry κ} (he : e ∈ log) :
    ∃ issued, e.found.Sound issued := by
  induction h with
  | empty => cases he
  | called before permitted ih =>
    rcases List.mem_append.1 he with hearlier | hlast
    · exact ih hearlier
    · rw [List.mem_singleton.1 hlast]
      exact ⟨_, before.sound⟩

/-- **Every removal is paid for by a commit**, and so is the record that is there. -/
theorem removals_le (h : History r issued log) (c : String) :
    log.countP (Entry.removes c) + (r.workspaces.contains c).toNat ≤
      log.countP (Entry.commits c) := by
  induction h with
  | empty => exact Nat.le_refl 0
  | @called r issued log call before permitted ih =>
    have hbalance := balance_le ⟨r, call⟩ c
    simp only [Entry.left] at hbalance
    rw [countP_concat, countP_concat]
    omega

/-- Where no commit took the place of a record, every commit is accounted for. -/
theorem removals_eq (h : History r issued log) {c : String}
    (new : ∀ e ∈ log, e.commits c = true → e.found.workspaces.contains c = false) :
    log.countP (Entry.removes c) + (r.workspaces.contains c).toNat =
      log.countP (Entry.commits c) := by
  induction h with
  | empty => rfl
  | @called r issued log call before permitted ih =>
    have hearlier := ih fun e he => new e (List.mem_append_left _ he)
    have hbalance := balance_eq (new ⟨r, call⟩ (List.mem_append_right _ List.mem_cons_self))
    simp only [Entry.left] at hbalance
    rw [countP_concat, countP_concat]
    omega

end History

/-! ## One removal -/

/-- What a removal answers and leaves: the record, with one workspace less counted on its server, or
nothing and all as it was. -/
inductive Removal (c : String) (r : Registry κ) :
    Except RegistryError (Option (Workspace κ)) → Registry κ → Prop where
  | removed {w : Workspace κ} {s : Server κ} (found : r.workspaces.get? c = some w)
      (server : r.servers.get? w.serverId = some s)
      (counted : (s.retract w.allocation).workspaceCount + 1 = s.workspaceCount) :
      Removal c r (.ok (some w))
        { r with
          workspaces := r.workspaces.erase c
          servers := r.servers.insert w.serverId (s.retract w.allocation) }
  | nothing (missing : r.workspaces.get? c = none) : Removal c r (.ok none) r

/-- **A removal lowers one counter by one.** The server of a record is registered and counts it, so
nothing is cut off at zero. -/
theorem Sound.removal (h : r.Sound issued) (c : String) :
    Removal c r (r.removeWorkspace c).result (r.removeWorkspace c).registry := by
  cases found : r.workspaces.get? c with
  | none =>
    rw [removeWorkspace_of_none found]
    exact .nothing found
  | some w =>
    have hload := loadOn_erase found r.servers w.serverId .slots
    rw [Workspace.loadOn, if_pos rfl] at hload
    simp only [Allocation.needs] at hload
    have hloaded : 0 < r.loadOn w.serverId .slots := by omega
    obtain ⟨s, hs⟩ := h.counted.exists_server hloaded
    have hcount : r.loadOn w.serverId .slots ≤ s.workspaceCount := h.counted.loadOn_le hs .slots
    simp only [removeWorkspace, found, hs]
    refine .removed found hs ?_
    show s.workspaceCount - 1 + 1 = s.workspaceCount
    omega

end Registry
end WorkspaceFleet
