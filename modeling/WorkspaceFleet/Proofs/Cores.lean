import Mathlib.Algebra.Order.BigOperators.Group.List
import Mathlib.Algebra.Order.Ring.Rat
import Mathlib.Tactic.Linarith
import WorkspaceFleet.Proofs.Accounting
import WorkspaceFleet.Proofs.History

/-!
# WorkspaceFleet.Proofs.Cores

The cores that are counted as used, in exact arithmetic.

Unlike the other counters, the cores are not counted in whole units: a server takes an allocation
that passes what is free by no more than the tolerance, and taking cores off stops at zero. As long
as no allocation is of less than no cores, what is counted is the sum over the allocations on the
server (`Registry.Backed`), so taking one off never stops short. `Registry.History.cores_bounded`
puts this together; `Registry.cores_underflow` shows what a hold of a negative number of cores does.
-/

namespace WorkspaceFleet

variable {κ : Type}

/-! ## Allocations on a server -/

/-- What an allocation on one server is to another. -/
def Allocation.on (a : Allocation κ) (id j : String) : List (Allocation κ) :=
  if id = j then [a] else []

theorem Allocation.mem_on_self (a : Allocation κ) (id : String) : a ∈ a.on id id := by
  rw [on, if_pos rfl]
  exact List.mem_singleton_self a

namespace Registry

/-- The allocations of the records that name a server. -/
def recordsOn (t : Table (Workspace κ)) (id : String) : List (Allocation κ) :=
  (t.values.filter (·.serverId == id)).map (·.allocation)

/-- The allocations of the holds that name a server. -/
def holdsOn (l : List (Reservation κ)) (id : String) : List (Allocation κ) :=
  (l.filter (·.serverId == id)).map (·.allocation)

theorem allocationsOn_eq (r : Registry κ) (id : String) :
    r.allocationsOn id = recordsOn r.workspaces id ++ holdsOn r.pending id := rfl

theorem recordsOn_insert (t : Table (Workspace κ)) (c : String) (w : Workspace κ) (id : String) :
    (recordsOn (t.insert c w) id).Perm
      (w.allocation.on w.serverId id ++ recordsOn (t.erase c) id) := by
  refine (((t.values_insert_perm c w).filter (·.serverId == id)).map (·.allocation)).trans ?_
  rw [List.filter_cons, Allocation.on]
  by_cases hid : w.serverId = id
  · rw [if_pos (beq_iff_eq.2 hid), if_pos hid]
    exact .refl _
  · rw [if_neg (mt beq_iff_eq.1 hid), if_neg hid]
    exact .refl _

theorem recordsOn_erase {t : Table (Workspace κ)} {c : String} {w : Workspace κ}
    (found : t.get? c = some w) (id : String) :
    (recordsOn t id).Perm (w.allocation.on w.serverId id ++ recordsOn (t.erase c) id) := by
  have := recordsOn_insert t c w id
  rwa [Table.insert_of_get? found] at this

theorem holdsOn_cons (h : Reservation κ) (l : List (Reservation κ)) (id : String) :
    holdsOn (h :: l) id = h.allocation.on h.serverId id ++ holdsOn l id := by
  rw [holdsOn, List.filter_cons, Allocation.on]
  by_cases hid : h.serverId = id
  · rw [if_pos (beq_iff_eq.2 hid), if_pos hid]
    rfl
  · rw [if_neg (mt beq_iff_eq.1 hid), if_neg hid]
    rfl

theorem holdsOn_append (l : List (Reservation κ)) (h : Reservation κ) (id : String) :
    (holdsOn (l ++ [h]) id).Perm (h.allocation.on h.serverId id ++ holdsOn l id) := by
  have hperm : (l ++ [h]).Perm (h :: l) := List.perm_append_singleton h l
  rw [← holdsOn_cons]
  exact (hperm.filter _).map _

/-- Holds with ids of their own: one hold and the rest. -/
theorem perm_cons_withoutHold {l : List (Reservation κ)} (hids : (l.map (·.id)).Nodup)
    {h : Reservation κ} (hmem : h ∈ l) : l.Perm (h :: l.filter (·.id != h.id)) := by
  induction l with
  | nil => cases hmem
  | cons k rest ih =>
    rw [List.map_cons, List.nodup_cons] at hids
    rcases List.mem_cons.1 hmem with rfl | hrest
    · have hothers : rest.filter (·.id != h.id) = rest := by
        refine List.filter_eq_self.2 fun g hg => ?_
        have : g.id ≠ h.id := fun heq => hids.1 (heq ▸ List.mem_map_of_mem hg)
        simpa using this
      rw [List.filter_cons_of_neg (by simp), hothers]
    · have hne : k.id ≠ h.id := fun heq => hids.1 (heq ▸ List.mem_map_of_mem hrest)
      rw [List.filter_cons_of_pos (by simpa using hne)]
      exact ((ih hids.2 hrest).cons k).trans (.swap h k _)

variable {r : Registry κ} {issued : List (Reservation κ)}

theorem allocationsOn_hold (r : Registry κ) (t : Table (Server κ)) (hold : Reservation κ) (n : Nat)
    (id : String) :
    (allocationsOn { r with
      servers := t, pending := r.pending ++ [hold], nextReservation := n } id).Perm
      (hold.allocation.on hold.serverId id ++ r.allocationsOn id) := by
  rw [allocationsOn_eq, allocationsOn_eq]
  exact ((holdsOn_append r.pending hold id).append_left _).trans (List.perm_append_comm_assoc _ _ _)

theorem allocationsOn_withoutHold (b : Booked r issued) {hold : Reservation κ}
    (pending : hold ∈ r.pending) (t : Table (Server κ)) (id : String) :
    (r.allocationsOn id).Perm (hold.allocation.on hold.serverId id ++
      allocationsOn { r with servers := t, pending := r.withoutHold hold.id } id) := by
  have hperm := ((perm_cons_withoutHold b.pending_nodup pending).filter (·.serverId == id)).map
    (·.allocation)
  rw [allocationsOn_eq, allocationsOn_eq]
  refine (List.Perm.append_left _ ?_).trans (List.perm_append_comm_assoc _ _ _)
  rw [withoutHold, ← holdsOn_cons]
  exact hperm

theorem allocationsOn_erase {c : String} {w : Workspace κ} (found : r.workspaces.get? c = some w)
    (t : Table (Server κ)) (id : String) :
    (r.allocationsOn id).Perm (w.allocation.on w.serverId id ++
      allocationsOn { r with workspaces := r.workspaces.erase c, servers := t } id) := by
  rw [allocationsOn_eq, allocationsOn_eq, ← List.append_assoc]
  exact (recordsOn_erase found id).append_right _

/-- A hold that becomes a record under a new id. -/
theorem allocationsOn_commit [Quantity κ] (b : Booked r issued) {hold : Reservation κ}
    (pending : hold ∈ r.pending) {c : String} (new : r.workspaces.get? c = none) (now : Nat)
    (id : String) :
    (r.allocationsOn id).Perm (allocationsOn { r with
      pending := r.withoutHold hold.id
      workspaces := r.workspaces.insert c (.ofReservation hold c now) } id) := by
  have hinsert := recordsOn_insert r.workspaces c (.ofReservation hold c now) id
  rw [Table.erase_of_get?_none new] at hinsert
  refine (allocationsOn_withoutHold b pending r.servers id).trans ?_
  rw [allocationsOn_eq, allocationsOn_eq, ← List.append_assoc]
  exact hinsert.symm.append_right _

theorem allocationsOn_update {c : String} {w w' : Workspace κ}
    (found : r.workspaces.get? c = some w) (same : w.SamePlace w') (id : String) :
    (r.allocationsOn id).Perm
      (allocationsOn { r with workspaces := r.workspaces.insert c w' } id) := by
  have hinsert := recordsOn_insert r.workspaces c w' id
  rw [same.allocation, same.serverId] at hinsert
  rw [allocationsOn_eq, allocationsOn_eq]
  exact ((recordsOn_erase found id).trans hinsert.symm).append_right _

end Registry

/-! ## Exact arithmetic -/

open Quantity (tolerance)

theorem Quantity.tolerance_pos : (0 : Rat) < tolerance := by decide +kernel

theorem Quantity.larger_eq_max (x y : Rat) : Quantity.larger x y = max x y := by
  show (if x < y then y else x) = max x y
  split
  · next h => rw [max_eq_right h.le]
  · next h => rw [max_eq_left (not_lt.1 h)]

theorem Quantity.magnitude_eq_abs (x : Rat) : Quantity.magnitude x = |x| := by
  show (if x < 0 then -x else x) = |x|
  split
  · next h => rw [abs_of_neg h]
  · next h => rw [abs_of_nonneg (not_lt.1 h)]

namespace Server

variable {s : Server Rat} {a : Allocation Rat}

theorem cpuUsed_apply (s : Server Rat) (a : Allocation Rat) :
    (s.apply a).cpuUsed = s.cpuUsed + a.cpuCores := rfl

theorem cpuUsed_retract (s : Server Rat) (a : Allocation Rat) :
    (s.retract a).cpuUsed = max (s.cpuUsed - a.cpuCores) 0 :=
  Quantity.larger_eq_max _ _

theorem fits_iff : s.fits a = true ↔
    a.cpuCores ≤ s.totalCpuCores - s.cpuUsed + tolerance ∧
      a.memoryMb ≤ s.totalMemoryMb - s.memoryUsedMb ∧
      a.diskGb ≤ s.totalDiskGb - s.diskUsedGb ∧ s.workspaceCount < s.maxWorkspaces := by
  simp only [fits, Bool.and_eq_true, decide_eq_true_eq, and_assoc]
  exact Iff.rfl

theorem cpuUsed_apply_le (room : s.fits a = true) :
    (s.apply a).cpuUsed ≤ s.totalCpuCores + tolerance := by
  have hcores := (fits_iff.1 room).1
  rw [cpuUsed_apply]
  linarith

/-- What is counted is enough to take the cores off. -/
theorem underflow?_ne_cpu (enough : a.cpuCores ≤ s.cpuUsed) : s.underflow? a ≠ some .cpu := by
  have hcores : ¬ s.cpuUsed + tolerance < a.cpuCores := by
    have := Quantity.tolerance_pos
    linarith
  intro h
  rw [underflow?, if_neg hcores] at h
  split at h
  · cases h
  · split at h
    · cases h
    · split at h <;> cases h

end Server

namespace Registry

/-- What the allocations on a server come to in cores. -/
def coresOn (r : Registry Rat) (id : String) : Rat := ((r.allocationsOn id).map (·.cpuCores)).sum

variable {r r' : Registry Rat} {issued out : List (Reservation Rat)} {ws : List (Write Rat)}

theorem coresOn_of_perm {id : String} (same : (r.allocationsOn id).Perm (r'.allocationsOn id)) :
    r'.coresOn id = r.coresOn id :=
  ((same.map Allocation.cpuCores).sum_eq).symm

/-- One allocation more on a server. -/
theorem coresOn_of_on {a : Allocation Rat} {id j : String}
    (more : (r'.allocationsOn j).Perm (a.on id j ++ r.allocationsOn j)) :
    r'.coresOn j = (if id = j then a.cpuCores else 0) + r.coresOn j := by
  rw [coresOn, (more.map (·.cpuCores)).sum_eq, List.map_append, List.sum_append, Allocation.on]
  split
  · rw [List.map_singleton, List.sum_singleton]
    rfl
  · rfl

theorem cpuCores_usageOn (r : Registry Rat) (id : String) :
    (r.usageOn id).allocation.cpuCores = r.coresOn id := by
  have hfold : ∀ (l : List (Allocation Rat)) (u : Usage Rat),
      (l.foldl Usage.add u).allocation.cpuCores =
        u.allocation.cpuCores + (l.map (·.cpuCores)).sum := by
    intro l
    induction l with
    | nil => intro u; simp
    | cons a rest ih =>
      intro u
      have hadd : (u.add a).allocation.cpuCores = u.allocation.cpuCores + a.cpuCores := rfl
      rw [List.foldl_cons, ih, hadd, List.map_cons, List.sum_cons, add_assoc]
  rw [usageOn, hfold]
  exact zero_add _

theorem coresOn_nonneg {id : String} (natural : ∀ a ∈ r.allocationsOn id, 0 ≤ a.cpuCores) :
    0 ≤ r.coresOn id := by
  refine List.sum_nonneg fun x hx => ?_
  obtain ⟨a, ha, rfl⟩ := List.mem_map.1 hx
  exact natural a ha

/-- **What is counted is backed by allocations**, none of which is of less than no cores, and no
server takes more than the tolerance too much. -/
structure Backed (r : Registry Rat) : Prop where
  natural : ∀ id, ∀ a ∈ r.allocationsOn id, 0 ≤ a.cpuCores
  counted : ∀ id s, r.servers.get? id = some s → s.cpuUsed = r.coresOn id
  bounded : ∀ id s, r.servers.get? id = some s → s.cpuUsed ≤ max 0 (s.totalCpuCores + tolerance)

namespace Backed

theorem empty : Backed .empty :=
  ⟨nofun, fun id s found => absurd found (Table.get?_nothing_ne id s), Table.All.nothing⟩

/-- An allocation on a server is part of what is counted there. -/
theorem le_coresOn (h : Backed r) {id : String} {a : Allocation Rat}
    (mem : a ∈ r.allocationsOn id) : a.cpuCores ≤ r.coresOn id := by
  refine List.single_le_sum (fun x hx => ?_) _ (List.mem_map_of_mem mem)
  obtain ⟨b, hb, rfl⟩ := List.mem_map.1 hx
  exact h.natural id b hb

/-- Another server in the place of one, and no other allocations on the others. -/
theorem replace (h : Backed r) {id : String} {s' : Server Rat}
    (servers : r'.servers = r.servers.insert id s')
    (natural : ∀ j, ∀ a ∈ r'.allocationsOn j, 0 ≤ a.cpuCores)
    (here : s'.cpuUsed = r'.coresOn id)
    (room : s'.cpuUsed ≤ max 0 (s'.totalCpuCores + tolerance))
    (elsewhere : ∀ j, id ≠ j → r'.coresOn j = r.coresOn j) : Backed r' := by
  refine ⟨natural, fun j v hv => ?_, fun j v hv => ?_⟩
  · rw [servers, Table.get?_insert] at hv
    split at hv
    · next hj =>
      cases hv
      exact hj ▸ here
    · next hj => rw [h.counted j v hv, elsewhere j hj]
  · rw [servers, Table.get?_insert] at hv
    split at hv
    · cases hv
      exact room
    · exact h.bounded j v hv

/-- The same servers, and the same cores on each. -/
theorem same (h : Backed r) (servers : r'.servers = r.servers)
    (natural : ∀ j, ∀ a ∈ r'.allocationsOn j, 0 ≤ a.cpuCores)
    (cores : ∀ j s, r.servers.get? j = some s → r'.coresOn j = r.coresOn j) : Backed r' := by
  refine ⟨natural, fun j v hv => ?_, fun j v hv => ?_⟩
  · rw [servers] at hv
    rw [h.counted j v hv, cores j v hv]
  · rw [servers] at hv
    exact h.bounded j v hv

/-- One allocation is taken off a server. -/
theorem taken (h : Backed r) {id : String} {s : Server Rat} {a : Allocation Rat}
    (found : r.servers.get? id = some s)
    (servers : r'.servers = r.servers.insert id (s.retract a))
    (less : ∀ j, (r.allocationsOn j).Perm (a.on id j ++ r'.allocationsOn j)) : Backed r' := by
  have hcores := fun j => coresOn_of_on (less j)
  have hnatural : ∀ j, ∀ b ∈ r'.allocationsOn j, 0 ≤ b.cpuCores := fun j b hb =>
    h.natural j b ((less j).mem_iff.2 (List.mem_append_right _ hb))
  have hpart : 0 ≤ a.cpuCores :=
    h.natural id a ((less id).mem_iff.2 (List.mem_append_left _ (a.mem_on_self id)))
  have hhere : r.coresOn id = a.cpuCores + r'.coresOn id := by
    rw [hcores id, if_pos rfl]
  have hused : (s.retract a).cpuUsed = r'.coresOn id := by
    rw [Server.cpuUsed_retract, h.counted id s found, hhere, add_sub_cancel_left]
    exact max_eq_left (coresOn_nonneg (hnatural id))
  refine h.replace servers hnatural hused ?_ fun j hj => ?_
  · have hbefore := h.bounded id s found
    have hcounted := h.counted id s found
    show (s.retract a).cpuUsed ≤ max 0 (s.totalCpuCores + tolerance)
    linarith
  · have hj' := hcores j
    rw [if_neg hj, zero_add] at hj'
    exact hj'.symm

/-- An allocation is dropped whose server is not registered. -/
theorem dropped (h : Backed r) {id : String} {a : Allocation Rat}
    (missing : r.servers.get? id = none) (servers : r'.servers = r.servers)
    (less : ∀ j, (r.allocationsOn j).Perm (a.on id j ++ r'.allocationsOn j)) : Backed r' := by
  refine h.same servers (fun j b hb =>
    h.natural j b ((less j).mem_iff.2 (List.mem_append_right _ hb))) fun j s hs => ?_
  have hne : id ≠ j := by
    rintro rfl
    rw [missing] at hs
    cases hs
  have hj := coresOn_of_on (less j)
  rw [if_neg hne, zero_add] at hj
  exact hj.symm

/-- The same allocations. -/
theorem moved (h : Backed r) (servers : r'.servers = r.servers)
    (same : ∀ j, (r.allocationsOn j).Perm (r'.allocationsOn j)) : Backed r' :=
  h.same servers (fun j a ha => h.natural j a ((same j).mem_iff.2 ha)) fun j _ _ =>
    coresOn_of_perm (same j)

/-- **Every call keeps the cores backed**, if a commit names a container that is not recorded and
no hold is given out of less than no cores. -/
theorem effect (h : Backed r) (b : Booked r issued) (x : Exact r)
    (e : Effect r issued (Unrecorded r) r' ws out)
    (natural : ∀ hold ∈ out, 0 ≤ hold.allocation.cpuCores) : Backed r' := by
  cases e with
  | nothing => exact h
  | @added config free range =>
    have hnone : r.coresOn config.serverId = 0 := by
      rw [coresOn, allocationsOn_eq_nil (x.loadOn_none free .slots)]
      rfl
    exact h.replace rfl h.natural hnone.symm (le_max_left _ _) fun _ _ => rfl
  | @withdrawn id s found idle =>
    refine ⟨h.natural, fun j v hv => ?_, fun j v hv => ?_⟩
    · rw [Table.get?_erase] at hv
      split at hv
      · cases hv
      · exact h.counted j v hv
    · rw [Table.get?_erase] at hv
      split at hv
      · cases hv
      · exact h.bounded j v hv
  | @checked id s check found range =>
    exact h.replace rfl h.natural (h.counted id s found) (h.bounded id s found) fun _ _ => rfl
  | @held id s a found room range =>
    have hmore := allocationsOn_hold r (r.servers.insert id (s.apply a))
      ⟨r.nextReservation, id, a⟩ ((r.nextReservation + 1) % word64)
    have hcores := fun j => coresOn_of_on (hmore j)
    refine h.replace rfl (fun j b hb => ?_) ?_ ?_ fun j hj => ?_
    · rcases List.mem_append.1 ((hmore j).mem_iff.1 hb) with hnew | hold
      · rw [Allocation.on] at hnew
        split at hnew
        · rw [List.mem_singleton.1 hnew]
          exact natural _ (List.mem_singleton_self _)
        · cases hnew
      · exact h.natural j b hold
    · rw [hcores, if_pos rfl, Server.cpuUsed_apply, h.counted id s found, add_comm]
    · exact (Server.cpuUsed_apply_le room).trans (le_max_right _ _)
    · rw [hcores, if_neg hj, zero_add]
  | @released hold s pending found =>
    exact h.taken found rfl (allocationsOn_withoutHold b pending _)
  | @forgotten hold pending missing =>
    exact h.dropped missing rfl (allocationsOn_withoutHold b pending r.servers)
  | @committed hold held c now given pending same named range =>
    obtain rfl := b.held_eq given pending same
    exact h.moved rfl (allocationsOn_commit b pending named now)
  | updated found same range => exact h.moved rfl (allocationsOn_update found same)
  | @removed c w s found server => exact h.taken server rfl (allocationsOn_erase found _)
  | @strayed c w found missing => exact h.dropped missing rfl (allocationsOn_erase found r.servers)
  | reconciled =>
    have hsettled : ∀ j v, r.reconcile.registry.servers.get? j = some v →
        ∃ s, r.servers.get? j = some s ∧ v.cpuUsed = r.coresOn j ∧
          v.totalCpuCores = s.totalCpuCores := by
      intro j v hv
      rw [get?_reconcile b.keyed, Option.map_eq_some_iff] at hv
      obtain ⟨s, hs, rfl⟩ := hv
      refine ⟨s, hs, ?_⟩
      unfold settled
      split
      · exact ⟨cpuCores_usageOn r j, rfl⟩
      · exact ⟨h.counted j s hs, rfl⟩
    refine ⟨h.natural, fun j v hv => ?_, fun j v hv => ?_⟩
    · obtain ⟨s, -, hused, -⟩ := hsettled j v hv
      exact hused
    · obtain ⟨s, hs, hused, htotal⟩ := hsettled j v hv
      rw [hused, htotal, ← h.counted j s hs]
      exact h.bounded j s hs

end Backed

/-! ## Histories -/

/-- Every commit named a container that was not recorded. -/
def NewContainers (log : List (Entry Rat)) : Prop :=
  ∀ e ∈ log, ∀ c, e.commits c = true → e.found.workspaces.contains c = false

/-- A call keeps the promise that commits name new containers if those that succeed do. -/
theorem Entry.effect_unrecorded {call : Call Rat} (permitted : call.Permitted issued fun _ => True)
    (new : ∀ c, Entry.commits c ⟨r, call⟩ = true → r.workspaces.contains c = false) :
    Effect r issued (Unrecorded r) (call.change r).registry (call.change r).writes
      (call.change r).result := by
  cases call with
  | commit hold c now =>
    cases hresult : (r.commit hold c now).result with
    | ok w =>
      have hnew : r.workspaces.contains c = false :=
        new c (by simp only [Entry.commits, hresult, beq_self_eq_true]; rfl)
      exact commit_effect r permitted.1 (Table.contains_eq_false_iff.1 hnew) permitted.2.2
    | error e =>
      have hsame : r.commit hold c now = r.unchanged (.error e) := by
        cases hhold : r.hold? hold.id with
        | none =>
          simp only [commit, hhold] at hresult ⊢
          rw [← hresult]
          rfl
        | some held =>
          simp only [commit, hhold] at hresult
          cases hresult
      simp only [Call.change, Change.map, hsame]
      exact .nothing
  | _ => exact change_effect permitted

/-- Every hold is part of what is counted on its server, which is registered. -/
theorem release_ok (h : Backed r) (b : Booked r issued) (x : Exact r) {hold : Reservation Rat}
    (given : hold ∈ issued) : ∃ answer, (r.release hold).result = .ok answer := by
  cases hresult : (r.release hold).result with
  | ok answer => exact ⟨answer, rfl⟩
  | error e =>
    obtain ⟨held, hmem, hid, hcause⟩ := release_eq_error hresult
    obtain rfl := b.held_eq given hmem hid
    have hneeds := b.needs_le hmem
    rcases hcause with ⟨missing, -⟩ | ⟨s, counter, hs, hunder, -⟩
    · obtain ⟨s, hs⟩ := x.exists_server (hneeds .slots)
      rw [missing] at hs
      cases hs
    · have hcpu : counter = .cpu :=
        Server.underflow?_eq_cpu (fun q => x.used_eq hs q ▸ hneeds q) hunder
      have hperm := allocationsOn_withoutHold b hmem r.servers held.serverId
      have hpart : held.allocation ∈ r.allocationsOn held.serverId :=
        hperm.mem_iff.2 (List.mem_append_left _ (held.allocation.mem_on_self _))
      have henough : held.allocation.cpuCores ≤ s.cpuUsed :=
        h.counted _ s hs ▸ h.le_coresOn hpart
      rw [hcpu] at hunder
      exact absurd hunder (Server.underflow?_ne_cpu henough)

variable {log : List (Entry Rat)}

theorem History.backed (h : History r issued log) (new : NewContainers log)
    (natural : ∀ hold ∈ issued, 0 ≤ hold.allocation.cpuCores) : r.Exact ∧ r.Backed := by
  induction h with
  | empty => exact ⟨.empty, .empty⟩
  | @called r issued log call before permitted ih =>
    obtain ⟨hexact, hbacked⟩ := ih (fun e he => new e (List.mem_append_left _ he))
      fun hold hmem => natural hold (List.mem_append_left _ hmem)
    have heffect := Entry.effect_unrecorded permitted
      (new ⟨r, call⟩ (List.mem_append_right _ (List.mem_singleton_self _)))
    have hsound := before.sound
    exact ⟨hexact.effect hsound.booked hsound.counted heffect,
      hbacked.effect hsound.booked hexact heffect
        fun hold hmem => natural hold (List.mem_append_right _ hmem)⟩

/-- **Cores are never overcommitted**, by holds of no negative number of cores. Whatever was called,
in whatever order: a server with cores counts no less than none and no more than it has and the
tolerance, and no hold that was given out fails to be released. -/
theorem History.cores_bounded (h : History r issued log) (new : NewContainers log)
    (natural : ∀ hold ∈ issued, 0 ≤ hold.allocation.cpuCores) :
    (∀ id s, r.servers.get? id = some s → 0 < s.totalCpuCores →
      0 ≤ s.cpuUsed ∧ s.cpuUsed ≤ s.totalCpuCores + tolerance) ∧
    ∀ hold ∈ issued, ∃ answer, (r.release hold).result = .ok answer := by
  obtain ⟨hexact, hbacked⟩ := h.backed new natural
  refine ⟨fun id s found positive => ⟨?_, ?_⟩, fun hold given =>
    release_ok hbacked h.sound.booked hexact given⟩
  · rw [hbacked.counted id s found]
    exact coresOn_nonneg (hbacked.natural id)
  · have htotal : 0 ≤ s.totalCpuCores + tolerance := by
      have := Quantity.tolerance_pos
      linarith
    exact (hbacked.bounded id s found).trans_eq (max_eq_right htotal)

namespace CoresRun

/-- The sample server is registered. -/
def added : Registry Rat := ((Call.addServer SampleRun.config).change .empty).registry

/-- A hold of some cores and nothing else. -/
def lend (r : Registry Rat) (cores : Rat) : Change Rat (List (Reservation Rat)) :=
  (Call.reserve "a" ⟨cores, 0, 0⟩).change r

/-- Two holds are taken. -/
def lent (x y : Rat) : Registry Rat := (lend (lend added x).registry y).registry

theorem lend_permitted {issued : List (Reservation Rat)} (few : issued.length ≤ 1) (x : Rat) :
    (Call.reserve "a" ⟨x, 0, 0⟩).Permitted issued fun _ => True :=
  ⟨⟨show 0 < word64 by decide, show 0 < word64 by decide⟩,
    Nat.lt_of_le_of_lt (Nat.succ_le_succ few) (by decide)⟩

theorem lend_history (x y : Rat) : ∃ log,
    History (lent x y) ((lend added x).result ++ (lend (lend added x).registry y).result) log ∧
      NewContainers log := by
  have hadded := History.empty.called
    (show (Call.addServer SampleRun.config : Call Rat).Permitted [] _ from SampleRun.config_inRange)
  have hone : (lend added x).result.length ≤ 1 := Call.length_given_le added _
  have hheld := (hadded.called (lend_permitted (show [].length ≤ 1 by decide) x)).called
    (lend_permitted hone y)
  refine ⟨_, hheld, fun e he c hcommits => ?_⟩
  simp only [List.nil_append, List.cons_append, List.mem_cons, List.not_mem_nil, or_false] at he
  rcases he with rfl | rfl | rfl <;> cases hcommits

/-- What the sample server has in cores, and how many it counts as used. -/
theorem server_of_map {r : Registry Rat} {total used : Rat}
    (h : (r.servers.get? "a").map (fun s => (s.totalCpuCores, s.cpuUsed)) = some (total, used)) :
    ∃ s, r.servers.get? "a" = some s ∧ s.totalCpuCores = total ∧ s.cpuUsed = used := by
  obtain ⟨s, hs, heq⟩ := Option.map_eq_some_iff.1 h
  exact ⟨s, hs, congrArg Prod.fst heq, congrArg Prod.snd heq⟩

end CoresRun

open CoresRun in
/-- Two holds of one core. -/
theorem cores_bounded_lent : ∃ issued log s, History (lent 1 1) issued log ∧
    (lent 1 1).servers.get? "a" = some s ∧ s.cpuUsed = 2 ∧
    s.cpuUsed ≤ s.totalCpuCores + tolerance ∧
    ∃ answer, ((lent 1 1).release ⟨2, "a", ⟨1, 0, 0⟩⟩).result = .ok answer := by
  obtain ⟨log, hhistory, hnew⟩ := lend_history 1 1
  have hissued : (lend added 1).result ++ (lend (lend added 1).registry 1).result =
      [⟨1, "a", ⟨1, 0, 0⟩⟩, ⟨2, "a", ⟨1, 0, 0⟩⟩] := by decide +kernel
  rw [hissued] at hhistory
  have hnatural : ∀ hold ∈ [(⟨1, "a", ⟨1, 0, 0⟩⟩ : Reservation Rat), ⟨2, "a", ⟨1, 0, 0⟩⟩],
      0 ≤ hold.allocation.cpuCores := by
    intro hold hmem
    rcases List.mem_pair.1 hmem with rfl | rfl <;> decide
  obtain ⟨hcores, hreleases⟩ := hhistory.cores_bounded hnew hnatural
  obtain ⟨s, hs, htotal, hused⟩ : ∃ s, (lent 1 1).servers.get? "a" = some s ∧
      s.totalCpuCores = 4 ∧ s.cpuUsed = 2 := server_of_map (by decide +kernel)
  exact ⟨_, log, s, hhistory, hs, hused,
    (hcores "a" s hs (by rw [htotal]; decide)).2,
    hreleases _ (List.mem_cons_of_mem _ List.mem_cons_self)⟩

open CoresRun in
/-- **What a hold of a negative number of cores does.** The server counts less than no cores, and a
hold of one core cannot be released without an error; or, once it is released, the server counts
more cores than it has. -/
theorem cores_underflow :
    (∃ issued log s, History (lent (-1) 0) issued log ∧ NewContainers log ∧
      (lent (-1) 0).servers.get? "a" = some s ∧ s.totalCpuCores = 4 ∧ s.cpuUsed = -1) ∧
    (∃ issued log, History (lent (-1) 1) issued log ∧ NewContainers log ∧
      ⟨2, "a", ⟨1, 0, 0⟩⟩ ∈ issued ∧
      ((lent (-1) 1).release ⟨2, "a", ⟨1, 0, 0⟩⟩).result =
        .error (.counterUnderflow "a" .cpu)) ∧
    ∃ issued log s, History (lent (-4) 8) issued log ∧ NewContainers log ∧
      ⟨1, "a", ⟨-4, 0, 0⟩⟩ ∈ issued ∧
      ((lent (-4) 8).release ⟨1, "a", ⟨-4, 0, 0⟩⟩).registry.servers.get? "a" = some s ∧
      s.totalCpuCores = 4 ∧ s.cpuUsed = 8 := by
  refine ⟨?_, ?_, ?_⟩
  · obtain ⟨log, hhistory, hnew⟩ := lend_history (-1) 0
    obtain ⟨s, hserver⟩ : ∃ s, (lent (-1) 0).servers.get? "a" = some s ∧ s.totalCpuCores = 4 ∧
        s.cpuUsed = -1 := server_of_map (by decide +kernel)
    exact ⟨_, log, s, hhistory, hnew, hserver⟩
  · obtain ⟨log, hhistory, hnew⟩ := lend_history (-1) 1
    exact ⟨_, log, hhistory, hnew, by decide +kernel, by decide +kernel⟩
  · obtain ⟨log, hhistory, hnew⟩ := lend_history (-4) 8
    obtain ⟨s, hserver⟩ : ∃ s, ((lent (-4) 8).release ⟨1, "a", ⟨-4, 0, 0⟩⟩).registry.servers.get?
        "a" = some s ∧ s.totalCpuCores = 4 ∧ s.cpuUsed = 8 := server_of_map (by decide +kernel)
    exact ⟨_, log, s, hhistory, hnew, by decide +kernel, hserver⟩

end Registry
end WorkspaceFleet
