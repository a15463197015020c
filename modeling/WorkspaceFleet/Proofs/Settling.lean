import WorkspaceFleet.Proofs.History
import WorkspaceFleet.Proofs.Operations

/-!
# WorkspaceFleet.Proofs.Settling

What a round that is alone does to the records.

A round plans a check for every record whose server is registered and not offline
(`planned_checks`), and drops the records of the containers that were planned and found gone
(`without_settleWorkspaces`). Every other record keeps its server and its allocation, also where it
is marked or its health changes.
-/

namespace WorkspaceFleet

variable {κ χ : Type}

namespace Workspace.SamePlace

theorem refl (w : Workspace κ) : w.SamePlace w := ⟨rfl, rfl, rfl⟩

theorem trans {w w' w'' : Workspace κ} (h : w.SamePlace w') (h' : w'.SamePlace w'') :
    w.SamePlace w'' :=
  ⟨h'.containerId.trans h.containerId, h'.serverId.trans h.serverId,
    h'.allocation.trans h.allocation⟩

end Workspace.SamePlace

/-- Every record is listed. -/
theorem Registry.mem_listWorkspaces {r : Registry κ} {w : Workspace κ} :
    w ∈ r.listWorkspaces ↔ ∃ id, r.workspaces.get? id = some w := by
  rw [listWorkspaces, List.mem_mergeSort, Table.mem_values_iff]

/-- The records that are listed are of different containers. -/
theorem Registry.listWorkspaces_nodup {r : Registry κ}
    (filed : r.workspaces.Keyed Workspace.containerId) :
    (r.listWorkspaces.map Workspace.containerId).Nodup := by
  have hperm : (r.listWorkspaces.map Workspace.containerId).Perm
      (r.workspaces.values.map Workspace.containerId) := (List.mergeSort_perm _ _).map _
  rw [hperm.nodup_iff, filed.keys_eq]
  exact r.workspaces.keys_nodup

namespace Monitor

/-- The records of some containers are gone, and every other is where it was. -/
structure Without (lost : String → Prop) (t t' : Table (Workspace κ)) : Prop where
  gone : ∀ id, lost id → t'.get? id = none
  kept : ∀ id, ¬ lost id → (t.get? id = none ∧ t'.get? id = none) ∨
    ∃ w w', t.get? id = some w ∧ t'.get? id = some w' ∧ w.SamePlace w'

namespace Without

variable {P Q : String → Prop} {t u v : Table (Workspace κ)}

theorem refl (t : Table (Workspace κ)) : Without (fun _ => False) t t where
  gone _ h := h.elim
  kept id _ := by
    cases h : t.get? id with
    | none => exact .inl ⟨rfl, rfl⟩
    | some w => exact .inr ⟨w, w, rfl, rfl, .refl w⟩

theorem trans (h : Without P t u) (h' : Without Q u v) : Without (fun id => P id ∨ Q id) t v where
  gone id hid := by
    by_cases hQ : Q id
    · exact h'.gone id hQ
    · have hu := h.gone id (hid.resolve_right hQ)
      rcases h'.kept id hQ with ⟨-, hv⟩ | ⟨w, w', hw, -, -⟩
      · exact hv
      · rw [hu] at hw
        cases hw
  kept id hid := by
    have hP : ¬ P id := fun hP => hid (.inl hP)
    have hQ : ¬ Q id := fun hQ => hid (.inr hQ)
    rcases h.kept id hP with ⟨ht, hu⟩ | ⟨w, w', ht, hu, hsame⟩
    · rcases h'.kept id hQ with ⟨-, hv⟩ | ⟨w, w', hw, -, -⟩
      · exact .inl ⟨ht, hv⟩
      · rw [hu] at hw
        cases hw
    · rcases h'.kept id hQ with ⟨hnone, -⟩ | ⟨w₁, w₂, hw₁, hv, hsame'⟩
      · rw [hu] at hnone
        cases hnone
      · rw [hu] at hw₁
        cases hw₁
        exact .inr ⟨w, w₂, ht, hv, hsame.trans hsame'⟩

theorem congr (h : Without P t u) (same : ∀ id, Q id ↔ P id) : Without Q t u where
  gone id hid := h.gone id ((same id).1 hid)
  kept id hid := h.kept id fun hP => hid ((same id).2 hP)

/-- A step after which no more is gone. -/
theorem trans_refl (h : Without (fun _ => False) t u) (h' : Without P u v) : Without P t v :=
  (h.trans h').congr fun _ => (false_or _).to_iff.symm

theorem get?_eq_none_iff (h : Without P t u) {id : String} {w : Workspace κ}
    (found : t.get? id = some w) : u.get? id = none ↔ P id := by
  refine ⟨fun hnone => ?_, h.gone id⟩
  by_contra hid
  rcases h.kept id hid with ⟨ht, -⟩ | ⟨w₁, w', -, hu, -⟩
  · rw [found] at ht
    cases ht
  · rw [hnone] at hu
    cases hu

theorem exists_kept (h : Without P t u) {id : String} {w : Workspace κ}
    (found : t.get? id = some w) (there : u.get? id ≠ none) :
    ∃ w', u.get? id = some w' ∧ w.SamePlace w' := by
  rcases h.kept id (mt (h.gone id) there) with ⟨ht, -⟩ | ⟨w₁, w', hw₁, hu, hsame⟩
  · rw [found] at ht
    cases ht
  · rw [found] at hw₁
    cases hw₁
    exact ⟨w', hu, hsame⟩

theorem erase (t : Table (Workspace κ)) (id : String) : Without (· = id) t (t.erase id) where
  gone j hj := by rw [hj, Table.get?_erase_self]
  kept j hj := by
    rw [Table.get?_erase, if_neg fun h => hj h.symm]
    cases h : t.get? j with
    | none => exact .inl ⟨rfl, rfl⟩
    | some w => exact .inr ⟨w, w, rfl, rfl, .refl w⟩

theorem insert {id : String} {w w' : Workspace κ} (found : t.get? id = some w)
    (same : w.SamePlace w') : Without (fun _ => False) t (t.insert id w') where
  gone _ h := h.elim
  kept j _ := by
    rw [Table.get?_insert]
    split
    · next hj => exact .inr ⟨w, w', hj ▸ found, rfl, same⟩
    · cases h : t.get? j with
      | none => exact .inl ⟨rfl, rfl⟩
      | some w => exact .inr ⟨w, w, rfl, rfl, .refl w⟩

end Without

theorem without_updateWorkspace (r : Registry κ) (id : String)
    {change : Workspace κ → Workspace κ} (same : ∀ w : Workspace κ, w.SamePlace (change w)) :
    Without (fun _ => False) r.workspaces (r.updateWorkspace id change).registry.workspaces := by
  cases h : r.workspaces.get? id with
  | none =>
    simp only [Registry.updateWorkspace, h]
    exact .refl r.workspaces
  | some w =>
    simp only [Registry.updateWorkspace, h]
    exact .insert h (same w)

theorem skipReason?_eq_none {servers : Table (Server κ)} {w : Workspace κ} :
    skipReason? servers w = none ↔
      ∃ s, servers.get? w.serverId = some s ∧ s.status ≠ .offline := by
  rw [skipReason?]
  cases servers.get? w.serverId with
  | none => simp
  | some s => simp

/-- The check that is planned for a workspace, if its server is asked. -/
def checkOf? (c : MonitorConfig) (servers : Table (Server κ)) (w : Workspace κ) :
    Option (String × Check κ (Observation κ)) :=
  match skipReason? servers w with
  | some _ => none
  | none => some (w.containerId, .workspace c w.serverId w.containerId)

theorem planned_sublist {c : MonitorConfig} (servers : Table (Server κ)) (ws : List (Workspace κ)) :
    ((ws.filterMap (checkOf? c servers)).map Prod.fst).Sublist (ws.map Workspace.containerId) := by
  induction ws with
  | nil => exact .slnil
  | cons w rest ih =>
    rw [List.filterMap_cons, checkOf?]
    cases skipReason? servers w with
    | some reason => exact ih.cons w.containerId
    | none => exact ih.cons_cons w.containerId

/-- Of several findings under different ids each is found. -/
theorem found_of_mem {findings : List (String × Observation κ)} {id : String}
    {finding : Observation κ} (distinct : (findings.map Prod.fst).Nodup)
    (h : (id, finding) ∈ findings) : found findings id = finding := by
  obtain ⟨before, later, hsplit⟩ := List.append_of_mem (List.mem_reverse.2 h)
  have hlookup : findings.reverse.lookup id = some finding := by
    refine List.lookup_eq_some_iff.2 ⟨before, later, hsplit, fun p hp => ?_⟩
    rw [← List.nodup_reverse, ← List.map_reverse, hsplit, List.map_append, List.map_cons,
      List.nodup_append] at distinct
    have hne := distinct.2.2 p.1 (List.mem_map_of_mem hp) id List.mem_cons_self
    exact bne_iff_ne.2 hne.symm
  rw [found, arrived?, hlookup, Option.getD_some]

variable [Quantity κ]

/-- What the call does that settles a finding. -/
theorem without_callOf (c : MonitorConfig) (now : Nat) (id : String) (finding : Observation κ)
    (r : Registry κ) :
    Without (fun j => j = id ∧ ∃ state, finding = .gone state) r.workspaces
      ((callOf c now id finding).change r).registry.workspaces := by
  have update : ∀ change : Workspace κ → Workspace κ, (∀ w : Workspace κ, w.SamePlace (change w)) →
      (∀ state, finding ≠ .gone state) →
      Without (fun j => j = id ∧ ∃ state, finding = .gone state) r.workspaces
        (r.updateWorkspace id change).registry.workspaces := fun change same found =>
    (without_updateWorkspace r id same).congr fun j =>
      iff_of_false (fun ⟨_, state, h⟩ => found state h) fun h => h
  cases finding with
  | gone state =>
    show Without _ _ (r.removeWorkspace id).registry.workspaces
    rw [Registry.workspaces_removeWorkspace]
    exact (Without.erase r.workspaces id).congr fun j => and_iff_left ⟨state, rfl⟩
  | running stats result error => exact update _ (samePlace_probed c now result error _) nofun
  | unreachable cause => exact update _ (samePlace_probed c now .failed (some cause) none) nofun

variable {c : MonitorConfig} {now : Nat} {f : Fleet κ χ}

/-! ## Planning -/

theorem without_updateHealth (f : Fleet κ χ) (id : String) {change : Workspace κ → Workspace κ}
    (same : ∀ w : Workspace κ, w.SamePlace (change w)) :
    Without (fun _ => False) f.registry.workspaces
      (updateHealth f id change).2.registry.workspaces := by
  rw [Fleet.registry, Fleet.registry, ledger_updateHealth]
  exact without_updateWorkspace f.registry id same

/-- One workspace more is planned. -/
theorem planWorkspace_planned (markedAt : String → Nat) (servers : Table (Server κ))
    (acc : (Nat × List (String × Check κ (Observation κ))) × Fleet κ χ) (w : Workspace κ) :
    (planWorkspace c markedAt servers acc w).1.2 = acc.1.2 ++ (checkOf? c servers w).toList ∧
      Without (fun _ => False) acc.2.registry.workspaces
        (planWorkspace c markedAt servers acc w).2.registry.workspaces := by
  cases hskip : skipReason? servers w with
  | some reason =>
    simp only [planWorkspace, checkOf?, hskip]
    exact ⟨(List.append_nil _).symm, without_updateHealth _ _ fun _ => ⟨rfl, rfl, rfl⟩⟩
  | none =>
    simp only [planWorkspace, checkOf?, hskip]
    exact ⟨rfl, .refl _⟩

theorem foldl_planned (markedAt : String → Nat) (servers : Table (Server κ))
    (ws : List (Workspace κ))
    (acc : (Nat × List (String × Check κ (Observation κ))) × Fleet κ χ) :
    (ws.foldl (planWorkspace c markedAt servers) acc).1.2 =
        acc.1.2 ++ ws.filterMap (checkOf? c servers) ∧
      Without (fun _ => False) acc.2.registry.workspaces
        (ws.foldl (planWorkspace c markedAt servers) acc).2.registry.workspaces := by
  induction ws generalizing acc with
  | nil => exact ⟨(List.append_nil _).symm, .refl _⟩
  | cons w rest ih =>
    obtain ⟨hcheck, hmarked⟩ := planWorkspace_planned (c := c) markedAt servers acc w
    obtain ⟨hchecks, hrecords⟩ := ih (planWorkspace c markedAt servers acc w)
    refine ⟨?_, hmarked.trans_refl hrecords⟩
    rw [List.foldl_cons, hchecks, hcheck, List.append_assoc, List.filterMap_cons]
    cases checkOf? c servers w <;> rfl

/-- **What a round plans**: a check for every record whose server is asked. No record is gone. -/
theorem planWorkspaces_planned (c : MonitorConfig) (now : Nat) (f : Fleet κ χ) :
    (planWorkspaces c now f).2.1 =
        f.registry.listWorkspaces.filterMap (checkOf? c f.registry.servers) ∧
      Without (fun _ => False) f.registry.workspaces
        (planWorkspaces c now f).2.2.registry.workspaces := by
  rw [planWorkspaces_eq]
  exact foldl_planned _ _ _ _

/-- A check is planned under the id of a record, for its container on its server. -/
theorem mem_planned {id : String} {check : Check κ (Observation κ)}
    (filed : f.registry.workspaces.Keyed Workspace.containerId)
    (h : (id, check) ∈ (planWorkspaces c now f).2.1) :
    ∃ w, f.registry.workspaces.get? id = some w ∧
      (∃ s, f.registry.servers.get? w.serverId = some s ∧ s.status ≠ .offline) ∧
      check = .workspace c w.serverId id := by
  rw [(planWorkspaces_planned c now f).1, List.mem_filterMap] at h
  obtain ⟨w, hw, hcheck⟩ := h
  obtain ⟨k, hk⟩ := Registry.mem_listWorkspaces.1 hw
  rw [checkOf?] at hcheck
  split at hcheck
  · cases hcheck
  · next hasked =>
    cases hcheck
    rw [filed k w hk]
    exact ⟨w, hk, skipReason?_eq_none.1 hasked, rfl⟩

/-- No two checks are planned under one id. -/
theorem planned_nodup (filed : f.registry.workspaces.Keyed Workspace.containerId) :
    ((planWorkspaces c now f).2.1.map Prod.fst).Nodup := by
  rw [(planWorkspaces_planned c now f).1]
  exact (planned_sublist _ _).nodup (Registry.listWorkspaces_nodup filed)

/-! ## Settling -/

theorem mem_settlingOrder {planned : List String} {id : String} :
    id ∈ settlingOrder planned ↔ id ∈ planned := by
  rw [settlingOrder, List.mem_eraseDups, List.mem_mergeSort]

theorem without_settleWorkspace (findings : List (String × Observation κ))
    (acc : WorkspaceSummary × Fleet κ χ) (id : String) :
    Without (fun j => j = id ∧ ∃ state, found findings id = .gone state)
      acc.2.registry.workspaces (settleWorkspace c now findings acc id).2.registry.workspaces := by
  rw [Fleet.registry, Fleet.registry, ledger_settleWorkspace]
  exact without_callOf c now id (found findings id) acc.2.registry

theorem foldl_settled (findings : List (String × Observation κ)) (keys : List String)
    (acc : WorkspaceSummary × Fleet κ χ) :
    Without (fun j => j ∈ keys ∧ ∃ state, found findings j = .gone state)
      acc.2.registry.workspaces
      (keys.foldl (settleWorkspace c now findings) acc).2.registry.workspaces := by
  induction keys generalizing acc with
  | nil => exact (Without.refl _).congr fun j => by simp
  | cons id rest ih =>
    refine ((without_settleWorkspace findings acc id).trans (ih _)).congr fun j => ?_
    rw [List.mem_cons, or_and_right]
    refine or_congr_left (and_congr_right ?_)
    rintro rfl
    exact Iff.rfl

/-- **What a round drops**: the records of the containers that were planned and found gone. -/
theorem without_settleWorkspaces (c : MonitorConfig) (now skipped : Nat) (planned : List String)
    (findings : List (String × Observation κ)) (f : Fleet κ χ) :
    Without (fun id => id ∈ planned ∧ ∃ state, found findings id = .gone state)
      f.registry.workspaces
      (settleWorkspaces c now skipped planned findings f).2.registry.workspaces := by
  show Without _ _ (reconcile ((settlingOrder planned).foldl (settleWorkspace c now findings)
    (⟨0, 0, skipped, 0, 0⟩, f)).2).2.registry.workspaces
  rw [Fleet.registry, Fleet.registry, ledger_reconcile]
  exact (foldl_settled findings (settlingOrder planned) (⟨0, 0, skipped, 0, 0⟩, f)).congr
    fun id => and_congr_left fun _ => mem_settlingOrder.symm

end Monitor
end WorkspaceFleet
