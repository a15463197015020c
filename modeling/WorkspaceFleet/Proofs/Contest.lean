import Mathlib.Data.List.Induction
import Mathlib.Data.String.Basic
import Mathlib.Tactic.Ring
import WorkspaceFleet.Proofs.Filling

/-!
# WorkspaceFleet.Proofs.Contest

What a left-to-right comparison of scores comes to.

Utilizations within the tolerance of each other count as equal, and of three of them the first may
be within the tolerance of the second and the second of the third, but not the first of the third.
So the order of preference is a relation between two scores at a time (`Score.Ahead`) that need not
be transitive, and the comparison is a contest in which the best so far meets the next.

* A score that is ahead of all others wins however they are listed (`Leads.first?_eq`).
* The last one is not ahead of a winner before it (`ne_gt_of_first?_concat`); as any may be the
  last, only a score that is ahead of all others can win however they are listed.
* Each meeting costs at most the tolerance (`first?_le_add`).
* Where being within the tolerance is transitive, so is the order, and there is a score that is
  ahead of all others (`exists_leads`).
-/

namespace WorkspaceFleet
namespace Score

open Quantity (tolerance tolerance_pos)

/-! ## The contest -/

section Contest

variable {κ : Type} {order : Score κ → Score κ → Ordering} {scores : List (Score κ)}

/-- One more score meets the best of those before it. -/
theorem first?_concat {best : Score κ} (h : first? order scores = some best) (x : Score κ) :
    first? order (scores ++ [x]) = some (if order best x = .gt then x else best) := by
  cases scores with
  | nil => cases h
  | cons s rest =>
    cases h
    rw [List.cons_append, first?, List.foldl_append]
    rfl

/-- The last score is not ahead of the winner. -/
theorem ne_gt_of_first?_concat {w x : Score κ} (h : first? order (scores ++ [x]) = some w)
    (other : w ≠ x) : first? order scores = some w ∧ order w x ≠ .gt := by
  cases hbest : first? order scores with
  | none =>
    rw [first?_eq_none_iff.1 hbest] at h
    cases h
    exact absurd rfl other
  | some best =>
    rw [first?_concat hbest] at h
    split at h
    · cases h
      exact absurd rfl other
    · next hle =>
      cases h
      exact ⟨rfl, hle⟩

/-- The order tells the scores of any two servers apart, and says the same of them both ways. -/
structure Decisive (order : Score κ → Score κ → Ordering) : Prop where
  swapped : ∀ x y, order y x = (order x y).swap
  decided : ∀ x y, order x y = .eq → x.serverId = y.serverId

theorem Decisive.flip (h : Decisive order) : Decisive fun x y => order y x where
  swapped x y := h.swapped y x
  decided x y heq := (h.decided y x heq).symm

theorem Decisive.lt_of_ne_gt (h : Decisive order) {x y : Score κ} (other : y.serverId ≠ x.serverId)
    (hle : order x y ≠ .gt) : order x y = .lt := by
  cases hxy : order x y with
  | lt => rfl
  | eq => exact absurd (h.decided x y hxy).symm other
  | gt => exact absurd hxy hle

/-- The score is ahead of every score of another server. -/
structure Leads (order : Score κ → Score κ → Ordering) (scores : List (Score κ)) (w : Score κ) :
    Prop where
  mem : w ∈ scores
  ahead : ∀ x ∈ scores, x.serverId ≠ w.serverId → order w x = .lt

/-- **The score that is ahead of all others wins**, wherever it is listed. -/
theorem Leads.first?_eq (decisive : Decisive order)
    (distinct : (scores.map Score.serverId).Nodup) {w : Score κ} (leads : Leads order scores w) :
    first? order scores = some w := by
  induction scores using List.reverseRecOn with
  | nil => cases leads.mem
  | append_singleton before x ih =>
    have hearlier : ∀ y ∈ before, y.serverId ≠ x.serverId := by
      intro y hy same
      rw [List.map_append, List.nodup_append] at distinct
      exact distinct.2.2 _ (List.mem_map_of_mem hy) _ (List.mem_singleton_self _) same
    rcases List.mem_append.1 leads.mem with hw | hw
    · -- the winner so far meets one that is behind it
      have hbefore : first? order before = some w := by
        refine ih (distinct.sublist ((List.sublist_append_left before [x]).map _)) ⟨hw, ?_⟩
        exact fun y hy => leads.ahead y (List.mem_append_left _ hy)
      have hlt := leads.ahead x (by simp) (hearlier w hw).symm
      rw [first?_concat hbefore, hlt]
      rfl
    · -- whoever has won so far is behind the last one
      cases List.mem_singleton.1 hw
      cases hbest : first? order before with
      | none =>
        rw [first?_eq_none_iff.1 hbest]
        rfl
      | some best =>
        have hmem := mem_of_first? hbest
        have hlt := leads.ahead best (List.mem_append_left _ hmem) (hearlier best hmem)
        rw [first?_concat hbest, decisive.swapped, hlt]
        rfl

/-- **Each meeting costs at most a constant**, so that the winner is off by one of them for each
score but one. -/
theorem first?_le_add {f : Score κ → Rat} {cost : Rat} (nonneg : 0 ≤ cost)
    (after : ∀ x y, order x y = .gt → f y ≤ f x + cost)
    (before : ∀ x y, order x y ≠ .gt → f x ≤ f y + cost) {w : Score κ}
    (h : first? order scores = some w) :
    ∀ x ∈ scores, f w ≤ f x + ((scores.length - 1 : Nat) : Rat) * cost := by
  induction scores using List.reverseRecOn generalizing w with
  | nil => cases h
  | append_singleton earlier y ih =>
    have hlast : ((earlier ++ [y]).length - 1 : Nat) = earlier.length := by simp
    rw [hlast]
    cases hbest : first? order earlier with
    | none =>
      rw [first?_eq_none_iff.1 hbest] at h ⊢
      cases h
      intro x hx
      cases List.mem_singleton.1 hx
      simp
    | some best =>
      have hpos : 0 < earlier.length := List.length_pos_of_mem (mem_of_first? hbest)
      have hsplit : ((earlier.length : Nat) : Rat) * cost =
          ((earlier.length - 1 : Nat) : Rat) * cost + cost := by
        rw [Nat.cast_pred hpos]
        ring
      have hsome : 0 ≤ ((earlier.length - 1 : Nat) : Rat) * cost :=
        mul_nonneg (Nat.cast_nonneg _) nonneg
      have hearlier := ih hbest
      rw [first?_concat hbest] at h
      rw [hsplit]
      intro x hx
      split at h
      · next hgt =>
        cases h
        have hstep := after best y hgt
        rcases List.mem_append.1 hx with hx | hx
        · linarith [hearlier x hx]
        · cases List.mem_singleton.1 hx
          linarith
      · next hle =>
        cases h
        have hstep := before w y hle
        rcases List.mem_append.1 hx with hx | hx
        · linarith [hearlier x hx]
        · cases List.mem_singleton.1 hx
          linarith

/-- **Where the order is transitive** some score is ahead of all others. -/
theorem exists_leads (decisive : Decisive order)
    (trans : ∀ x ∈ scores, ∀ y ∈ scores, ∀ z ∈ scores,
      order x y ≠ .gt → order y z ≠ .gt → order x z ≠ .gt)
    (some : scores ≠ []) : ∃ w, Leads order scores w := by
  have hrespects : Respects order
      (fun x y => x ∈ scores ∧ y ∈ scores ∧ order x y ≠ .gt) scores := by
    refine ⟨?_, fun x hx y hy hgt => ⟨hy, hx, ?_⟩, fun x hx y hy hle => ⟨hx, hy, hle⟩⟩
    · rintro x y z ⟨hx, hy, hxy⟩ ⟨-, hz, hyz⟩
      exact ⟨hx, hz, trans x hx y hy z hz hxy hyz⟩
    · rw [decisive.swapped, hgt]
      nofun
  cases hw : first? order scores with
  | none => exact absurd (first?_eq_none_iff.1 hw) some
  | some w =>
    refine ⟨w, mem_of_first? hw, fun x hx other => decisive.lt_of_ne_gt other ?_⟩
    exact (hrespects.first?_le hw x hx).2.2

end Contest

/-! ## The order of preference -/

section Order

variable {x y z : Score Rat}

/-- The utilizations count as equal. -/
def Close (x y : Score Rat) : Prop := |x.utilization - y.utilization| ≤ tolerance

/-- The first has the smaller number of workspaces, or else the smaller id. -/
def WinsTie (x y : Score Rat) : Prop :=
  x.workspaceCount < y.workspaceCount ∨
    x.workspaceCount = y.workspaceCount ∧ x.serverId < y.serverId

/-- The first is preferred when load is spread: its utilization is the smaller by more than the
tolerance, or they are close and it wins the tie. -/
def Ahead (x y : Score Rat) : Prop :=
  x.utilization + tolerance < y.utilization ∨ Close x y ∧ WinsTie x y

theorem compareUtilization_eq_eq_iff :
    compareUtilization x.utilization y.utilization = .eq ↔ Close x y := by
  unfold compareUtilization Close
  rw [Quantity.magnitude_eq_abs]
  split
  · next h => exact iff_of_true rfl h
  · next h =>
    refine iff_of_false (fun heq => h ?_) h
    have hsame : x.utilization = y.utilization :=
      (compareOfLessAndEq_eq_eq le_refl not_le).1 heq
    rw [hsame, sub_self, abs_zero]
    exact tolerance_pos.le

theorem compareUtilization_eq_lt_iff :
    compareUtilization x.utilization y.utilization = .lt ↔
      x.utilization + tolerance < y.utilization := by
  unfold compareUtilization
  rw [Quantity.magnitude_eq_abs]
  split
  · next h =>
    refine iff_of_false nofun fun hlt => ?_
    linarith [(abs_le.1 h).1]
  · next h =>
    refine compareOfLessAndEq_eq_lt.trans ⟨fun hlt => ?_, fun hlt => ?_⟩
    · rw [abs_of_neg (sub_neg.2 hlt), not_le] at h
      linarith
    · linarith [tolerance_pos]

theorem compareUtilization_swap (u v : Rat) :
    compareUtilization v u = (compareUtilization u v).swap := by
  unfold compareUtilization
  rw [Quantity.magnitude_eq_abs, Quantity.magnitude_eq_abs, abs_sub_comm]
  split
  · rfl
  · exact compareOfLessAndEq_eq_swap le_antisymm le_total not_le

theorem decisive_spread : @Decisive Rat spreadOrder where
  swapped x y := by
    rw [spreadOrder, spreadOrder, Ordering.swap_then, Ordering.swap_then,
      ← compareUtilization_swap, ← Std.OrientedCmp.eq_swap, ← Std.OrientedCmp.eq_swap]
  decided x y h := by
    rw [spreadOrder, Ordering.then_eq_eq, Ordering.then_eq_eq] at h
    exact Std.LawfulEqCmp.eq_of_compare h.2.2

theorem decisive_bestFit : @Decisive Rat bestFitOrder := decisive_spread.flip

theorem spreadOrder_eq_lt_iff : spreadOrder x y = .lt ↔ Ahead x y := by
  have hid : compare x.serverId y.serverId = .lt ↔ x.serverId < y.serverId :=
    compareOfLessAndEq_eq_lt
  simp only [spreadOrder, Ordering.then_eq_lt, compareUtilization_eq_lt_iff,
    compareUtilization_eq_eq_iff, Nat.compare_eq_lt, Nat.compare_eq_eq, hid, Ahead, WinsTie]

theorem spreadOrder_eq_gt_iff : spreadOrder x y = .gt ↔ Ahead y x := by
  rw [← spreadOrder_eq_lt_iff, decisive_spread.swapped x y, Ordering.swap_eq_lt]

/-- Being ahead costs at most the tolerance. -/
theorem Ahead.le_add (h : Ahead x y) : x.utilization ≤ y.utilization + tolerance := by
  rcases h with hlt | ⟨close, -⟩
  · linarith [tolerance_pos]
  · linarith [(abs_le.1 close).2]

theorem le_add_of_not_ahead (h : ¬Ahead y x) : x.utilization ≤ y.utilization + tolerance :=
  not_lt.1 fun hlt => h (.inl hlt)

theorem apart_of_not_close (h : ¬Close x y) :
    x.utilization + tolerance < y.utilization ∨ y.utilization + tolerance < x.utilization := by
  rcases lt_abs.1 (not_le.1 h) with hlt | hlt
  · exact .inr (by linarith)
  · exact .inl (by linarith)

theorem Close.symm (h : Close x y) : Close y x := by
  rwa [Close, abs_sub_comm]

theorem WinsTie.or (h : WinsTie x z) (y : Score Rat) : WinsTie x y ∨ WinsTie y z := by
  rcases Nat.lt_trichotomy x.workspaceCount y.workspaceCount with hxy | hxy | hyx
  · exact .inl (.inl hxy)
  · by_cases hid : x.serverId < y.serverId
    · exact .inl (.inr ⟨hxy, hid⟩)
    · exact .inr (h.imp (hxy ▸ ·) fun ⟨same, hlt⟩ => ⟨hxy ▸ same, (not_lt.1 hid).trans_lt hlt⟩)
  · rcases h with hlt | ⟨same, -⟩
    · exact .inr (.inl (hyx.trans hlt))
    · exact .inr (.inl (same ▸ hyx))

/-- Being close is transitive among the scores. -/
def Clustered (scores : List (Score Rat)) : Prop :=
  ∀ x ∈ scores, ∀ y ∈ scores, ∀ z ∈ scores, Close x y → Close y z → Close x z

/-- The second is between the two, or at one of them. -/
theorem Clustered.ahead_or_ahead {scores : List (Score Rat)} (clustered : Clustered scores)
    (hx : x ∈ scores) (hy : y ∈ scores) (hz : z ∈ scores) (h : Ahead x z) :
    Ahead x y ∨ Ahead y z := by
  rcases h with hlt | ⟨close, tie⟩
  · have hfar : ¬Close x z := fun hclose => by linarith [(abs_le.1 hclose).1]
    by_cases hxy : Close x y
    · rcases apart_of_not_close fun hyz => hfar (clustered x hx y hy z hz hxy hyz) with hyz | hzy
      · exact .inr (.inl hyz)
      · linarith [(abs_le.1 hxy).1, tolerance_pos]
    · rcases apart_of_not_close hxy with hxy | hyx
      · exact .inl (.inl hxy)
      · exact .inr (.inl (by linarith [tolerance_pos]))
  · by_cases hxy : Close x y
    · have hyz := clustered y hy x hx z hz hxy.symm close
      exact (tie.or y).imp (fun tie' => .inr ⟨hxy, tie'⟩) fun tie' => .inr ⟨hyz, tie'⟩
    · rcases apart_of_not_close hxy with hxy' | hyx
      · exact .inl (.inl hxy')
      · rcases apart_of_not_close fun hyz => hxy (clustered x hx z hz y hy close hyz.symm) with
          hyz | hzy
        · exact .inr (.inl hyz)
        · linarith [(abs_le.1 close).2, tolerance_pos]

theorem Clustered.trans {scores : List (Score Rat)} (clustered : Clustered scores)
    (hx : x ∈ scores) (hy : y ∈ scores) (hz : z ∈ scores) (hxy : spreadOrder x y ≠ .gt)
    (hyz : spreadOrder y z ≠ .gt) : spreadOrder x z ≠ .gt := by
  rw [Ne, spreadOrder_eq_gt_iff] at *
  intro hzx
  exact (clustered.ahead_or_ahead hz hy hx hzx).elim hyz hxy

end Order

end Score
end WorkspaceFleet
