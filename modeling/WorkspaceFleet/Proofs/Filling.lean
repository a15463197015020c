import Mathlib.Algebra.Order.Field.Rat
import WorkspaceFleet.Proofs.Cores
import WorkspaceFleet.Proofs.Reserving

/-!
# WorkspaceFleet.Proofs.Filling

Filling a fleet of equal servers with one request, in exact arithmetic.

Every server holds some copies of one allocation and nothing else (`Server.Copies`), so the number
of copies decides all that a choice looks at: a server with fewer has room if one with more has, and
it is used no more. Utilizations that are too close to be told apart leave the choice to the counts,
which are in the same order, so `spread` takes a server with the fewest copies and `bestFit` one
with the most, among those that have room (`Filling.reserved`). What one reservation keeps of the
counts is then kept by every run: `Filled.balanced_and_packed`.
-/

namespace WorkspaceFleet

/-! ## Exact arithmetic -/

namespace Quantity

theorem unitClamp_eq (x : Rat) : unitClamp x = max 0 (min x 1) := by
  show (if x < 0 then 0 else if 1 < x then 1 else x) = max 0 (min x 1)
  split
  · next h => rw [min_eq_left (by linarith), max_eq_left h.le]
  · next h =>
    split
    · next h' => rw [min_eq_right h'.le, max_eq_right zero_le_one]
    · next h' => rw [min_eq_left (not_lt.1 h'), max_eq_right (not_lt.1 h)]

/-- The more is used the larger is the share, whatever there is in total. -/
theorem share_mono {u v : Rat} (h : u ≤ v) (t : Rat) : share u t ≤ share v t := by
  show (if t ≤ 0 then one else unitClamp (u / t)) ≤ if t ≤ 0 then one else unitClamp (v / t)
  split
  · exact le_refl _
  · next ht =>
    have hdiv : u / t ≤ v / t := div_le_div_of_nonneg_right h (not_le.1 ht).le
    rw [unitClamp_eq, unitClamp_eq]
    exact max_le_max (le_refl 0) (min_le_min hdiv (le_refl 1))

end Quantity

namespace Score

theorem compareUtilization_ne_gt {x y : Rat} (h : x ≤ y) : compareUtilization x y ≠ .gt := by
  unfold compareUtilization
  split
  · nofun
  · show compareOfLessAndEq x y ≠ .gt
    rw [compareOfLessAndEq]
    rcases h.lt_or_eq with hlt | heq
    · rw [if_pos hlt]
      nofun
    · rw [if_neg heq.not_lt, if_pos heq]
      nofun

theorem compareUtilization_ne_lt {x y : Rat} (h : y ≤ x) : compareUtilization x y ≠ .lt := by
  unfold compareUtilization
  split
  · nofun
  · show compareOfLessAndEq x y ≠ .lt
    rw [compareOfLessAndEq, if_neg (not_lt.2 h)]
    split <;> nofun

variable {a b : Score Rat}

/-- Fewer workspaces come first, unless the utilizations say otherwise. -/
theorem spreadOrder_eq_lt (utilization : a.utilization ≤ b.utilization)
    (fewer : a.workspaceCount < b.workspaceCount) : spreadOrder a b = .lt := by
  rw [spreadOrder, Nat.compare_eq_lt.2 fewer]
  cases h : compareUtilization a.utilization b.utilization with
  | lt => rfl
  | eq => rfl
  | gt => exact absurd h (compareUtilization_ne_gt utilization)

theorem spreadOrder_eq_gt (utilization : b.utilization ≤ a.utilization)
    (fewer : b.workspaceCount < a.workspaceCount) : spreadOrder a b = .gt := by
  rw [spreadOrder, Nat.compare_eq_gt.2 fewer]
  cases h : compareUtilization a.utilization b.utilization with
  | lt => exact absurd h (compareUtilization_ne_lt utilization)
  | eq => rfl
  | gt => rfl

theorem ofServer?_score {κ : Type} [Quantity κ] {s : Server κ} {a : Allocation κ} {x : Score κ}
    (h : ofServer? s a = some x) :
    x.workspaceCount = s.workspaceCount ∧
      x.utilization =
        Quantity.larger (s.apply a).cpuUtilization (s.apply a).memoryUtilization := by
  rw [ofServer?] at h
  split at h
  · cases h
    exact ⟨rfl, rfl⟩
  · cases h

section First

variable {κ : Type} {order : Score κ → Score κ → Ordering} {le : Score κ → Score κ → Prop}

/-- The order respects a relation among some scores. -/
structure Respects (order : Score κ → Score κ → Ordering) (le : Score κ → Score κ → Prop)
    (scores : List (Score κ)) : Prop where
  trans : ∀ x y z, le x y → le y z → le x z
  after : ∀ x ∈ scores, ∀ y ∈ scores, order x y = .gt → le y x
  before : ∀ x ∈ scores, ∀ y ∈ scores, order x y ≠ .gt → le x y

namespace Respects

variable {scores : List (Score κ)}

theorem refl (h : Respects order le scores) {x : Score κ} (hx : x ∈ scores) : le x x := by
  by_cases hgt : order x x = .gt
  · exact h.after x hx x hx hgt
  · exact h.before x hx x hx hgt

theorem foldl_le (h : Respects order le scores) {rest : List (Score κ)} {best : Score κ}
    (hbest : best ∈ scores) (hrest : ∀ x ∈ rest, x ∈ scores) :
    le (rest.foldl (fun best x => if order best x = .gt then x else best) best) best ∧
      ∀ x ∈ rest,
        le (rest.foldl (fun best x => if order best x = .gt then x else best) best) x := by
  induction rest generalizing best with
  | nil => exact ⟨h.refl hbest, nofun⟩
  | cons y rest ih =>
    have hy := hrest y List.mem_cons_self
    have hlater := fun x hx => hrest x (List.mem_cons_of_mem y hx)
    rw [List.foldl_cons]
    by_cases hgt : order best y = .gt
    · rw [if_pos hgt]
      obtain ⟨hley, hles⟩ := ih hy hlater
      refine ⟨h.trans _ _ _ hley (h.after best hbest y hy hgt), fun x hx => ?_⟩
      rcases List.mem_cons.1 hx with rfl | hx
      · exact hley
      · exact hles x hx
    · rw [if_neg hgt]
      obtain ⟨hlebest, hles⟩ := ih hbest hlater
      refine ⟨hlebest, fun x hx => ?_⟩
      rcases List.mem_cons.1 hx with rfl | hx
      · exact h.trans _ _ _ hlebest (h.before best hbest x hy hgt)
      · exact hles x hx

/-- **The first of all** is related to each. -/
theorem first?_le (h : Respects order le scores) {best : Score κ}
    (first : first? order scores = some best) : ∀ x ∈ scores, le best x := by
  cases scores with
  | nil => cases first
  | cons s rest =>
    cases first
    obtain ⟨hles, hlerest⟩ := h.foldl_le List.mem_cons_self fun x hx => List.mem_cons_of_mem s hx
    intro x hx
    rcases List.mem_cons.1 hx with rfl | hx
    · exact hles
    · exact hlerest x hx

/-- The reverse order respects the reverse relation. -/
theorem flip (h : Respects order le scores) :
    Respects (fun x y => order y x) (fun x y => le y x) scores where
  trans x y z hxy hyz := h.trans z y x hyz hxy
  after x hx y hy hgt := h.after y hy x hx hgt
  before x hx y hy hle := h.before y hy x hx hle

end Respects

end First

end Score

/-! ## Equal servers -/

open Quantity (tolerance)

/-- A server of one kind that holds copies of one allocation and nothing else. -/
structure Server.Copies (s : Server Rat) (a : Allocation Rat) (kind : Server Rat) : Prop where
  totalCpu : s.totalCpuCores = kind.totalCpuCores
  totalMemory : s.totalMemoryMb = kind.totalMemoryMb
  totalDisk : s.totalDiskGb = kind.totalDiskGb
  limit : s.maxWorkspaces = kind.maxWorkspaces
  cpu : s.cpuUsed = s.workspaceCount * a.cpuCores
  memory : s.memoryUsedMb = s.workspaceCount * a.memoryMb
  disk : s.diskUsedGb = s.workspaceCount * a.diskGb

namespace Server.Copies

variable {kind s t : Server Rat} {a : Allocation Rat}

/-- One copy more. -/
theorem apply (h : s.Copies a kind) : (s.apply a).Copies a kind where
  totalCpu := h.totalCpu
  totalMemory := h.totalMemory
  totalDisk := h.totalDisk
  limit := h.limit
  cpu := by
    show s.cpuUsed + a.cpuCores = ((s.workspaceCount + 1 : Nat) : Rat) * a.cpuCores
    rw [h.cpu, Nat.cast_succ, add_one_mul]
  memory := by
    show s.memoryUsedMb + a.memoryMb = (s.workspaceCount + 1) * a.memoryMb
    rw [h.memory, Nat.add_one_mul]
  disk := by
    show s.diskUsedGb + a.diskGb = (s.workspaceCount + 1) * a.diskGb
    rw [h.disk, Nat.add_one_mul]

theorem cpu_le (hs : s.Copies a kind) (ht : t.Copies a kind) (needs : 0 ≤ a.cpuCores)
    (fewer : s.workspaceCount ≤ t.workspaceCount) : s.cpuUsed ≤ t.cpuUsed := by
  rw [hs.cpu, ht.cpu]
  exact mul_le_mul_of_nonneg_right (Nat.cast_le.2 fewer) needs

theorem memory_le (hs : s.Copies a kind) (ht : t.Copies a kind)
    (fewer : s.workspaceCount ≤ t.workspaceCount) : s.memoryUsedMb ≤ t.memoryUsedMb := by
  rw [hs.memory, ht.memory]
  exact Nat.mul_le_mul_right _ fewer

/-- **Fewer copies, more room.** -/
theorem fits_of_le (hs : s.Copies a kind) (ht : t.Copies a kind) (needs : 0 ≤ a.cpuCores)
    (fewer : s.workspaceCount ≤ t.workspaceCount) (room : t.fits a = true) : s.fits a = true := by
  have hcpu := hs.cpu_le ht needs fewer
  have hmemory := hs.memory_le ht fewer
  have hdisk : s.diskUsedGb ≤ t.diskUsedGb := by
    rw [hs.disk, ht.disk]
    exact Nat.mul_le_mul_right _ fewer
  obtain ⟨hroom, hroomMemory, hroomDisk, hroomSlots⟩ := fits_iff.1 room
  refine fits_iff.2 ⟨?_, ?_, ?_, ?_⟩
  · rw [hs.totalCpu, ← ht.totalCpu]
    linarith
  · rw [hs.totalMemory, ← ht.totalMemory]
    omega
  · rw [hs.totalDisk, ← ht.totalDisk]
    omega
  · rw [hs.limit, ← ht.limit]
    omega

/-- **Fewer copies, no more use.** -/
theorem utilization_le (hs : s.Copies a kind) (ht : t.Copies a kind) (needs : 0 ≤ a.cpuCores)
    (fewer : s.workspaceCount ≤ t.workspaceCount) {x y : Score Rat}
    (hx : Score.ofServer? s a = some x) (hy : Score.ofServer? t a = some y) :
    x.utilization ≤ y.utilization := by
  obtain ⟨-, hx⟩ := Score.ofServer?_score hx
  obtain ⟨-, hy⟩ := Score.ofServer?_score hy
  have hsucc : (s.apply a).workspaceCount ≤ (t.apply a).workspaceCount := Nat.succ_le_succ fewer
  have hcpu : (s.apply a).cpuUtilization ≤ (t.apply a).cpuUtilization := by
    unfold Server.cpuUtilization
    rw [hs.apply.totalCpu, ht.apply.totalCpu]
    exact Quantity.share_mono (hs.apply.cpu_le ht.apply needs hsucc) _
  have hmemory : (s.apply a).memoryUtilization ≤ (t.apply a).memoryUtilization := by
    unfold Server.memoryUtilization
    rw [hs.apply.totalMemory, ht.apply.totalMemory]
    refine Quantity.share_mono ?_ _
    show (((s.apply a).memoryUsedMb : Int) : Rat) ≤ (((t.apply a).memoryUsedMb : Int) : Rat)
    exact Int.cast_le.2 (Int.ofNat_le.2 (hs.apply.memory_le ht.apply hsucc))
  rw [hx, hy, Quantity.larger_eq_max, Quantity.larger_eq_max]
  exact max_le_max hcpu hmemory

end Server.Copies

/-! ## The choice among equal servers -/

/-- Which of two numbers of workspaces a strategy prefers, the first to the second. -/
def Strategy.Prefers : Strategy → Nat → Nat → Prop
  | .spread, m, n => m ≤ n
  | .bestFit, m, n => n ≤ m
  | _, _, _ => True

namespace Placement

variable {req : Requirements Rat} {kind : Server Rat} {servers : List (Server Rat)}

/-- Among equal servers the order of preference is that of the counts. -/
theorem respects_spread (copies : ∀ s ∈ servers, s.Copies req.allocation kind)
    (needs : 0 ≤ req.allocation.cpuCores) :
    Score.Respects Score.spreadOrder (fun x y => x.workspaceCount ≤ y.workspaceCount)
      (servers.filterMap (Score.ofServer? · req.allocation)) := by
  have hutilization : ∀ x ∈ servers.filterMap (Score.ofServer? · req.allocation),
      ∀ y ∈ servers.filterMap (Score.ofServer? · req.allocation),
      x.workspaceCount < y.workspaceCount → x.utilization ≤ y.utilization := by
    intro x hx y hy fewer
    obtain ⟨s, hs, hxs⟩ := List.mem_filterMap.1 hx
    obtain ⟨t, ht, hyt⟩ := List.mem_filterMap.1 hy
    rw [(Score.ofServer?_score hxs).1, (Score.ofServer?_score hyt).1] at fewer
    exact (copies s hs).utilization_le (copies t ht) needs fewer.le hxs hyt
  refine ⟨fun x y z => Nat.le_trans, fun x hx y hy hgt => ?_, fun x hx y hy hle => ?_⟩
  · by_contra hlt
    have hfewer := Nat.lt_of_not_le hlt
    rw [Score.spreadOrder_eq_lt (hutilization x hx y hy hfewer) hfewer] at hgt
    cases hgt
  · by_contra hlt
    have hfewer := Nat.lt_of_not_le hlt
    exact hle (Score.spreadOrder_eq_gt (hutilization y hy x hx hfewer) hfewer)

/-- **What is chosen is preferred** to every candidate. -/
theorem preferred_of_choose (copies : ∀ s ∈ servers, s.Copies req.allocation kind)
    (needs : 0 ≤ req.allocation.cpuCores) {strategy : Strategy} {cursor : Nat} {p : Placement Rat}
    (h : choose req strategy servers cursor = .ok p) :
    ∃ s ∈ servers, Candidate req s ∧ p.serverId = s.serverId ∧
      ∀ t ∈ servers, Candidate req t → strategy.Prefers s.workspaceCount t.workspaceCount := by
  obtain ⟨score, hpick, hid⟩ := pick_of_choose h
  obtain ⟨s, hs, hscore⟩ := List.mem_filterMap.1 (mem_of_pick? hpick)
  obtain ⟨hmem, hsuits⟩ := List.mem_filter.1 hs
  obtain ⟨room, hsid⟩ := Score.ofServer?_eq_some hscore
  refine ⟨s, hmem, ⟨of_decide_eq_true hsuits, room⟩, hid.trans hsid, fun t ht candidate => ?_⟩
  have hrespects : Score.Respects Score.spreadOrder _
      ((servers.filter fun s => decide (Suits req s)).filterMap
        (Score.ofServer? · req.allocation)) :=
    respects_spread (fun v hv => copies v (List.mem_filter.1 hv).1) needs
  obtain ⟨y, hy⟩ : ∃ y, Score.ofServer? t req.allocation = some y := by
    cases hty : Score.ofServer? t req.allocation with
    | some y => exact ⟨y, rfl⟩
    | none =>
      have hfull := Score.ofServer?_eq_none_iff.1 hty
      rw [candidate.room] at hfull
      cases hfull
  have hymem : y ∈ (servers.filter fun s => decide (Suits req s)).filterMap
      (Score.ofServer? · req.allocation) :=
    List.mem_filterMap.2 ⟨t, List.mem_filter.2 ⟨ht, decide_eq_true candidate.toSuits⟩, hy⟩
  rw [← (Score.ofServer?_score hscore).1, ← (Score.ofServer?_score hy).1]
  cases strategy with
  | spread => exact hrespects.first?_le hpick y hymem
  | bestFit => exact hrespects.flip.first?_le hpick y hymem
  | roundRobin => trivial
  | affinity => trivial

end Placement

/-! ## One reservation -/

/-- A fleet that is being filled with one request: every server suits it, and holds copies of its
allocation and nothing else. -/
structure Filling (req : Requirements Rat) (kind : Server Rat) (servers : Table (Server Rat)) :
    Prop where
  keyed : servers.Keyed Server.serverId
  suits : ∀ id s, servers.get? id = some s → Placement.Suits req s
  copies : ∀ id s, servers.get? id = some s → s.Copies req.allocation kind

namespace Filling

variable {χ : Type} {req : Requirements Rat} {kind : Server Rat} {servers : Table (Server Rat)}
  {strategy : Strategy}

theorem mem_values (h : Filling req kind servers) {s : Server Rat} (hs : s ∈ servers.values) :
    servers.get? s.serverId = some s := by
  obtain ⟨id, found⟩ := Table.mem_values_iff.1 hs
  rwa [h.keyed id s found]

/-- One copy more on one server. -/
theorem insert (h : Filling req kind servers) {id : String} {s : Server Rat}
    (found : servers.get? id = some s) :
    Filling req kind (servers.insert id (s.apply req.allocation)) where
  keyed := h.keyed.replace found rfl
  suits j v hv := by
    rw [Table.get?_insert] at hv
    split at hv
    · cases hv
      have hsuits := h.suits id s found
      exact ⟨hsuits.healthy, hsuits.target, hsuits.labels⟩
    · exact h.suits j v hv
  copies j v hv := by
    rw [Table.get?_insert] at hv
    split at hv
    · cases hv
      exact (h.copies id s found).apply
    · exact h.copies j v hv

variable {f : Fleet Rat χ}

/-- **A reservation** puts one copy more on a server that the strategy prefers to all that have
room. -/
theorem reserved (h : Filling req kind f.registry.servers) (needs : 0 ≤ req.allocation.cpuCores)
    {hold : Reservation Rat} (given : (Orchestrator.reservePlaced .none req strategy f).1 = .ok hold) :
    ∃ id s, f.registry.servers.get? id = some s ∧ s.fits req.allocation = true ∧
      (Orchestrator.reservePlaced .none req strategy f).2.registry.servers =
        f.registry.servers.insert id (s.apply req.allocation) ∧
      ∀ j t, f.registry.servers.get? j = some t → t.fits req.allocation = true →
        strategy.Prefers s.workspaceCount t.workspaceCount := by
  cases hpreview : f.placer.preview req strategy f.registry.listServers with
  | error e =>
    rw [Orchestrator.reservePlaced_of_error hpreview] at given
    cases given
  | ok placement =>
    have hcopies : ∀ s ∈ f.registry.listServers, s.Copies req.allocation kind := fun s hs =>
      h.copies s.serverId s (h.mem_values hs)
    obtain ⟨s, hs, candidate, hid, hprefers⟩ :=
      Placement.preferred_of_choose hcopies needs hpreview
    obtain ⟨-, hregistry, -⟩ := Orchestrator.reservePlaced_of_preview hpreview
    have found := h.mem_values hs
    refine ⟨s.serverId, s, found, candidate.room, ?_, fun j t ht room => ?_⟩
    · rw [hregistry, hid]
      simp only [Registry.reserve, found, candidate.room, if_true]
      rfl
    · exact hprefers t (Table.mem_values_iff.2 ⟨j, ht⟩) ⟨h.suits j t ht, room⟩

/-- **A refusal** means that no server has room. -/
theorem refused (h : Filling req kind f.registry.servers) (anywhere : req.affinity = none)
    (free : strategy ≠ .affinity) {e : PlacementError}
    (refusal : (Orchestrator.reservePlaced .none req strategy f).1 = .error e) :
    ∀ id s, f.registry.servers.get? id = some s → s.fits req.allocation = false := by
  intro id s found
  rw [Bool.eq_false_iff]
  intro room
  have hmem : s ∈ f.registry.listServers := Table.mem_values_iff.2 ⟨id, found⟩
  have hsuits := h.suits id s found
  have hverdict := f.placer.preview_verdict req strategy f.registry.listServers
  have hsensible : Placement.Answerable req strategy f.registry.listServers := by
    refine ⟨⟨s, hmem, hsuits.healthy⟩, fun t target => ?_, fun aimed => absurd aimed free⟩
    rw [anywhere] at target
    cases target
  obtain ⟨placement, hpreview⟩ := hverdict.exists_eq_ok_iff.2
    ⟨hsensible, s, hmem, ⟨hsuits, room⟩⟩
  obtain ⟨hresult, -, -⟩ := Orchestrator.reservePlaced_of_preview hpreview
  obtain ⟨t, ht, hroom⟩ := Placer.room_of_preview h.keyed hpreview
  simp only [Registry.reserve, ht, hroom, if_true] at hresult
  rw [hresult] at refusal
  cases refusal

/-! ## What a strategy keeps -/

/-- No server has two workspaces more than another. -/
def Balanced (servers : Table (Server Rat)) : Prop :=
  ∀ i j s t, servers.get? i = some s → servers.get? j = some t →
    s.workspaceCount ≤ t.workspaceCount + 1

/-- At most one server has workspaces and has room for one more. -/
def Packed (a : Allocation Rat) (servers : Table (Server Rat)) : Prop :=
  ∀ i j s t, servers.get? i = some s → servers.get? j = some t →
    0 < s.workspaceCount → s.fits a = true → 0 < t.workspaceCount → t.fits a = true → i = j

/-- Where a server with the fewest copies takes one more, the counts stay balanced. -/
theorem balanced_insert (h : Filling req kind servers) (needs : 0 ≤ req.allocation.cpuCores)
    {id : String} {s : Server Rat} (found : servers.get? id = some s)
    (room : s.fits req.allocation = true)
    (fewest : ∀ j t, servers.get? j = some t → t.fits req.allocation = true →
      s.workspaceCount ≤ t.workspaceCount)
    (balanced : Balanced servers) : Balanced (servers.insert id (s.apply req.allocation)) := by
  -- a server with fewer copies would have room, and would have been taken
  have hleast : ∀ j t, servers.get? j = some t → s.workspaceCount ≤ t.workspaceCount := by
    intro j t ht
    by_contra hmore
    have hfewer := Nat.lt_of_not_le hmore
    exact hmore (fewest j t ht ((h.copies j t ht).fits_of_le (h.copies id s found) needs hfewer.le
      room))
  have hcount : (s.apply req.allocation).workspaceCount = s.workspaceCount + 1 := rfl
  intro i j u v hu hv
  rw [Table.get?_insert] at hu hv
  split at hu
  · cases hu
    split at hv
    · cases hv
      omega
    · have := hleast j v hv
      omega
  · have hbound := balanced i id u s hu found
    split at hv
    · cases hv
      omega
    · exact balanced i j u v hu hv

/-- Where a server with the most copies of those that have room takes one more, they stay packed. -/
theorem packed_insert {id : String} {s : Server Rat} (found : servers.get? id = some s)
    (room : s.fits req.allocation = true)
    (most : ∀ j t, servers.get? j = some t → t.fits req.allocation = true →
      t.workspaceCount ≤ s.workspaceCount)
    (packed : Packed req.allocation servers) :
    Packed req.allocation (servers.insert id (s.apply req.allocation)) := by
  -- another that is in use and has room holds no more copies, so this one was in use already
  have hother : ∀ j t, servers.get? j = some t → 0 < t.workspaceCount →
      t.fits req.allocation = true → id = j := by
    intro j t ht hused hroom
    exact packed id j s t found ht (Nat.lt_of_lt_of_le hused (most j t ht hroom)) room hused hroom
  intro i j u v hu hv husedU hroomU husedV hroomV
  rw [Table.get?_insert] at hu hv
  split at hu
  · next hi =>
    split at hv
    · next hj => exact hi.symm.trans hj
    · exact hi.symm.trans (hother j v hv husedV hroomV)
  · have hi := hother i u hu husedU hroomU
    split at hv
    · next hj => exact hi.symm.trans hj
    · exact hi.symm.trans (hother j v hv husedV hroomV)

end Filling

/-! ## Runs -/

/-- How many workspaces are counted on all servers. -/
def countedWorkspaces (servers : Table (Server Rat)) : Nat :=
  (servers.values.map (·.workspaceCount)).sum

theorem countedWorkspaces_insert {servers : Table (Server Rat)} {id : String} {s : Server Rat}
    (found : servers.get? id = some s) (a : Allocation Rat) :
    countedWorkspaces (servers.insert id (s.apply a)) = countedWorkspaces servers + 1 := by
  have hbefore := ((servers.values_insert_perm id s).map (·.workspaceCount)).sum_eq
  have hafter := ((servers.values_insert_perm id (s.apply a)).map (·.workspaceCount)).sum_eq
  rw [Table.insert_of_get? found, List.map_cons, List.sum_cons] at hbefore
  rw [List.map_cons, List.sum_cons] at hafter
  have hcount : (s.apply a).workspaceCount = s.workspaceCount + 1 := rfl
  rw [countedWorkspaces, countedWorkspaces, hafter, hbefore, hcount]
  omega

/-- The fleets that are reached from one by so many reservations of a request, one after the other.
What else happens leaves the servers' records alone. -/
inductive Filled {χ : Type} (req : Requirements Rat) (strategy : Strategy) (f : Fleet Rat χ) :
    Nat → Fleet Rat χ → Prop where
  | start : Filled req strategy f 0 f
  | reserved {k : Nat} {g : Fleet Rat χ} {hold : Reservation Rat}
      (before : Filled req strategy f k g)
      (given : (Orchestrator.reservePlaced .none req strategy g).1 = .ok hold) :
      Filled req strategy f (k + 1) (Orchestrator.reservePlaced .none req strategy g).2
  | meanwhile {k : Nat} {g g' : Fleet Rat χ} (before : Filled req strategy f k g)
      (same : g'.registry.servers = g.registry.servers) : Filled req strategy f k g'

/-- An empty server of a kind. -/
structure Server.Vacant (s kind : Server Rat) : Prop where
  totalCpu : s.totalCpuCores = kind.totalCpuCores
  totalMemory : s.totalMemoryMb = kind.totalMemoryMb
  totalDisk : s.totalDiskGb = kind.totalDiskGb
  limit : s.maxWorkspaces = kind.maxWorkspaces
  cpu : s.cpuUsed = 0
  memory : s.memoryUsedMb = 0
  disk : s.diskUsedGb = 0
  count : s.workspaceCount = 0

theorem Server.Vacant.copies {s kind : Server Rat} (h : s.Vacant kind) (a : Allocation Rat) :
    s.Copies a kind where
  totalCpu := h.totalCpu
  totalMemory := h.totalMemory
  totalDisk := h.totalDisk
  limit := h.limit
  cpu := by rw [h.cpu, h.count, Nat.cast_zero, zero_mul]
  memory := by rw [h.memory, h.count, Nat.zero_mul]
  disk := by rw [h.disk, h.count, Nat.zero_mul]

/-- A registry of empty equal servers that suit a request. -/
structure Registry.Level (r : Registry Rat) (req : Requirements Rat) (kind : Server Rat) :
    Prop where
  keyed : r.servers.Keyed Server.serverId
  suits : ∀ id s, r.servers.get? id = some s → Placement.Suits req s
  vacant : ∀ id s, r.servers.get? id = some s → s.Vacant kind

namespace Registry.Level

variable {r : Registry Rat} {req : Requirements Rat} {kind : Server Rat}

theorem filling (h : r.Level req kind) : Filling req kind r.servers :=
  ⟨h.keyed, h.suits, fun id s found => (h.vacant id s found).copies req.allocation⟩

theorem balanced (h : r.Level req kind) : Filling.Balanced r.servers := by
  intro i j s t hs ht
  have := (h.vacant i s hs).count
  omega

theorem packed (h : r.Level req kind) : Filling.Packed req.allocation r.servers := by
  intro i j s t hs ht hused
  have := (h.vacant i s hs).count
  omega

theorem counted (h : r.Level req kind) : countedWorkspaces r.servers = 0 := by
  refine List.sum_eq_zero fun n hn => ?_
  obtain ⟨s, hs, rfl⟩ := List.mem_map.1 hn
  obtain ⟨id, found⟩ := Table.mem_values_iff.1 hs
  exact (h.vacant id s found).count

end Registry.Level

namespace Filled

variable {χ : Type} {req : Requirements Rat} {strategy : Strategy} {f g : Fleet Rat χ} {k : Nat}
  {kind : Server Rat}

/-- What a run keeps. -/
theorem kept (h : Filled req strategy f k g) (level : f.registry.Level req kind)
    (needs : 0 ≤ req.allocation.cpuCores) :
    Filling req kind g.registry.servers ∧ countedWorkspaces g.registry.servers = k ∧
      (strategy = .spread → Filling.Balanced g.registry.servers) ∧
      (strategy = .bestFit → Filling.Packed req.allocation g.registry.servers) := by
  induction h with
  | start => exact ⟨level.filling, level.counted, fun _ => level.balanced, fun _ => level.packed⟩
  | reserved before given ih =>
    obtain ⟨hfilling, hcounted, hbalanced, hpacked⟩ := ih
    obtain ⟨id, s, found, room, hservers, hprefers⟩ := hfilling.reserved needs given
    rw [hservers]
    refine ⟨hfilling.insert found, ?_, ?_, ?_⟩
    · rw [countedWorkspaces_insert found, hcounted]
    · rintro rfl
      exact hfilling.balanced_insert needs found room hprefers (hbalanced rfl)
    · rintro rfl
      exact Filling.packed_insert found room hprefers (hpacked rfl)
  | meanwhile before same ih =>
    rw [same]
    exact ih

/-- **Spread balances and best fit packs.** After any number of reservations of one request on equal
servers that were empty, no server has two workspaces more than another under `spread`, and at most
one server is in use and has room under `bestFit`. The next reservation is refused only where no
server has room. -/
theorem balanced_and_packed (level : f.registry.Level req kind)
    (needs : 0 ≤ req.allocation.cpuCores) (anywhere : req.affinity = none) :
    (Filled req .spread f k g →
      countedWorkspaces g.registry.servers = k ∧
      (∀ i j s t, g.registry.servers.get? i = some s → g.registry.servers.get? j = some t →
        s.workspaceCount ≤ t.workspaceCount + 1) ∧
      ∀ e, (Orchestrator.reservePlaced .none req .spread g).1 = .error e →
        ∀ id s, g.registry.servers.get? id = some s → s.fits req.allocation = false) ∧
    (Filled req .bestFit f k g →
      countedWorkspaces g.registry.servers = k ∧
      (∀ i j s t, g.registry.servers.get? i = some s → g.registry.servers.get? j = some t →
        0 < s.workspaceCount → s.fits req.allocation = true →
        0 < t.workspaceCount → t.fits req.allocation = true → i = j) ∧
      ∀ e, (Orchestrator.reservePlaced .none req .bestFit g).1 = .error e →
        ∀ id s, g.registry.servers.get? id = some s → s.fits req.allocation = false) := by
  constructor
  · intro run
    obtain ⟨hfilling, hcounted, hbalanced, -⟩ := run.kept level needs
    exact ⟨hcounted, hbalanced rfl,
      fun e refusal => hfilling.refused anywhere (by decide) refusal⟩
  · intro run
    obtain ⟨hfilling, hcounted, -, hpacked⟩ := run.kept level needs
    exact ⟨hcounted, hpacked rfl,
      fun e refusal => hfilling.refused anywhere (by decide) refusal⟩

end Filled

namespace FillingRun

/-- A healthy server like the sample server. -/
def server (id : String) : Server Rat :=
  { Server.ofConfig SampleRun.config with serverId := id, status := .healthy }

/-- Two servers that differ in their ids only. -/
def servers : Table (Server Rat) :=
  ((∅ : Table (Server Rat)).insert "a" (server "a")).insert "b" (server "b")

def pair : Fleet Rat Unit where
  ledger := ⟨⟨servers, ∅, [], 1⟩, none⟩
  pool := ∅
  placer := .initial
  events := []

def request : Requirements Rat := .ofResources 1 40 3

theorem all_servers {P : Server Rat → Prop} (each : ∀ id, P (server id)) : servers.All P :=
  (Table.All.nothing.insert "a" (each "a")).insert "b" (each "b")

theorem level : pair.registry.Level request (server "a") where
  keyed := by
    have hone : ((∅ : Table (Server Rat)).insert "a" (server "a")).Keyed Server.serverId :=
      (Table.Keyed.nothing Server.serverId).insert rfl
    exact hone.insert rfl
  suits := all_servers fun _ => ⟨rfl, nofun, nofun⟩
  vacant := all_servers fun _ => ⟨rfl, rfl, rfl, rfl, rfl, rfl, rfl, rfl⟩

/-- Two reservations of the request. -/
def twice (strategy : Strategy) : Fleet Rat Unit :=
  (Orchestrator.reservePlaced .none request strategy
    (Orchestrator.reservePlaced .none request strategy pair).2).2

theorem twice_filled {strategy : Strategy} (hold hold' : Reservation Rat)
    (first : (Orchestrator.reservePlaced .none request strategy pair).1 = .ok hold)
    (second : (Orchestrator.reservePlaced .none request strategy
      (Orchestrator.reservePlaced .none request strategy pair).2).1 = .ok hold') :
    Filled request strategy pair 2 (twice strategy) :=
  (Filled.start.reserved first).reserved second

end FillingRun

open FillingRun in
/-- Two reservations go to two servers under `spread`, and to one under `bestFit`. -/
theorem balanced_and_packed_pair :
    (∀ i j s t, (twice .spread).registry.servers.get? i = some s →
      (twice .spread).registry.servers.get? j = some t →
      s.workspaceCount ≤ t.workspaceCount + 1) ∧
    (∀ i j s t, (twice .bestFit).registry.servers.get? i = some s →
      (twice .bestFit).registry.servers.get? j = some t →
      0 < s.workspaceCount → s.fits request.allocation = true →
      0 < t.workspaceCount → t.fits request.allocation = true → i = j) ∧
    ((twice .spread).registry.servers.get? "a").map (·.workspaceCount) = some 1 ∧
    ((twice .bestFit).registry.servers.get? "b").map (·.workspaceCount) = some 2 := by
  have hspread : Filled request .spread pair 2 (twice .spread) :=
    twice_filled ⟨1, "a", ⟨1, 40, 3⟩⟩ ⟨2, "b", ⟨1, 40, 3⟩⟩
      (eq_ok_of_toOption (by decide +kernel)) (eq_ok_of_toOption (by decide +kernel))
  have hbestFit : Filled request .bestFit pair 2 (twice .bestFit) :=
    twice_filled ⟨1, "b", ⟨1, 40, 3⟩⟩ ⟨2, "b", ⟨1, 40, 3⟩⟩
      (eq_ok_of_toOption (by decide +kernel)) (eq_ok_of_toOption (by decide +kernel))
  obtain ⟨-, hbalanced, -⟩ := (Filled.balanced_and_packed level (by decide) rfl).1 hspread
  obtain ⟨-, hpacked, -⟩ := (Filled.balanced_and_packed level (by decide) rfl).2 hbestFit
  exact ⟨hbalanced, hpacked, by decide +kernel, by decide +kernel⟩

end WorkspaceFleet
