import WorkspaceFleet.Proofs.ByteOrder
import WorkspaceFleet.Proofs.Contest
import WorkspaceFleet.Proofs.Turns

/-!
# WorkspaceFleet.Proofs.Preferring

Which server a choice by load takes, in exact arithmetic.

A choice by load looks at the utilization that a candidate would have with the allocation
(`Server.utilizationWith`), then at its number of workspaces, then at its id. Utilizations within
the tolerance of each other count as equal, so that what a strategy favours (`Strategy.Favours`)
need not be transitive: among three candidates each may lose to another.

`Placement.choose_by_load` says what holds all the same. The choice is independent of the listing of
the servers exactly if one candidate is favoured to each of the others; it is that one then, and no
candidate is better by more than the tolerance. Otherwise the candidates but one count the
tolerances by which the best may be missed.

Where utilizations are equal or clearly apart the choice is the least candidate in the order of
utilization, number of workspaces and id, or the greatest one: `Placement.choose_foremost`.
-/

namespace WorkspaceFleet

open Quantity (tolerance)

/-! ## Servers by load -/

/-- The utilization there is with one allocation more: that of the cores or of the memory, whichever
is the larger. -/
def Server.utilizationWith (s : Server Rat) (a : Allocation Rat) : Rat :=
  max (s.apply a).cpuUtilization (s.apply a).memoryUtilization

/-- Fewer workspaces, or as many and an id that comes first by its bytes. -/
def Server.WinsTie (s t : Server Rat) : Prop :=
  s.workspaceCount < t.workspaceCount ∨
    s.workspaceCount = t.workspaceCount ∧
      Text.Utf8.encode s.serverId < Text.Utf8.encode t.serverId

/-- The utilization is the smaller by more than the tolerance, or they are within the tolerance and
the first wins the tie. -/
def Server.Lighter (a : Allocation Rat) (s t : Server Rat) : Prop :=
  s.utilizationWith a + tolerance < t.utilizationWith a ∨
    |s.utilizationWith a - t.utilizationWith a| ≤ tolerance ∧ s.WinsTie t

/-- The lexicographic order of utilization, number of workspaces and id. -/
def Server.Less (a : Allocation Rat) (s t : Server Rat) : Prop :=
  s.utilizationWith a < t.utilizationWith a ∨
    s.utilizationWith a = t.utilizationWith a ∧ s.WinsTie t

theorem Server.WinsTie.asymm {s t : Server Rat} (h : s.WinsTie t) : ¬t.WinsTie s := by
  rcases h with hlt | ⟨same, hlt⟩ <;> rintro (hgt | ⟨same', hgt⟩)
  · exact lt_asymm hlt hgt
  · exact hlt.ne same'.symm
  · exact hgt.ne same.symm
  · exact List.lt_asymm hlt hgt

theorem Server.Less.asymm {a : Allocation Rat} {s t : Server Rat} (h : s.Less a t) :
    ¬t.Less a s := by
  rcases h with hlt | ⟨same, tie⟩ <;> rintro (hgt | ⟨same', tie'⟩)
  · exact lt_asymm hlt hgt
  · exact hlt.ne same'.symm
  · exact hgt.ne same.symm
  · exact tie.asymm tie'

/-- A strategy that chooses by load favours the first server to the second. -/
def Strategy.Favours (a : Allocation Rat) : Strategy → Server Rat → Server Rat → Prop
  | .spread, s, t => s.Lighter a t
  | .bestFit, s, t => t.Lighter a s
  | _, _, _ => False

/-- The first utilization is as good for a strategy as the second, or worse by no more than that. -/
def Strategy.Within (slack : Rat) : Strategy → Rat → Rat → Prop
  | .spread, u, v => u ≤ v + slack
  | .bestFit, u, v => v ≤ u + slack
  | _, _, _ => False

/-- What is known of a server's score. -/
structure Score.Of (x : Score Rat) (s : Server Rat) (a : Allocation Rat) : Prop where
  serverId : x.serverId = s.serverId
  workspaceCount : x.workspaceCount = s.workspaceCount
  utilization : x.utilization = s.utilizationWith a

theorem Score.of_ofServer? {s : Server Rat} {a : Allocation Rat} {x : Score Rat}
    (h : ofServer? s a = some x) : x.Of s a := by
  obtain ⟨hcount, hutilization⟩ := ofServer?_score h
  rw [Quantity.larger_eq_max] at hutilization
  exact ⟨(ofServer?_eq_some h).2, hcount, hutilization⟩

theorem Score.Of.ahead_iff {s t : Server Rat} {a : Allocation Rat} {x y : Score Rat}
    (hx : x.Of s a) (hy : y.Of t a) : x.Ahead y ↔ s.Lighter a t := by
  unfold Score.Ahead Score.Close Score.WinsTie Server.Lighter Server.WinsTie
  rw [hx.utilization, hy.utilization, hx.workspaceCount, hy.workspaceCount, hx.serverId,
    hy.serverId, Text.Utf8.encode_lt_iff]

/-- The strategies that choose by load, each with its order of preference. -/
inductive Strategy.ByLoad : Strategy → (Score Rat → Score Rat → Ordering) → Prop where
  | spread : ByLoad .spread Score.spreadOrder
  | bestFit : ByLoad .bestFit Score.bestFitOrder

namespace Strategy.ByLoad

variable {strategy : Strategy} {order : Score Rat → Score Rat → Ordering}
  {scores : List (Score Rat)}

theorem of_eq (h : strategy = .spread ∨ strategy = .bestFit) : ∃ order, ByLoad strategy order := by
  rcases h with rfl | rfl
  · exact ⟨_, .spread⟩
  · exact ⟨_, .bestFit⟩

theorem pick?_eq (h : ByLoad strategy order) (cursor : Nat) :
    Placement.pick? strategy cursor scores = Score.first? order scores := by
  cases h <;> rfl

theorem decisive (h : ByLoad strategy order) : Score.Decisive order := by
  cases h
  · exact Score.decisive_spread
  · exact Score.decisive_bestFit

theorem eq_lt_iff (h : ByLoad strategy order) {s t : Server Rat} {a : Allocation Rat}
    {x y : Score Rat} (hx : x.Of s a) (hy : y.Of t a) :
    order x y = .lt ↔ strategy.Favours a s t := by
  cases h
  · exact Score.spreadOrder_eq_lt_iff.trans (hx.ahead_iff hy)
  · show Score.spreadOrder y x = .lt ↔ t.Lighter a s
    rw [Score.spreadOrder_eq_lt_iff, hy.ahead_iff hx]

theorem trans (h : ByLoad strategy order) (clustered : Score.Clustered scores) :
    ∀ x ∈ scores, ∀ y ∈ scores, ∀ z ∈ scores,
      order x y ≠ .gt → order y z ≠ .gt → order x z ≠ .gt := by
  intro x hx y hy z hz hxy hyz
  cases h
  · exact clustered.trans hx hy hz hxy hyz
  · exact clustered.trans hz hy hx hyz hxy

/-- The winner of a contest misses the best by a tolerance for each score but one. -/
theorem within (h : ByLoad strategy order) {w : Score Rat}
    (first : Score.first? order scores = some w) :
    ∀ x ∈ scores, strategy.Within (((scores.length - 1 : Nat) : Rat) * tolerance) w.utilization
      x.utilization := by
  have hspread : ∀ x y : Score Rat, Score.spreadOrder x y ≠ .gt →
      x.utilization ≤ y.utilization + tolerance := fun x y hle =>
    Score.le_add_of_not_ahead (mt Score.spreadOrder_eq_gt_iff.2 hle)
  have hspreadGt : ∀ x y : Score Rat, Score.spreadOrder x y = .gt →
      y.utilization ≤ x.utilization + tolerance := fun x y hgt =>
    (Score.spreadOrder_eq_gt_iff.1 hgt).le_add
  cases h with
  | spread => exact Score.first?_le_add Quantity.tolerance_pos.le hspreadGt hspread first
  | bestFit =>
    intro x hx
    have hle := Score.first?_le_add (f := fun x => -x.utilization) Quantity.tolerance_pos.le
      (fun x y hgt => by linarith [hspreadGt y x hgt])
      (fun x y hle => by linarith [hspread y x hle]) first x hx
    show x.utilization ≤ w.utilization + _
    linarith

theorem within_self (h : ByLoad strategy order) (u : Rat) : strategy.Within tolerance u u := by
  have hle : u ≤ u + tolerance := by linarith [Quantity.tolerance_pos]
  cases h <;> exact hle

end Strategy.ByLoad

theorem Strategy.Favours.within {strategy : Strategy} {a : Allocation Rat} {s t : Server Rat}
    (h : strategy.Favours a s t) :
    strategy.Within tolerance (s.utilizationWith a) (t.utilizationWith a) := by
  have hle : ∀ u v : Server Rat, u.Lighter a v →
      u.utilizationWith a ≤ v.utilizationWith a + tolerance := by
    rintro u v (hlt | ⟨close, -⟩)
    · linarith [Quantity.tolerance_pos]
    · linarith [(abs_le.1 close).2]
  cases strategy with
  | spread => exact hle s t h
  | bestFit => exact hle t s h
  | roundRobin => exact h
  | affinity => exact h

/-! ## The choice -/

namespace Placement

variable {req : Requirements Rat} {strategy : Strategy}
  {order : Score Rat → Score Rat → Ordering} {servers : List (Server Rat)}

theorem mem_scores_iff {x : Score Rat} :
    x ∈ scores req servers ↔
      ∃ s ∈ servers, Candidate req s ∧ Score.ofServer? s req.allocation = some x := by
  simp only [scores, List.mem_filterMap, List.mem_filter, decide_eq_true_eq]
  constructor
  · rintro ⟨s, ⟨mem, suits⟩, hx⟩
    exact ⟨s, mem, ⟨suits, (Score.ofServer?_eq_some hx).1⟩, hx⟩
  · rintro ⟨s, mem, candidate, hx⟩
    exact ⟨s, ⟨mem, candidate.toSuits⟩, hx⟩

/-- A candidate has a score. -/
theorem Candidate.score {s : Server Rat} (candidate : Candidate req s) (mem : s ∈ servers) :
    ∃ x ∈ scores req servers, x.Of s req.allocation := by
  cases hx : Score.ofServer? s req.allocation with
  | none =>
    rw [Score.ofServer?_eq_none_iff, candidate.room] at hx
    cases hx
  | some x => exact ⟨x, mem_scores_iff.2 ⟨s, mem, candidate, hx⟩, Score.of_ofServer? hx⟩

theorem eq_of_serverId (distinct : (servers.map Server.serverId).Nodup) {s t : Server Rat}
    (hs : s ∈ servers) (ht : t ∈ servers) (same : s.serverId = t.serverId) : s = t :=
  List.inj_on_of_nodup_map distinct hs ht same

/-- **The choice by load** is the winner of the contest of the scores. -/
theorem choose_of_first? (byLoad : Strategy.ByLoad strategy order) {w : Score Rat}
    (first : Score.first? order (scores req servers) = some w) (cursor : Nat) :
    choose req strategy servers cursor =
      .ok { serverId := w.serverId, strategy, requirements := req } := by
  obtain ⟨s, mem, candidate, -⟩ := mem_scores_iff.1 (Score.mem_of_first? first)
  have hverdict := choose_verdict req strategy servers cursor
  have hanswerable : Answerable req strategy servers := by
    refine ⟨⟨s, mem, candidate.healthy⟩, fun t target missing => ?_, ?_⟩
    · exact missing s mem candidate.healthy (candidate.target t target)
    · rintro rfl
      cases byLoad
  obtain ⟨p, hp⟩ := hverdict.exists_eq_ok_iff.2 ⟨hanswerable, s, mem, candidate⟩
  obtain ⟨score, hpick, hid⟩ := pick_of_choose hp
  obtain ⟨t, -, -, rfl⟩ := (hp ▸ hverdict).of_ok
  have hwin : some w = some score := first.symm.trans ((byLoad.pick?_eq cursor).symm.trans hpick)
  cases hwin
  rw [hp, ← hid]

/-- The utilizations of candidates that are within the tolerance of a third are within it of each
other. -/
def Clustered (req : Requirements Rat) (servers : List (Server Rat)) : Prop :=
  ∀ s ∈ servers, ∀ t ∈ servers, ∀ u ∈ servers,
    Candidate req s → Candidate req t → Candidate req u →
    |s.utilizationWith req.allocation - t.utilizationWith req.allocation| ≤ tolerance →
    |t.utilizationWith req.allocation - u.utilizationWith req.allocation| ≤ tolerance →
    |s.utilizationWith req.allocation - u.utilizationWith req.allocation| ≤ tolerance

theorem Clustered.scores (clustered : Clustered req servers) :
    Score.Clustered (scores req servers) := by
  intro x hx y hy z hz hxy hyz
  obtain ⟨s, hs, candidate, hx⟩ := mem_scores_iff.1 hx
  obtain ⟨t, ht, candidate', hy⟩ := mem_scores_iff.1 hy
  obtain ⟨u, hu, candidate'', hz⟩ := mem_scores_iff.1 hz
  unfold Score.Close at *
  rw [(Score.of_ofServer? hx).utilization, (Score.of_ofServer? hy).utilization] at hxy
  rw [(Score.of_ofServer? hy).utilization, (Score.of_ofServer? hz).utilization] at hyz
  rw [(Score.of_ofServer? hx).utilization, (Score.of_ofServer? hz).utilization]
  exact clustered s hs t ht u hu candidate candidate' candidate'' hxy hyz

/-- Every listing of the servers, with any cursor, gives one and the same answer. -/
def Settled (req : Requirements Rat) (strategy : Strategy) (servers : List (Server Rat)) : Prop :=
  ∀ servers' cursor cursor', servers'.Perm servers →
    choose req strategy servers' cursor' = choose req strategy servers cursor

theorem scores_perm {servers' : List (Server Rat)} (perm : servers'.Perm servers) :
    (scores req servers').Perm (scores req servers) :=
  (perm.filter _).filterMap _

theorem scores_append (front back : List (Server Rat)) :
    scores req (front ++ back) = scores req front ++ scores req back := by
  rw [scores, List.filter_append, List.filterMap_append]
  rfl

theorem nodup_scores (distinct : (servers.map Server.serverId).Nodup) :
    ((scores req servers).map Score.serverId).Nodup :=
  distinct.sublist (scores_sublist req servers)

/-- The candidate is favoured to every other one. -/
def Leader (req : Requirements Rat) (strategy : Strategy) (servers : List (Server Rat))
    (s : Server Rat) : Prop :=
  ∀ t ∈ servers, Candidate req t → t.serverId ≠ s.serverId →
    strategy.Favours req.allocation s t

theorem leads_iff (byLoad : Strategy.ByLoad strategy order) {s : Server Rat} {w : Score Rat}
    (hw : w ∈ scores req servers) (of : w.Of s req.allocation) :
    Score.Leads order (scores req servers) w ↔ Leader req strategy servers s := by
  constructor
  · intro leads t ht candidate other
    obtain ⟨x, hx, hxt⟩ := candidate.score ht
    rw [← byLoad.eq_lt_iff of hxt]
    refine leads.ahead x hx ?_
    rwa [hxt.serverId, of.serverId]
  · refine fun leader => ⟨hw, fun x hx other => ?_⟩
    obtain ⟨t, ht, candidate, hxt⟩ := mem_scores_iff.1 hx
    have hof := Score.of_ofServer? hxt
    rw [byLoad.eq_lt_iff of hof]
    refine leader t ht candidate ?_
    rwa [← hof.serverId, ← of.serverId]

/-- A leader is chosen, however the servers are listed. -/
theorem settled_of_leads (byLoad : Strategy.ByLoad strategy order)
    (distinct : (servers.map Server.serverId).Nodup) {w : Score Rat}
    (leads : Score.Leads order (scores req servers) w) : Settled req strategy servers := by
  have hchoose : ∀ servers' cursor, servers'.Perm servers →
      choose req strategy servers' cursor =
        .ok { serverId := w.serverId, strategy, requirements := req } := by
    intro servers' cursor perm
    have hperm : (scores req servers').Perm (scores req servers) := scores_perm perm
    have hleads : Score.Leads order (scores req servers') w :=
      ⟨hperm.mem_iff.2 leads.mem, fun x hx => leads.ahead x (hperm.mem_iff.1 hx)⟩
    have hdistinct := (perm.map Server.serverId).nodup_iff.2 distinct
    exact choose_of_first? byLoad (hleads.first?_eq byLoad.decisive (nodup_scores hdistinct)) cursor
  intro servers' cursor cursor' perm
  rw [hchoose servers' cursor' perm, hchoose servers cursor (List.Perm.refl servers)]

/-- A choice that does not depend on the listing is favoured to every other candidate, as that
candidate may be listed last. -/
theorem leads_of_settled (byLoad : Strategy.ByLoad strategy order)
    (distinct : (servers.map Server.serverId).Nodup) (settled : Settled req strategy servers)
    {w : Score Rat} (first : Score.first? order (scores req servers) = some w) :
    Score.Leads order (scores req servers) w := by
  refine ⟨Score.mem_of_first? first, fun x hx other => ?_⟩
  obtain ⟨t, ht, candidate, hxt⟩ := mem_scores_iff.1 hx
  obtain ⟨front, back, rfl⟩ := List.append_of_mem ht
  have hperm : (front ++ back ++ [t]).Perm (front ++ t :: back) := by
    rw [List.append_assoc]
    exact (List.perm_append_singleton t back).append_left front
  have hlast : scores req [t] = [x] := by
    rw [scores, List.filter_singleton, decide_eq_true candidate.toSuits, cond_true,
      List.filterMap_cons, hxt, List.filterMap_nil]
  obtain ⟨w', hw'⟩ : ∃ w', Score.first? order (scores req (front ++ back ++ [t])) = some w' := by
    refine Option.ne_none_iff_exists'.1 fun hnone => ?_
    have hnil := Score.first?_eq_none_iff.1 hnone
    rw [scores_append, hlast] at hnil
    exact List.append_ne_nil_of_right_ne_nil _ (List.cons_ne_nil _ _) hnil
  have hsame := settled _ 0 0 hperm
  rw [choose_of_first? byLoad hw' 0, choose_of_first? byLoad first 0] at hsame
  have hid : w'.serverId = w.serverId := congrArg Placement.serverId (Except.ok.inj hsame)
  have hmem := (scores_perm hperm).mem_iff.1 (Score.mem_of_first? hw')
  have hwin : w' = w :=
    List.inj_on_of_nodup_map (nodup_scores distinct) hmem (Score.mem_of_first? first) hid
  rw [scores_append, hlast, hwin] at hw'
  have hne : w ≠ x := by
    rintro rfl
    exact other rfl
  exact byLoad.decisive.lt_of_ne_gt other (Score.ne_gt_of_first?_concat hw' hne).2

/-- **What a choice by load comes to.** One of the candidates is chosen, and the best of them is
missed by no more than the tolerance for each of the others. The choice is the same for every
listing of the servers if and only if the chosen candidate is favoured to every other one; then it
misses the best by no more than the tolerance. That is so where the utilizations within the
tolerance of a third are within the tolerance of each other. -/
theorem choose_by_load (byLoad : strategy = .spread ∨ strategy = .bestFit)
    (distinct : (servers.map Server.serverId).Nodup) (some : ∃ s ∈ servers, Candidate req s)
    (cursor : Nat) :
    ∃ s ∈ servers, Candidate req s ∧
      choose req strategy servers cursor =
        .ok { serverId := s.serverId, strategy, requirements := req } ∧
      (∀ t ∈ servers, Candidate req t →
        strategy.Within (((scores req servers).length - 1 : Nat) * tolerance)
          (s.utilizationWith req.allocation) (t.utilizationWith req.allocation)) ∧
      (Settled req strategy servers ↔ Leader req strategy servers s) ∧
      (Leader req strategy servers s → ∀ t ∈ servers, Candidate req t →
        strategy.Within tolerance (s.utilizationWith req.allocation)
          (t.utilizationWith req.allocation)) ∧
      (Clustered req servers → Leader req strategy servers s) := by
  obtain ⟨order, byLoad⟩ := Strategy.ByLoad.of_eq byLoad
  obtain ⟨some, mem, candidate⟩ := some
  obtain ⟨x, hx, -⟩ := candidate.score mem
  obtain ⟨w, first⟩ : ∃ w, Score.first? order (scores req servers) = .some w := by
    refine Option.ne_none_iff_exists'.1 fun hnone => ?_
    rw [Score.first?_eq_none_iff.1 hnone] at hx
    cases hx
  have hw := Score.mem_of_first? first
  obtain ⟨s, hs, candidate, hscore⟩ := mem_scores_iff.1 hw
  have hof := Score.of_ofServer? hscore
  refine ⟨s, hs, candidate, ?_, ?_, ?_, ?_, ?_⟩
  · rw [choose_of_first? byLoad first cursor, hof.serverId]
  · intro t ht candidate'
    obtain ⟨y, hy, hyt⟩ := candidate'.score ht
    rw [← hof.utilization, ← hyt.utilization]
    exact byLoad.within first y hy
  · rw [← leads_iff byLoad hw hof]
    exact ⟨fun settled => leads_of_settled byLoad distinct settled first,
      settled_of_leads byLoad distinct⟩
  · intro leader t ht candidate'
    by_cases same : t.serverId = s.serverId
    · cases eq_of_serverId distinct ht hs same
      exact byLoad.within_self _
    · exact (leader t ht candidate' same).within
  · intro clustered
    obtain ⟨w', leads⟩ := Score.exists_leads byLoad.decisive (byLoad.trans clustered.scores)
      (List.ne_nil_of_mem hw)
    have hwin := leads.first?_eq byLoad.decisive (nodup_scores distinct)
    rw [first] at hwin
    cases hwin
    exact (leads_iff byLoad hw hof).1 leads

namespace PreferenceRun

/-- A healthy server with four cores that has so many workspaces and uses so much. -/
def server (id : String) (workspaces : Nat) (used : Rat) : Server Rat :=
  { FillingRun.server id with workspaceCount := workspaces, cpuUsed := used, maxWorkspaces := 4 }

/-- One core and nothing else. -/
def request : Requirements Rat := .ofResources 1 0 0

/-- The id of the server that is chosen. -/
def chosen (strategy : Strategy) (servers : List (Server Rat)) : Option String :=
  (choose request strategy servers 0).toOption.map Placement.serverId

theorem candidate {id : String} {workspaces : Nat} {used : Rat}
    (room : (server id workspaces used).fits request.allocation = true) :
    Candidate request (server id workspaces used) :=
  ⟨⟨rfl, nofun, nofun⟩, room⟩

/-- The second uses less than a tolerance more than the first, and the third a quarter more. -/
def pairAndOne : List (Server Rat) :=
  [server "a" 2 0, server "b" 1 (mkRat 1 500000000), server "c" 0 1]

end PreferenceRun

open PreferenceRun in
/-- Of two servers whose utilizations are within the tolerance the one with fewer workspaces is
chosen, however they are listed. -/
theorem choose_by_load_pair : ∃ s ∈ pairAndOne, s.serverId = "b" ∧
    Settled request .spread pairAndOne ∧
    ∀ t ∈ pairAndOne, Candidate request t →
      s.utilizationWith request.allocation ≤ t.utilizationWith request.allocation + tolerance := by
  have hclustered : Clustered request pairAndOne := by
    have h : ∀ s ∈ pairAndOne, ∀ t ∈ pairAndOne, ∀ u ∈ pairAndOne,
        |s.utilizationWith request.allocation - t.utilizationWith request.allocation| ≤ tolerance →
        |t.utilizationWith request.allocation - u.utilizationWith request.allocation| ≤ tolerance →
        |s.utilizationWith request.allocation - u.utilizationWith request.allocation| ≤
          tolerance := by decide +kernel
    exact fun s hs t ht u hu _ _ _ => h s hs t ht u hu
  have hdistinct : (pairAndOne.map Server.serverId).Nodup := by decide
  have hsome : ∃ s ∈ pairAndOne, Candidate request s :=
    ⟨server "a" 2 0, List.mem_cons_self, candidate (by decide +kernel)⟩
  obtain ⟨s, hs, -, hchoose, -, hsettled, hwithin, hleader⟩ :=
    choose_by_load (.inl rfl) hdistinct hsome 0
  refine ⟨s, hs, ?_, hsettled.2 (hleader hclustered), hwithin (hleader hclustered)⟩
  have hb : chosen .spread pairAndOne = some "b" := by decide +kernel
  rw [chosen, hchoose] at hb
  exact Option.some.inj hb

namespace PreferenceRun

/-- Each uses less than a tolerance more than the one before it and has a workspace less. -/
def a : Server Rat := server "a" 2 0
def b : Server Rat := server "b" 1 (mkRat 36 10000000000)
def c : Server Rat := server "c" 0 (mkRat 72 10000000000)

end PreferenceRun

open PreferenceRun in
/-- **The listing decides** among three candidates each of which is within the tolerance of the
next: `spread` takes the one that is used most or the one that is used least, and so does `bestFit`,
and the two are more than the tolerance apart. -/
theorem choose_by_load_astray :
    (∀ s ∈ [a, b, c], Candidate request s) ∧ ([a, b, c].map Server.serverId).Nodup ∧
    [b, c, a].Perm [a, b, c] ∧ [c, b, a].Perm [a, b, c] ∧
    a.utilizationWith request.allocation + tolerance < c.utilizationWith request.allocation ∧
    chosen .spread [a, b, c] = some "c" ∧ chosen .spread [b, c, a] = some "a" ∧
    chosen .bestFit [c, b, a] = some "a" ∧ chosen .bestFit [a, b, c] = some "c" := by
  refine ⟨?_, by decide, List.perm_append_singleton a [b, c],
    List.reverse_perm [a, b, c], by decide +kernel, by decide +kernel, by decide +kernel,
    by decide +kernel, by decide +kernel⟩
  intro s hs
  rcases List.mem_cons.1 hs with rfl | hs
  · exact candidate (by decide +kernel)
  · rcases List.mem_cons.1 hs with rfl | hs
    · exact candidate (by decide +kernel)
    · cases List.mem_singleton.1 hs
      exact candidate (by decide +kernel)

/-! ## Utilizations that are equal or clearly apart -/

/-- The utilizations of any two candidates are equal or more than the tolerance apart. -/
def Apart (req : Requirements Rat) (servers : List (Server Rat)) : Prop :=
  ∀ s ∈ servers, ∀ t ∈ servers, Candidate req s → Candidate req t →
    s.utilizationWith req.allocation = t.utilizationWith req.allocation ∨
      tolerance < |s.utilizationWith req.allocation - t.utilizationWith req.allocation|

/-- The candidate comes before all the others. -/
structure Foremost (req : Requirements Rat) (before : Server Rat → Server Rat → Prop)
    (servers : List (Server Rat)) (s : Server Rat) : Prop where
  mem : s ∈ servers
  candidate : Candidate req s
  before : ∀ t ∈ servers, Candidate req t → t ≠ s → before s t

theorem Apart.eq_of_close (apart : Apart req servers) {s t : Server Rat} (hs : s ∈ servers)
    (ht : t ∈ servers) (candidate : Candidate req s) (candidate' : Candidate req t)
    (close : |s.utilizationWith req.allocation - t.utilizationWith req.allocation| ≤ tolerance) :
    s.utilizationWith req.allocation = t.utilizationWith req.allocation :=
  (apart s hs t ht candidate candidate').resolve_right (not_lt.2 close)

theorem Apart.clustered (apart : Apart req servers) : Clustered req servers := by
  intro s hs t ht u hu candidate candidate' candidate'' hst htu
  rwa [apart.eq_of_close hs ht candidate candidate' hst]

theorem Apart.less_of_lighter (apart : Apart req servers) {s t : Server Rat} (hs : s ∈ servers)
    (ht : t ∈ servers) (candidate : Candidate req s) (candidate' : Candidate req t)
    (h : s.Lighter req.allocation t) : s.Less req.allocation t := by
  rcases h with hlt | ⟨close, tie⟩
  · exact .inl (by linarith [Quantity.tolerance_pos])
  · exact .inr ⟨apart.eq_of_close hs ht candidate candidate' close, tie⟩

/-- What a strategy favours comes first in an order that cannot run both ways. -/
theorem exists_foremost (byLoad : strategy = .spread ∨ strategy = .bestFit)
    (distinct : (servers.map Server.serverId).Nodup) (some : ∃ s ∈ servers, Candidate req s)
    (apart : Apart req servers) {before : Server Rat → Server Rat → Prop}
    (asymm : ∀ s t, before s t → ¬before t s)
    (favoured : ∀ s ∈ servers, ∀ t ∈ servers, Candidate req s → Candidate req t →
      strategy.Favours req.allocation s t → before s t) (cursor : Nat) :
    ∃ s, Foremost req before servers s ∧ (∀ s', Foremost req before servers s' → s' = s) ∧
      choose req strategy servers cursor =
        .ok { serverId := s.serverId, strategy, requirements := req } := by
  obtain ⟨s, hs, candidate, hchoose, -, -, -, hleader⟩ :=
    choose_by_load byLoad distinct some cursor
  have foremost : Foremost req before servers s := by
    refine ⟨hs, candidate, fun t ht candidate' other => ?_⟩
    refine favoured s hs t ht candidate candidate' (hleader apart.clustered t ht candidate' ?_)
    exact fun same => other (eq_of_serverId distinct ht hs same)
  refine ⟨s, foremost, fun s' foremost' => ?_, hchoose⟩
  by_contra other
  exact asymm s s' (foremost.before s' foremost'.mem foremost'.candidate other)
    (foremost'.before s hs candidate (Ne.symm other))

/-- **Exact ties.** Where utilizations are equal or clearly apart `spread` chooses the candidate
that is less than all others by utilization, number of workspaces and id, and `bestFit` the one that
all others are less than. -/
theorem choose_foremost (distinct : (servers.map Server.serverId).Nodup)
    (some : ∃ s ∈ servers, Candidate req s) (apart : Apart req servers) (cursor : Nat) :
    (∃ s, Foremost req (Server.Less req.allocation) servers s ∧
      (∀ s', Foremost req (Server.Less req.allocation) servers s' → s' = s) ∧
      choose req .spread servers cursor =
        .ok { serverId := s.serverId, strategy := .spread, requirements := req }) ∧
    ∃ s, Foremost req (fun s t => t.Less req.allocation s) servers s ∧
      (∀ s', Foremost req (fun s t => t.Less req.allocation s) servers s' → s' = s) ∧
      choose req .bestFit servers cursor =
        .ok { serverId := s.serverId, strategy := .bestFit, requirements := req } := by
  constructor
  · exact exists_foremost (.inl rfl) distinct some apart (fun s t h => h.asymm)
      (fun s hs t ht candidate candidate' h => apart.less_of_lighter hs ht candidate candidate' h)
      cursor
  · exact exists_foremost (.inr rfl) distinct some apart (fun s t h => h.asymm)
      (fun s hs t ht candidate candidate' h => apart.less_of_lighter ht hs candidate' candidate h)
      cursor

namespace PreferenceRun

/-- Two that use as much, one of them with fewer workspaces, and two that use more and differ in
their ids only. -/
def twoPairs : List (Server Rat) := [server "d" 1 2, server "b" 2 1, server "c" 1 1, server "a" 1 2]

end PreferenceRun

open PreferenceRun in
/-- The smaller number of workspaces decides for `spread`, and the larger id for `bestFit`. -/
theorem choose_foremost_pairs :
    (∃ s, Foremost request (Server.Less request.allocation) twoPairs s ∧ s.serverId = "c" ∧
      choose request .spread twoPairs 0 =
        .ok { serverId := s.serverId, strategy := .spread, requirements := request }) ∧
    ∃ s, Foremost request (fun s t => t.Less request.allocation s) twoPairs s ∧
      s.serverId = "d" ∧
      choose request .bestFit twoPairs 0 =
        .ok { serverId := s.serverId, strategy := .bestFit, requirements := request } := by
  have hdistinct : (twoPairs.map Server.serverId).Nodup := by decide
  have hsome : ∃ s ∈ twoPairs, Candidate request s :=
    ⟨server "d" 1 2, List.mem_cons_self, candidate (by decide +kernel)⟩
  have hapart : Apart request twoPairs := by
    have h : ∀ s ∈ twoPairs, ∀ t ∈ twoPairs,
        s.utilizationWith request.allocation = t.utilizationWith request.allocation ∨
          tolerance <
            |s.utilizationWith request.allocation - t.utilizationWith request.allocation| := by
      decide +kernel
    exact fun s hs t ht _ _ => h s hs t ht
  obtain ⟨⟨s, hs, -, hspread⟩, t, ht, -, hbestFit⟩ :=
    choose_foremost hdistinct hsome hapart 0
  refine ⟨⟨s, hs, ?_, hspread⟩, t, ht, ?_, hbestFit⟩
  · have hc : chosen .spread twoPairs = some "c" := by decide +kernel
    rw [chosen, hspread] at hc
    exact Option.some.inj hc
  · have hd : chosen .bestFit twoPairs = some "d" := by decide +kernel
    rw [chosen, hbestFit] at hd
    exact Option.some.inj hd

end Placement
end WorkspaceFleet
