import WorkspaceFleet.Proofs.Filling
import WorkspaceFleet.Proofs.Turns

/-!
# WorkspaceFleet.Proofs.Ignoring

Servers that are no candidates have no say in a choice.

A server that is not healthy, is not the target, lacks a label or has no room has no score
(`Placement.scores_eq`), and as long as there is a candidate the answer is the strategy's pick among
the scores (`Placement.choose_of_candidate`). So two lists with the same candidates, in the same
order, give the same answer. By turns even their order makes no difference, as they are put in the
order of their ids first (`Placement.pick?_roundRobin_perm`): `Placement.choose_ignores`.
-/

namespace WorkspaceFleet
namespace Placement

variable {κ : Type} [Quantity κ] {req : Requirements κ} {strategy : Strategy} {cursor : Nat}
  {servers servers' : List (Server κ)}

theorem candidate_iff {s : Server κ} :
    Candidate req s ↔ Suits req s ∧ s.fits req.allocation = true :=
  ⟨fun h => ⟨h.toSuits, h.room⟩, fun h => ⟨h.1, h.2⟩⟩

instance decidableCandidate (req : Requirements κ) : DecidablePred (Candidate req) := fun _ =>
  decidable_of_iff _ candidate_iff.symm

/-- The candidates among servers, in the order in which they are listed. -/
def candidates (req : Requirements κ) (servers : List (Server κ)) : List (Server κ) :=
  servers.filter fun s => decide (Candidate req s)

theorem mem_candidates {s : Server κ} :
    s ∈ candidates req servers ↔ s ∈ servers ∧ Candidate req s := by
  rw [candidates, List.mem_filter, decide_eq_true_eq]

/-- Only candidates have a score. -/
theorem scores_eq (req : Requirements κ) (servers : List (Server κ)) :
    scores req servers = (candidates req servers).filterMap (Score.ofServer? · req.allocation) := by
  simp only [scores, candidates, List.filterMap_filter]
  refine List.filterMap_congr fun s _ => ?_
  by_cases suits : Suits req s
  · cases room : s.fits req.allocation with
    | true => rw [if_pos (decide_eq_true suits), if_pos (decide_eq_true ⟨suits, room⟩)]
    | false => rw [Score.ofServer?_eq_none_iff.2 room, ite_self, ite_self]
  · rw [if_neg (mt of_decide_eq_true suits), if_neg (mt of_decide_eq_true fun h => suits h.toSuits)]

/-- The scores of the candidates are those of servers with the same ids. -/
theorem serverIds_scores (req : Requirements κ) (servers : List (Server κ)) :
    (scores req servers).map Score.serverId =
      (candidates req servers).map Server.serverId := by
  have hroom : ∀ s ∈ candidates req servers, s.fits req.allocation = true :=
    fun s hs => (mem_candidates.1 hs).2.room
  rw [scores_eq]
  generalize candidates req servers = offered at hroom
  induction offered with
  | nil => rfl
  | cons s rest ih =>
    obtain ⟨here, later⟩ := List.forall_mem_cons.1 hroom
    cases hx : Score.ofServer? s req.allocation with
    | none =>
      rw [Score.ofServer?_eq_none_iff, here] at hx
      cases hx
    | some x =>
      rw [List.filterMap_cons, hx, List.map_cons, List.map_cons, ih later,
        (Score.ofServer?_eq_some hx).2]

/-- **The choice where there is a candidate** is the pick among the scores, unless the strategy wants
a target and none is named. -/
theorem choose_of_candidate (any : candidates req servers ≠ []) (strategy : Strategy)
    (cursor : Nat) :
    (strategy = .affinity ∧ req.affinity = none ∧
      choose req strategy servers cursor = .error .missingAffinityTarget) ∨
    (strategy = .affinity → req.affinity ≠ none) ∧
      ∃ score, pick? strategy cursor (scores req servers) = some score ∧
        choose req strategy servers cursor =
          .ok { serverId := score.serverId, strategy, requirements := req } := by
  obtain ⟨s, hs⟩ := List.exists_mem_of_ne_nil _ any
  obtain ⟨mem, candidate⟩ := mem_candidates.1 hs
  have hverdict := choose_verdict req strategy servers cursor
  by_cases aimless : strategy = .affinity ∧ req.affinity = none
  · exact .inl ⟨aimless.1, aimless.2, hverdict.eq_missingAffinityTarget_iff.2
      ⟨⟨s, mem, candidate.healthy⟩, aimless⟩⟩
  · have aimed : strategy = .affinity → req.affinity ≠ none :=
      fun wanted target => aimless ⟨wanted, target⟩
    have hanswerable : Answerable req strategy servers :=
      ⟨⟨s, mem, candidate.healthy⟩,
        fun t target missing => missing s mem candidate.healthy (candidate.target t target), aimed⟩
    obtain ⟨p, hp⟩ := hverdict.exists_eq_ok_iff.2 ⟨hanswerable, s, mem, candidate⟩
    obtain ⟨score, hpick, hid⟩ := pick_of_choose hp
    obtain ⟨t, -, -, rfl⟩ := (hp ▸ hverdict).of_ok
    exact .inr ⟨aimed, score, hpick, by rw [hp, ← hid]⟩

/-- Lists with candidates that leave the strategy the same pick give the same answer. -/
theorem choose_eq_of_pick? (any : candidates req servers ≠ [])
    (any' : candidates req servers' ≠ [])
    (same : pick? strategy cursor (scores req servers') = pick? strategy cursor (scores req servers)) :
    choose req strategy servers' cursor = choose req strategy servers cursor := by
  rcases choose_of_candidate any strategy cursor with
    ⟨wanted, target, h⟩ | ⟨aimed, score, hpick, h⟩ <;>
  rcases choose_of_candidate any' strategy cursor with
    ⟨wanted', target', h'⟩ | ⟨aimed', score', hpick', h'⟩
  · rw [h, h']
  · exact absurd target (aimed' wanted)
  · exact absurd target' (aimed wanted')
  · rw [hpick, hpick'] at same
    cases same
    rw [h, h']

/-- By turns the order of the scores makes no difference, if no two are of one server. -/
theorem pick?_roundRobin_perm {scores scores' : List (Score κ)}
    (distinct : (scores.map Score.serverId).Nodup) (perm : scores'.Perm scores) (cursor : Nat) :
    pick? .roundRobin cursor scores' = pick? .roundRobin cursor scores := by
  have hsorted : (scores'.mergeSort fun a b => decide (a.serverId ≤ b.serverId)) =
      scores.mergeSort fun a b => decide (a.serverId ≤ b.serverId) := by
    refine List.Perm.eq_of_pairwise ?_ (pairwise_byId scores') (pairwise_byId scores)
      ((List.mergeSort_perm _ _).trans (perm.trans (List.mergeSort_perm _ _).symm))
    intro x y hx hy hxy hyx
    exact List.inj_on_of_nodup_map distinct (perm.subset ((List.mergeSort_perm _ _).subset hx))
      ((List.mergeSort_perm _ _).subset hy) (String.le_antisymm hxy hyx)
  rw [pick?, pick?, hsorted]

/-- **Who is no candidate is ignored.** As long as there are candidates, the answer names one of
them, unless the strategy wants a target that is not named. Servers listed in their place that have
the same candidates give the same answer, whatever else is listed with them, wherever it stands and
however it fares. By turns this is so in whatever order the candidates come, if they have different
ids. -/
theorem choose_ignores (req : Requirements κ) (strategy : Strategy) (cursor : Nat)
    (servers servers' : List (Server κ)) (any : candidates req servers ≠ []) :
    (choose req strategy servers cursor = .error .missingAffinityTarget ∧
        strategy = .affinity ∧ req.affinity = none ∨
      ∃ s ∈ candidates req servers, choose req strategy servers cursor =
        .ok { serverId := s.serverId, strategy, requirements := req }) ∧
    (candidates req servers' = candidates req servers →
      choose req strategy servers' cursor = choose req strategy servers cursor) ∧
    (strategy = .roundRobin → ((candidates req servers).map Server.serverId).Nodup →
      (candidates req servers').Perm (candidates req servers) →
      choose req strategy servers' cursor = choose req strategy servers cursor) := by
  refine ⟨?_, fun same => ?_, ?_⟩
  · rcases choose_of_candidate any strategy cursor with
      ⟨wanted, target, h⟩ | ⟨-, score, hpick, h⟩
    · exact .inl ⟨h, wanted, target⟩
    · have hid : score.serverId ∈ (candidates req servers).map Server.serverId := by
        rw [← serverIds_scores]
        exact List.mem_map_of_mem (mem_of_pick? hpick)
      obtain ⟨s, hs, hid⟩ := List.mem_map.1 hid
      exact .inr ⟨s, hs, by rw [h, hid]⟩
  · refine choose_eq_of_pick? any (same ▸ any) ?_
    rw [scores_eq, scores_eq, same]
  · rintro rfl distinct perm
    have any' : candidates req servers' ≠ [] := by
      intro hnil
      rw [hnil, List.nil_perm] at perm
      exact any perm
    refine choose_eq_of_pick? any any' (pick?_roundRobin_perm ?_ ?_ cursor)
    · rw [serverIds_scores]
      exact distinct
    · rw [scores_eq, scores_eq]
      exact perm.filterMap _

namespace IgnoringRun

open FillingRun (server request)

theorem candidate (id : String) : Candidate request (server id) := by
  have room : (server "a").fits request.allocation = true := by decide +kernel
  exact ⟨⟨rfl, nofun, nofun⟩, room⟩

/-- Two candidates after a server that is not healthy. -/
def afterIll : List (Server Rat) :=
  [{ server "c" with status := .unhealthy }, server "b", server "a"]

/-- The same candidates the other way round, with one between them that has no room. -/
def aroundFull : List (Server Rat) :=
  [server "a", { server "0" with workspaceCount := 2 }, server "b"]

theorem candidates_afterIll : candidates request afterIll = [server "b", server "a"] := by
  have ill : ¬ Candidate request { server "c" with status := .unhealthy } :=
    fun h => nomatch h.healthy
  simp [candidates, afterIll, candidate, ill]

theorem candidates_aroundFull : candidates request aroundFull = [server "a", server "b"] := by
  have full : ¬ Candidate request { server "0" with workspaceCount := 2 } := by
    intro h
    have room : Server.fits { server "0" with workspaceCount := 2 } request.allocation = false := by
      decide +kernel
    rw [h.room] at room
    cases room
  simp [candidates, aroundFull, candidate, full]

theorem second_turn : (choose request .roundRobin aroundFull 1).toOption.map Placement.serverId =
    some "b" := by
  have any : candidates request aroundFull ≠ [] := by
    rw [candidates_aroundFull]
    exact List.cons_ne_nil _ _
  have inOrder : (scores request aroundFull).mergeSort
      (fun a b => decide (a.serverId ≤ b.serverId)) = scores request aroundFull :=
    List.mergeSort_of_pairwise (by decide +kernel)
  have second : (pick? .roundRobin 1 (scores request aroundFull)).map Score.serverId =
      some "b" := by
    rw [pick?, inOrder]
    decide +kernel
  obtain ⟨wanted, -⟩ | ⟨-, score, hpick, hchoose⟩ := choose_of_candidate any .roundRobin 1
  · cases wanted
  · rw [hpick] at second
    rw [hchoose]
    exact second

end IgnoringRun

open IgnoringRun in
open FillingRun (server request) in
/-- The second turn is that of the second candidate, however they are listed and whoever is listed
with them. -/
theorem choose_ignores_full :
    (choose request .roundRobin aroundFull 1).toOption.map Placement.serverId = some "b" ∧
    choose request .roundRobin aroundFull 1 = choose request .roundRobin afterIll 1 ∧
    choose request .spread [server "b", server "a"] 1 = choose request .spread afterIll 1 := by
  have any : candidates request afterIll ≠ [] := by
    rw [candidates_afterIll]
    exact List.cons_ne_nil _ _
  have distinct : ((candidates request afterIll).map Server.serverId).Nodup := by
    rw [candidates_afterIll]
    decide
  have swapped : (candidates request aroundFull).Perm (candidates request afterIll) := by
    rw [candidates_afterIll, candidates_aroundFull]
    exact .swap _ _ _
  have alone : candidates request [server "b", server "a"] = candidates request afterIll := by
    rw [candidates_afterIll]
    simp [candidates, candidate]
  exact ⟨second_turn,
    (choose_ignores request .roundRobin 1 afterIll aroundFull any).2.2 rfl distinct swapped,
    (choose_ignores request .spread 1 afterIll [server "b", server "a"] any).2.1 alone⟩

end Placement
end WorkspaceFleet
