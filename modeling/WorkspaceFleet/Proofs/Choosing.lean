import Mathlib.Data.List.Basic
import WorkspaceFleet.Placement.Choice

/-!
# WorkspaceFleet.Proofs.Choosing

What a choice of a server answers, and why.

A server `Suits` a request that is healthy, is the target if one is named, and has the required
labels; it is a `Candidate` if the allocation has room there as well. No strategy gives up as long
as there is a candidate, and none takes anything else (`mem_of_pick?`, `pick?_eq_none_iff`).

`Verdict` lists the answers with the condition of each. `choose_verdict` says that the answer is
always one of them, and `choose_exact_reason` that it is given exactly under its condition.
-/

namespace WorkspaceFleet

variable {κ : Type}

theorem Labels.satisfy_iff {labels required : Labels} :
    labels.satisfy required = true ↔
      ∀ k v, required.get? k = some v → labels.get? k = some v := by
  simp only [satisfy, List.all_eq_true, beq_iff_eq, Prod.forall, Table.get?_eq_some_iff]

namespace Score

theorem mem_foldl_of_mem {order : Score κ → Score κ → Ordering} {scores rest : List (Score κ)}
    {best : Score κ} (hbest : best ∈ scores) (hrest : ∀ x ∈ rest, x ∈ scores) :
    rest.foldl (fun best x => if order best x = .gt then x else best) best ∈ scores := by
  induction rest generalizing best with
  | nil => exact hbest
  | cons x rest ih =>
    rw [List.foldl_cons]
    refine ih ?_ fun y hy => hrest y (List.mem_cons_of_mem x hy)
    split
    · exact hrest x List.mem_cons_self
    · exact hbest

theorem mem_of_first? {order : Score κ → Score κ → Ordering} {scores : List (Score κ)}
    {x : Score κ} (h : first? order scores = some x) : x ∈ scores := by
  cases scores with
  | nil => cases h
  | cons s rest =>
    cases h
    exact mem_foldl_of_mem List.mem_cons_self fun y hy => List.mem_cons_of_mem s hy

theorem first?_eq_none_iff {order : Score κ → Score κ → Ordering} {scores : List (Score κ)} :
    first? order scores = none ↔ scores = [] := by
  cases scores <;> simp [first?]

theorem ofServer?_eq_some [Quantity κ] {s : Server κ} {a : Allocation κ} {x : Score κ}
    (h : ofServer? s a = some x) : s.fits a = true ∧ x.serverId = s.serverId := by
  rw [ofServer?] at h
  split at h
  · next room =>
    cases h
    exact ⟨room, rfl⟩
  · cases h

theorem ofServer?_eq_none_iff [Quantity κ] {s : Server κ} {a : Allocation κ} :
    ofServer? s a = none ↔ s.fits a = false := by
  cases hfits : s.fits a <;> simp [ofServer?, hfits]

end Score

/-! ## The strategies -/

namespace Placement

variable [Quantity κ] {strategy : Strategy} {cursor : Nat} {scores : List (Score κ)}

theorem mem_of_pick? {x : Score κ} (h : pick? strategy cursor scores = some x) : x ∈ scores := by
  cases strategy with
  | spread => exact Score.mem_of_first? h
  | bestFit => exact Score.mem_of_first? h
  | roundRobin => exact (List.mergeSort_perm scores _).subset (List.mem_of_getElem? h)
  | affinity => exact List.mem_of_head? h

/-- No strategy gives up as long as there is something to choose from. -/
theorem pick?_eq_none_iff : pick? strategy cursor scores = none ↔ scores = [] := by
  cases strategy with
  | spread => exact Score.first?_eq_none_iff
  | bestFit => exact Score.first?_eq_none_iff
  | roundRobin =>
    simp only [pick?, List.getElem?_eq_none_iff, List.length_mergeSort]
    constructor
    · intro hle
      refine List.eq_nil_of_length_eq_zero (Nat.eq_zero_of_not_pos fun hpos => ?_)
      exact Nat.not_lt.2 hle (Nat.mod_lt cursor hpos)
    · rintro rfl
      exact Nat.zero_le _
  | affinity => exact List.head?_eq_none_iff

end Placement

namespace Placement

/-! ## Candidates -/

/-- The server is healthy, the target if one is named, and has every required label with an equal
value of the same kind. -/
structure Suits (req : Requirements κ) (s : Server κ) : Prop where
  healthy : s.isHealthy = true
  target : ∀ t, req.affinity = some t → s.serverId = t
  labels : ∀ k v, req.requiredLabels.get? k = some v → s.labels.get? k = some v

theorem suits_iff {req : Requirements κ} {s : Server κ} :
    Suits req s ↔ (s.labels.satisfy req.requiredLabels &&
      (req.affinity.all (s.serverId == ·) && s.isHealthy)) = true := by
  have hpinned : req.affinity.all (s.serverId == ·) = true ↔
      ∀ t, req.affinity = some t → s.serverId = t := by
    cases req.affinity <;> simp
  rw [Bool.and_eq_true, Bool.and_eq_true, Labels.satisfy_iff, hpinned]
  constructor
  · intro h
    exact ⟨h.labels, h.target, h.healthy⟩
  · rintro ⟨labels, target, healthy⟩
    exact ⟨healthy, target, labels⟩

instance decidableSuits (req : Requirements κ) : DecidablePred (Suits req) := fun _ =>
  decidable_of_iff _ suits_iff.symm

/-- The server suits the request, and the allocation has room on it. -/
structure Candidate [Quantity κ] (req : Requirements κ) (s : Server κ) : Prop extends
    Suits req s where
  room : s.fits req.allocation = true

theorem pinned_eq_filter (affinity : Option String) (servers : List (Server κ)) :
    pinned affinity servers = servers.filter fun s => affinity.all (s.serverId == ·) := by
  cases affinity <;> simp [pinned]

/-- The filters, one after the other, leave the servers that suit. -/
theorem filters_eq (req : Requirements κ) (servers : List (Server κ)) :
    (pinned req.affinity (servers.filter Server.isHealthy)).filter
      (fun s => s.labels.satisfy req.requiredLabels) =
    servers.filter fun s => decide (Suits req s) := by
  rw [pinned_eq_filter, List.filter_filter, List.filter_filter]
  refine List.filter_congr fun s _ => ?_
  rw [Bool.eq_iff_iff, decide_eq_true_eq, suits_iff, Bool.and_assoc]

/-! ## The answers -/

def AnyHealthy (servers : List (Server κ)) : Prop := ∃ s ∈ servers, s.isHealthy = true

/-- No healthy server has this id. -/
def Unavailable (servers : List (Server κ)) (t : String) : Prop :=
  ∀ s ∈ servers, s.isHealthy = true → s.serverId ≠ t

/-- Nothing is wrong with the request itself: some server is healthy, so is the target if one is
named, and one is named if the strategy wants it. -/
structure Answerable (req : Requirements κ) (strategy : Strategy) (servers : List (Server κ)) :
    Prop where
  healthy : AnyHealthy servers
  available : ∀ t, req.affinity = some t → ¬Unavailable servers t
  aimed : strategy = .affinity → req.affinity ≠ none

/-- The answers to a request, each with the condition under which it is given. -/
inductive Verdict [Quantity κ] (req : Requirements κ) (strategy : Strategy)
    (servers : List (Server κ)) : Except PlacementError (Placement κ) → Prop where
  | ill (ill : ¬AnyHealthy servers) : Verdict req strategy servers (.error .noHealthyServers)
  | unavailable {t : String} (healthy : AnyHealthy servers) (target : req.affinity = some t)
      (missing : Unavailable servers t) :
      Verdict req strategy servers (.error (.affinityServerUnavailable t))
  | aimless (healthy : AnyHealthy servers) (wanted : strategy = .affinity)
      (target : req.affinity = none) : Verdict req strategy servers (.error .missingAffinityTarget)
  | full (sensible : Answerable req strategy servers) (none : ∀ s ∈ servers, ¬Candidate req s) :
      Verdict req strategy servers
        (.error (.insufficientCapacity (servers.countP Server.isHealthy)
          (servers.countP fun s => decide (Suits req s))))
  | chosen {s : Server κ} (sensible : Answerable req strategy servers) (mem : s ∈ servers)
      (candidate : Candidate req s) :
      Verdict req strategy servers
        (.ok { serverId := s.serverId, strategy, requirements := req })

section Choice

variable {req : Requirements κ} {strategy : Strategy} {servers : List (Server κ)}

theorem unavailable_iff {t : String} (target : req.affinity = some t) :
    (pinned req.affinity (servers.filter Server.isHealthy)).isEmpty = true ↔
      Unavailable servers t := by
  rw [target, List.isEmpty_iff]
  simp only [pinned, List.filter_eq_nil_iff, List.mem_filter, beq_iff_eq, and_imp, Unavailable]

variable [Quantity κ]

/-- The last two filters and the strategy. -/
theorem verdict_pick (sensible : Answerable req strategy servers) (cursor : Nat) :
    Verdict req strategy servers
      (match pick? strategy cursor
          ((servers.filter fun s => decide (Suits req s)).filterMap
            (Score.ofServer? · req.allocation)) with
        | some score =>
          .ok { serverId := score.serverId, strategy, requirements := req }
        | none =>
          .error (.insufficientCapacity (servers.filter Server.isHealthy).length
            (servers.filter fun s => decide (Suits req s)).length)) := by
  split
  · next score hpick =>
    obtain ⟨s, hs, hscore⟩ := List.mem_filterMap.1 (mem_of_pick? hpick)
    obtain ⟨hmem, hsuits⟩ := List.mem_filter.1 hs
    obtain ⟨room, hid⟩ := Score.ofServer?_eq_some hscore
    rw [hid]
    exact .chosen sensible hmem ⟨of_decide_eq_true hsuits, room⟩
  · next hpick =>
    have hnone := List.filterMap_eq_nil_iff.1 (pick?_eq_none_iff.1 hpick)
    rw [← List.countP_eq_length_filter, ← List.countP_eq_length_filter]
    refine .full sensible fun s hmem candidate => ?_
    have hfull := Score.ofServer?_eq_none_iff.1
      (hnone s (List.mem_filter.2 ⟨hmem, decide_eq_true candidate.toSuits⟩))
    rw [candidate.room] at hfull
    cases hfull

/-- **Every choice** gives one of the answers, under its condition. -/
theorem choose_verdict (req : Requirements κ) (strategy : Strategy) (servers : List (Server κ))
    (cursor : Nat) : Verdict req strategy servers (choose req strategy servers cursor) := by
  by_cases healthy : AnyHealthy servers
  · have hsome : (servers.filter Server.isHealthy).isEmpty = false := by
      obtain ⟨s, hmem, hs⟩ := healthy
      exact List.isEmpty_eq_false_iff_exists_mem.2 ⟨s, List.mem_filter.2 ⟨hmem, hs⟩⟩
    simp only [choose, hsome, Bool.false_eq_true, if_false, filters_eq]
    split
    · next t target missing =>
      exact .unavailable healthy target ((unavailable_iff target).1 missing)
    · next target => exact .aimless healthy rfl target
    · next aimed available =>
      refine verdict_pick ⟨healthy, ?_, ?_⟩ cursor
      · intro t target missing
        exact available t target ((unavailable_iff target).2 missing)
      · rintro rfl target
        exact aimed target rfl
  · have hnone : (servers.filter Server.isHealthy).isEmpty = true := by
      rw [List.isEmpty_iff, List.filter_eq_nil_iff]
      intro s hmem hs
      exact healthy ⟨s, hmem, hs⟩
    simp only [choose, hnone, if_true]
    exact .ill healthy

/-- What was chosen was picked among the scores of the servers that suit. -/
theorem pick_of_choose {cursor : Nat} {p : Placement κ}
    (h : choose req strategy servers cursor = .ok p) :
    ∃ score, pick? strategy cursor ((servers.filter fun s => decide (Suits req s)).filterMap
      (Score.ofServer? · req.allocation)) = some score ∧ p.serverId = score.serverId := by
  simp only [choose, filters_eq] at h
  split at h
  · cases h
  · split at h
    · cases h
    · cases h
    · split at h
      · next score hpick =>
        cases h
        exact ⟨score, hpick, rfl⟩
      · cases h

end Choice

/-! ## Each answer and its condition -/

namespace Verdict

variable [Quantity κ] {req : Requirements κ} {strategy : Strategy} {servers : List (Server κ)}
  {answer : Except PlacementError (Placement κ)}

theorem eq_noHealthyServers_iff (h : Verdict req strategy servers answer) :
    answer = .error .noHealthyServers ↔ ¬AnyHealthy servers := by
  cases h with
  | ill ill => exact iff_of_true rfl ill
  | unavailable healthy target missing => exact iff_of_false nofun (not_not_intro healthy)
  | aimless healthy wanted target => exact iff_of_false nofun (not_not_intro healthy)
  | full sensible none => exact iff_of_false nofun (not_not_intro sensible.healthy)
  | chosen sensible mem candidate => exact iff_of_false nofun (not_not_intro sensible.healthy)

theorem eq_affinityServerUnavailable_iff (h : Verdict req strategy servers answer) (t : String) :
    answer = .error (.affinityServerUnavailable t) ↔
      AnyHealthy servers ∧ req.affinity = some t ∧ Unavailable servers t := by
  cases h with
  | ill ill => exact iff_of_false nofun fun h => ill h.1
  | unavailable healthy target missing =>
    constructor
    · intro h
      cases h
      exact ⟨healthy, target, missing⟩
    · rintro ⟨-, target', -⟩
      cases target.symm.trans target'
      rfl
  | aimless healthy wanted target =>
    refine iff_of_false nofun ?_
    rintro ⟨-, target', -⟩
    cases target.symm.trans target'
  | full sensible none => exact iff_of_false nofun fun h => sensible.available t h.2.1 h.2.2
  | chosen sensible mem candidate =>
    exact iff_of_false nofun fun h => sensible.available t h.2.1 h.2.2

theorem eq_missingAffinityTarget_iff (h : Verdict req strategy servers answer) :
    answer = .error .missingAffinityTarget ↔
      AnyHealthy servers ∧ strategy = .affinity ∧ req.affinity = none := by
  cases h with
  | ill ill => exact iff_of_false nofun fun h => ill h.1
  | unavailable healthy target missing =>
    refine iff_of_false nofun ?_
    rintro ⟨-, -, target'⟩
    cases target.symm.trans target'
  | aimless healthy wanted target => exact iff_of_true rfl ⟨healthy, wanted, target⟩
  | full sensible none => exact iff_of_false nofun fun h => sensible.aimed h.2.1 h.2.2
  | chosen sensible mem candidate =>
    exact iff_of_false nofun fun h => sensible.aimed h.2.1 h.2.2

theorem eq_insufficientCapacity_iff (h : Verdict req strategy servers answer)
    (healthy labelMatched : Nat) :
    answer = .error (.insufficientCapacity healthy labelMatched) ↔
      Answerable req strategy servers ∧ (∀ s ∈ servers, ¬Candidate req s) ∧
      healthy = servers.countP Server.isHealthy ∧
      labelMatched = servers.countP fun s => decide (Suits req s) := by
  cases h with
  | ill ill => exact iff_of_false nofun fun h => ill h.1.healthy
  | unavailable some target missing =>
    exact iff_of_false nofun fun h => h.1.available _ target missing
  | aimless some wanted target => exact iff_of_false nofun fun h => h.1.aimed wanted target
  | full sensible none =>
    constructor
    · intro h
      cases h
      exact ⟨sensible, none, rfl, rfl⟩
    · rintro ⟨-, -, rfl, rfl⟩
      rfl
  | chosen sensible mem candidate => exact iff_of_false nofun fun h => h.2.1 _ mem candidate

theorem ne_registry (h : Verdict req strategy servers answer) (cause : RegistryError) :
    answer ≠ .error (.registry cause) := by
  cases h <;> exact nofun

theorem exists_eq_ok_iff (h : Verdict req strategy servers answer) :
    (∃ p, answer = .ok p) ↔
      Answerable req strategy servers ∧ ∃ s ∈ servers, Candidate req s := by
  cases h with
  | ill ill => exact iff_of_false nofun fun h => ill h.1.healthy
  | unavailable some target missing =>
    exact iff_of_false nofun fun h => h.1.available _ target missing
  | aimless some wanted target => exact iff_of_false nofun fun h => h.1.aimed wanted target
  | full sensible none =>
    refine iff_of_false nofun ?_
    rintro ⟨-, s, mem, candidate⟩
    exact none s mem candidate
  | chosen sensible mem candidate => exact iff_of_true ⟨_, rfl⟩ ⟨sensible, _, mem, candidate⟩

/-- What is chosen is a candidate, and the request is given back as it was. -/
theorem of_ok {p : Placement κ} (h : Verdict req strategy servers (.ok p)) :
    ∃ s ∈ servers, Candidate req s ∧
      p = { serverId := s.serverId, strategy, requirements := req } := by
  cases h with
  | chosen sensible mem candidate => exact ⟨_, mem, candidate, rfl⟩

end Verdict

/-- **The exact reason.** A choice answers with an error exactly under its condition, the counts
being those of the healthy servers and of the ones that suit. Where nothing is wrong with the
request it succeeds if and only if there is a candidate, and then it names one, which is the target
if there is one, and gives back the request as it was. -/
theorem choose_exact_reason [Quantity κ] (req : Requirements κ) (strategy : Strategy)
    (servers : List (Server κ)) (cursor : Nat) :
    (choose req strategy servers cursor = .error .noHealthyServers ↔ ¬AnyHealthy servers) ∧
    (∀ t, choose req strategy servers cursor = .error (.affinityServerUnavailable t) ↔
      AnyHealthy servers ∧ req.affinity = some t ∧ Unavailable servers t) ∧
    (choose req strategy servers cursor = .error .missingAffinityTarget ↔
      AnyHealthy servers ∧ strategy = .affinity ∧ req.affinity = none) ∧
    (∀ healthy labelMatched,
      choose req strategy servers cursor = .error (.insufficientCapacity healthy labelMatched) ↔
        Answerable req strategy servers ∧ (∀ s ∈ servers, ¬Candidate req s) ∧
        healthy = servers.countP Server.isHealthy ∧
        labelMatched = servers.countP fun s => decide (Suits req s)) ∧
    (∀ cause, choose req strategy servers cursor ≠ .error (.registry cause)) ∧
    ((∃ p, choose req strategy servers cursor = .ok p) ↔
      Answerable req strategy servers ∧ ∃ s ∈ servers, Candidate req s) ∧
    ∀ p, choose req strategy servers cursor = .ok p →
      (∃ s ∈ servers, Candidate req s ∧ p.serverId = s.serverId) ∧
      (∀ t, req.affinity = some t → p.serverId = t) ∧
      p.strategy = strategy ∧ p.requirements = req := by
  have hverdict := choose_verdict req strategy servers cursor
  refine ⟨hverdict.eq_noHealthyServers_iff, hverdict.eq_affinityServerUnavailable_iff,
    hverdict.eq_missingAffinityTarget_iff, hverdict.eq_insufficientCapacity_iff,
    hverdict.ne_registry, hverdict.exists_eq_ok_iff, ?_⟩
  intro p hp
  obtain ⟨s, mem, candidate, rfl⟩ := (hp ▸ hverdict).of_ok
  exact ⟨⟨s, mem, candidate, rfl⟩, candidate.target, rfl, rfl⟩

end Placement
end WorkspaceFleet
