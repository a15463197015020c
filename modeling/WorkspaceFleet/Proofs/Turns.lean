import Mathlib.Data.Int.CardIntervalMod
import WorkspaceFleet.Placement.Placer
import WorkspaceFleet.Proofs.Choosing
import WorkspaceFleet.Proofs.Run

/-!
# WorkspaceFleet.Proofs.Turns

Placements by turns are fair.

The candidates of a request stand in the order of their ids, and the cursor points at one of them
(`Placement.turn_of_choose`). A `Question` to a placer is a placement or a preview; only a placement
by turns that succeeds takes a turn, and then the cursor moves on to the next candidate
(`Placer.ask_of_turn`); it succeeds as long as there are candidates (`Placer.length_turns`). In a run
of questions the turns therefore go round the candidates, whatever else is asked in between
(`Placer.askAll_turns`), and a count of residues says how many of them each candidate gets:
`Placer.fair`.
-/

namespace WorkspaceFleet

variable {κ : Type}

/-! ## Counting turns -/

theorem nodup_of_increasing {ids : List String} (increasing : ids.Pairwise (· < ·)) :
    ids.Nodup := by
  refine increasing.imp fun hlt => ?_
  rintro rfl
  exact String.lt_irrefl _ hlt

/-- Of `k` numbers in a row, each residue has its share, rounded down or up. -/
theorem count_residue {n j : Nat} (hj : j < n) (c k : Nat) :
    Nat.count (fun i => (c + i) % n = j) k = k / n ∨
      Nat.count (fun i => (c + i) % n = j) k = (k + n - 1) / n := by
  have hn : 0 < n := Nat.zero_lt_of_lt hj
  have hcount : ∀ b, Nat.count (fun i => i % n = j) b = b / n + if j < b % n then 1 else 0 := by
    intro b
    have h := Nat.count_modEq_card b hn j
    simpa only [Nat.ModEq, Nat.mod_eq_of_lt hj] using h
  have hsplit := Nat.count_add (fun i => i % n = j) c k
  rw [hcount, hcount, Nat.add_div hn] at hsplit
  have hceil : (k + n - 1) / n = k / n + if 0 < k % n then 1 else 0 := by
    rw [Nat.add_sub_assoc hn, Nat.add_div hn, Nat.div_eq_of_lt (Nat.sub_lt hn Nat.one_pos),
      Nat.mod_eq_of_lt (Nat.sub_lt hn Nat.one_pos)]
    congr 1
    exact if_congr (by omega) rfl rfl
  rw [hceil]
  have hc := Nat.mod_lt c hn
  have hk := Nat.mod_lt k hn
  -- the second part of the round either stays within one turn of all or begins another
  by_cases hover : n ≤ c % n + k % n
  · have hmod := Nat.add_mod_add_of_le_add_mod hover
    split_ifs at hsplit ⊢ <;> omega
  · have hmod := Nat.add_mod_of_add_mod_lt (Nat.lt_of_not_le hover)
    split_ifs at hsplit ⊢ <;> omega

/-- A list that goes round another without repetitions has each of its entries that often. -/
theorem count_round {ids turns : List String} (distinct : ids.Nodup) {c j : Nat}
    (hj : j < ids.length)
    (round : ∀ i < turns.length, turns[i]? = ids[(c + i) % ids.length]?) :
    turns.count ids[j] = Nat.count (fun i => (c + i) % ids.length = j) turns.length := by
  induction turns generalizing c with
  | nil => rfl
  | cons id rest ih =>
    have hn : 0 < ids.length := Nat.zero_lt_of_lt hj
    have hrest : ∀ i < rest.length, rest[i]? = ids[(c + 1 + i) % ids.length]? := by
      intro i hi
      rw [Nat.add_assoc, Nat.add_comm 1 i]
      exact round (i + 1) (Nat.succ_lt_succ hi)
    have hc : c % ids.length < ids.length := Nat.mod_lt c hn
    have hhead : id = ids[c % ids.length] := by
      have h := round 0 (Nat.zero_lt_succ _)
      rw [Nat.add_zero, List.getElem?_eq_getElem hc] at h
      exact Option.some.inj h
    rw [List.count_cons, ih hrest, List.length_cons, Nat.count_succ']
    congr 1
    · simp only [Nat.add_assoc, Nat.add_comm 1]
    · refine if_congr ?_ rfl rfl
      rw [hhead, beq_iff_eq, distinct.getElem_inj_iff, Nat.add_zero]

/-! ## Whose turn it is -/

namespace Placement

variable [Quantity κ] {req : Requirements κ} {servers : List (Server κ)}

/-- The candidates of a request are the servers with these ids, and no two servers have one id. -/
structure Offered (req : Requirements κ) (servers : List (Server κ)) (ids : List String) :
    Prop where
  distinct : (servers.map Server.serverId).Nodup
  candidates : ∀ id, id ∈ ids ↔ ∃ s ∈ servers, Candidate req s ∧ s.serverId = id

/-- The scores of the candidates. -/
def scores (req : Requirements κ) (servers : List (Server κ)) : List (Score κ) :=
  (servers.filter fun s => decide (Suits req s)).filterMap (Score.ofServer? · req.allocation)

theorem mem_scores {id : String} :
    id ∈ (scores req servers).map Score.serverId ↔
      ∃ s ∈ servers, Candidate req s ∧ s.serverId = id := by
  simp only [scores, List.mem_map, List.mem_filterMap, List.mem_filter, decide_eq_true_eq]
  constructor
  · rintro ⟨x, ⟨s, ⟨mem, suits⟩, hx⟩, rfl⟩
    obtain ⟨room, hid⟩ := Score.ofServer?_eq_some hx
    exact ⟨s, mem, ⟨suits, room⟩, hid.symm⟩
  · rintro ⟨s, mem, candidate, rfl⟩
    cases hx : Score.ofServer? s req.allocation with
    | none =>
      rw [Score.ofServer?_eq_none_iff, candidate.room] at hx
      cases hx
    | some x => exact ⟨x, ⟨s, ⟨mem, candidate.toSuits⟩, hx⟩, (Score.ofServer?_eq_some hx).2⟩

/-- The ids of the scores are those that are offered. -/
theorem Offered.of_perm {ids : List String} (distinct : (servers.map Server.serverId).Nodup)
    (perm : ((scores req servers).map Score.serverId).Perm ids) : Offered req servers ids :=
  ⟨distinct, fun _ => perm.mem_iff.symm.trans mem_scores⟩

theorem scores_sublist (req : Requirements κ) (servers : List (Server κ)) :
    ((scores req servers).map Score.serverId).Sublist (servers.map Server.serverId) := by
  have hsuits : ((servers.filter fun s => decide (Suits req s)).map Server.serverId).Sublist
      (servers.map Server.serverId) := List.filter_sublist.map _
  refine List.Sublist.trans ?_ hsuits
  rw [scores]
  induction servers.filter fun s => decide (Suits req s) with
  | nil => exact .slnil
  | cons s rest ih =>
    rw [List.filterMap_cons]
    cases hx : Score.ofServer? s req.allocation with
    | none => exact ih.cons _
    | some x =>
      rw [List.map_cons, List.map_cons, (Score.ofServer?_eq_some hx).2]
      exact ih.cons_cons _

omit [Quantity κ] in
/-- Turns are taken in the order of the ids. -/
theorem pairwise_byId (scores : List (Score κ)) :
    (scores.mergeSort fun a b => decide (a.serverId ≤ b.serverId)).Pairwise
      fun a b => a.serverId ≤ b.serverId := by
  refine (List.pairwise_mergeSort ?_ ?_ _).imp of_decide_eq_true
  · intro a b c hab hbc
    exact decide_eq_true (String.le_trans (of_decide_eq_true hab) (of_decide_eq_true hbc))
  · intro a b
    rw [Bool.or_eq_true, decide_eq_true_eq, decide_eq_true_eq]
    exact String.le_total a.serverId b.serverId

/-- **Whose turn it is.** The candidates are in the order of their ids, however the servers are
listed, and the cursor counts them round. -/
theorem turn_of_choose {ids : List String} (increasing : ids.Pairwise (· < ·))
    (offered : Offered req servers ids) {cursor : Nat} {p : Placement κ}
    (h : choose req .roundRobin servers cursor = .ok p) :
    ids[cursor % ids.length]? = some p.serverId := by
  obtain ⟨score, hpick, hid⟩ := pick_of_choose h
  let sorted := (scores req servers).mergeSort fun a b => decide (a.serverId ≤ b.serverId)
  have hperm : (sorted.map Score.serverId).Perm ids := by
    refine ((List.mergeSort_perm _ _).map _).trans ?_
    refine (List.perm_ext_iff_of_nodup ((scores_sublist req servers).nodup offered.distinct)
      (nodup_of_increasing increasing)).2 fun id => ?_
    rw [mem_scores, offered.candidates]
  have hsorted : (sorted.map Score.serverId).Pairwise (· ≤ ·) :=
    List.pairwise_map.2 (pairwise_byId _)
  have hids : sorted.map Score.serverId = ids :=
    hperm.eq_of_pairwise (fun _ _ _ _ => String.le_antisymm) hsorted
      (increasing.imp fun hlt => String.not_lt.1 (String.lt_asymm hlt))
  have hturn : sorted[cursor % sorted.length]? = some score := hpick
  rw [← hids, List.length_map, List.getElem?_map, hturn, hid]
  rfl

/-- As long as there are candidates, a turn is taken. -/
theorem exists_turn {ids : List String} (offered : Offered req servers ids) (any : ids ≠ [])
    (cursor : Nat) : ∃ p, choose req .roundRobin servers cursor = .ok p := by
  obtain ⟨id, hid⟩ := List.exists_mem_of_ne_nil ids any
  obtain ⟨s, mem, candidate, -⟩ := (offered.candidates id).1 hid
  refine (choose_verdict req .roundRobin servers cursor).exists_eq_ok_iff.2
    ⟨⟨⟨s, mem, candidate.healthy⟩, ?_, nofun⟩, s, mem, candidate⟩
  intro t target missing
  exact missing s mem candidate.healthy (candidate.target t target)

end Placement

/-! ## Questions to a placer -/

namespace Placer

/-- A placement, or a preview of one. -/
structure Question (κ : Type) where
  preview : Bool
  req : Requirements κ
  strategy : Strategy
  servers : List (Server κ)

/-- A question with its answer. -/
structure Asked (κ : Type) where
  question : Question κ
  answer : Except PlacementError (Placement κ)

/-- The server that took a turn, if one did: the question was a placement by turns, and it
succeeded. -/
def Asked.turn? (a : Asked κ) : Option String :=
  match a.question.preview, a.question.strategy, a.answer with
  | false, .roundRobin, .ok placement => some placement.serverId
  | _, _, _ => none

/-- The servers that took turns, in order. -/
def turns (asked : List (Asked κ)) : List String := asked.filterMap Asked.turn?

variable [Quantity κ]

def ask (p : Placer) (q : Question κ) : Asked κ × Placer :=
  if q.preview then (⟨q, p.preview q.req q.strategy q.servers⟩, p)
  else
    let (answer, p) := p.place q.req q.strategy q.servers
    (⟨q, answer⟩, p)

/-- Asks one question after the other. -/
def askAll (p : Placer) : List (Question κ) → List (Asked κ) × Placer
  | [] => ([], p)
  | q :: rest =>
    let (asked, p) := p.ask q
    let (later, p) := askAll p rest
    (asked :: later, p)

theorem question_ask (p : Placer) (q : Question κ) : (p.ask q).1.question = q := by
  rw [ask]
  split <;> rfl

theorem question_mem {p : Placer} {questions : List (Question κ)} {a : Asked κ}
    (h : a ∈ (p.askAll questions).1) : a.question ∈ questions := by
  induction questions generalizing p with
  | nil => cases h
  | cons q rest ih =>
    simp only [askAll, List.mem_cons] at h
    rcases h with rfl | hlater
    · rw [question_ask]
      exact List.mem_cons_self
    · exact List.mem_cons_of_mem q (ih hlater)

/-- What is no turn leaves the placer as it is. -/
theorem ask_of_no_turn {p : Placer} {q : Question κ} (none : (p.ask q).1.turn? = none) :
    (p.ask q).2 = p := by
  obtain ⟨preview, req, strategy, servers⟩ := q
  cases preview with
  | true => rfl
  | false =>
    simp only [ask, place, Bool.false_eq_true, if_false] at none ⊢
    cases hchoice : p.preview req strategy servers with
    | error e => rfl
    | ok placement =>
      rw [hchoice] at none
      cases strategy with
      | roundRobin => cases none
      | _ => rfl

/-- A turn is taken by the server at which the cursor points, which then moves on. -/
theorem ask_of_turn {p : Placer} {q : Question κ} {ids : List String} {id : String}
    (increasing : ids.Pairwise (· < ·)) (offered : Placement.Offered q.req q.servers ids)
    (turn : (p.ask q).1.turn? = some id) :
    ids[p.cursor % ids.length]? = some id ∧ (p.ask q).2 = p.advance := by
  obtain ⟨preview, req, strategy, servers⟩ := q
  cases preview with
  | true => cases turn
  | false =>
    simp only [ask, place, Bool.false_eq_true, if_false] at turn ⊢
    cases hchoice : p.preview req strategy servers with
    | error e =>
      rw [hchoice] at turn
      cases strategy <;> cases turn
    | ok placement =>
      rw [hchoice] at turn
      cases strategy with
      | roundRobin =>
        cases turn
        exact ⟨Placement.turn_of_choose increasing offered hchoice, rfl⟩
      | _ => cases turn

/-- Whether a question asks for a placement by turns. -/
def Question.byTurns (q : Question κ) : Bool := !q.preview && q.strategy == .roundRobin

theorem isSome_turn? {ids : List String} (any : ids ≠ []) (p : Placer) {q : Question κ}
    (offered : Placement.Offered q.req q.servers ids) :
    (p.ask q).1.turn?.isSome = q.byTurns := by
  obtain ⟨preview, req, strategy, servers⟩ := q
  cases preview with
  | true => rfl
  | false =>
    simp only [ask, place, Bool.false_eq_true, if_false]
    cases strategy with
    | roundRobin =>
      obtain ⟨placement, hplacement⟩ := Placement.exists_turn offered any p.cursor
      rw [preview, hplacement]
      rfl
    | _ => cases p.preview req _ servers <;> rfl

/-- As long as there are candidates, each placement by turns takes a turn. -/
theorem length_turns {ids : List String} (any : ids ≠ []) {questions : List (Question κ)}
    (offered : ∀ q ∈ questions, Placement.Offered q.req q.servers ids) (p : Placer) :
    (turns (p.askAll questions).1).length = questions.countP Question.byTurns := by
  induction questions generalizing p with
  | nil => rfl
  | cons q rest ih =>
    obtain ⟨hfirst, hrest⟩ := List.forall_mem_cons.1 offered
    have hlater := ih hrest (p.ask q).2
    have hturn := isSome_turn? any p hfirst
    rw [turns] at hlater
    rw [List.countP_cons, ← hturn, ← hlater, askAll, turns, List.filterMap_cons]
    cases (p.ask q).1.turn? <;> rfl

/-- **A run goes round the candidates**, one turn after the other, and the cursor counts the
turns. -/
theorem askAll_turns {ids : List String} (increasing : ids.Pairwise (· < ·))
    {questions : List (Question κ)} {p : Placer}
    (steady : ∀ a ∈ (p.askAll questions).1, a.turn?.isSome = true →
      Placement.Offered a.question.req a.question.servers ids)
    (short : p.cursor + (turns (p.askAll questions).1).length < word64) :
    (∀ i < (turns (p.askAll questions).1).length,
      (turns (p.askAll questions).1)[i]? = ids[(p.cursor + i) % ids.length]?) ∧
    (p.askAll questions).2.cursor = p.cursor + (turns (p.askAll questions).1).length := by
  induction questions generalizing p with
  | nil => exact ⟨nofun, rfl⟩
  | cons q rest ih =>
    simp only [askAll, turns, List.filterMap_cons] at steady short ⊢
    have hlater := fun a ha => steady a (List.mem_cons_of_mem _ ha)
    cases hturn : (p.ask q).1.turn? with
    | none =>
      rw [ask_of_no_turn hturn] at hlater short ⊢
      rw [hturn] at short
      exact ih hlater short
    | some id =>
      have hoffered := steady (p.ask q).1 List.mem_cons_self (by rw [hturn]; rfl)
      rw [question_ask] at hoffered
      obtain ⟨hid, hadvance⟩ := ask_of_turn increasing hoffered hturn
      rw [hadvance] at hlater short ⊢
      rw [hturn] at short
      simp only [List.length_cons] at short ⊢
      have hcursor : p.advance.cursor = p.cursor + 1 := Nat.mod_eq_of_lt (by omega)
      obtain ⟨hround, hlast⟩ := ih hlater (by rw [hcursor, turns]; omega)
      rw [hcursor] at hround hlast
      refine ⟨fun i hi => ?_, by rw [hlast, turns]; omega⟩
      cases i with
      | zero => exact hid.symm
      | succ i =>
        rw [List.getElem?_cons_succ, ← Nat.add_assoc, Nat.add_right_comm]
        exact hround i (Nat.lt_of_succ_lt_succ hi)

/-- **Turns are fair.** Let questions be put to a placer whose cursor does not run over, and let each
turn be taken with the same candidates, however their servers are listed and whatever else is listed
with them. Then the turns go round the candidates in the order of their ids, from the one at which
the cursor points; each candidate has its share of them, rounded down or up; and the cursor has
moved by their number. What is no turn leaves it alone: a preview, a placement by another strategy,
and one that fails. -/
theorem fair {ids : List String} (increasing : ids.Pairwise (· < ·)) (p : Placer)
    (questions : List (Question κ))
    (steady : ∀ a ∈ (p.askAll questions).1, a.turn?.isSome = true →
      Placement.Offered a.question.req a.question.servers ids)
    (short : p.cursor + (turns (p.askAll questions).1).length < word64) :
    (∀ i < (turns (p.askAll questions).1).length,
      (turns (p.askAll questions).1)[i]? = ids[(p.cursor + i) % ids.length]?) ∧
    (∀ id ∈ ids, (turns (p.askAll questions).1).count id =
        (turns (p.askAll questions).1).length / ids.length ∨
      (turns (p.askAll questions).1).count id =
        ((turns (p.askAll questions).1).length + ids.length - 1) / ids.length) ∧
    (p.askAll questions).2.cursor = p.cursor + (turns (p.askAll questions).1).length ∧
    ∀ (p : Placer) (q : Question κ), (p.ask q).1.turn? = none → (p.ask q).2 = p := by
  obtain ⟨hround, hcursor⟩ := askAll_turns increasing steady short
  refine ⟨hround, fun id hid => ?_, hcursor, fun p q => ask_of_no_turn⟩
  obtain ⟨j, hj, rfl⟩ := List.getElem_of_mem hid
  rw [count_round (nodup_of_increasing increasing) hj hround]
  exact count_residue hj p.cursor _

namespace TurnsRun

/-- A server like the sample server. -/
def server (id : String) (status : ServerStatus) : Server Rat :=
  { Server.ofConfig SampleRun.config with serverId := id, status }

def request : Requirements Rat := .ofResources 1 40 3

/-- Three turns of two servers that are listed in either order, the second after a preview and a
placement by load, the third while a server is listed that is not healthy. -/
def questions : List (Question Rat) :=
  let a := server "a" .healthy
  let b := server "b" .healthy
  [⟨false, request, .roundRobin, [b, a]⟩, ⟨true, request, .roundRobin, [a, b]⟩,
    ⟨false, request, .spread, [a, b]⟩, ⟨false, request, .roundRobin, [a, b]⟩,
    ⟨false, request, .roundRobin, [b, server "aa" .offline, a]⟩]

theorem offered : ∀ q ∈ questions, Placement.Offered q.req q.servers ["a", "b"] := by
  have hdistinct : ∀ q ∈ questions, (q.servers.map Server.serverId).Nodup := by decide +kernel
  have hscores : ∀ q ∈ questions,
      ((Placement.scores q.req q.servers).map Score.serverId).Perm ["a", "b"] := by
    decide +kernel
  exact fun q hq => .of_perm (hdistinct q hq) (hscores q hq)

end TurnsRun

open TurnsRun in
/-- From cursor 7 the three turns go to the second server, the first and the second again. -/
theorem fair_interrupted :
    turns ((⟨7⟩ : Placer).askAll questions).1 = ["b", "a", "b"] ∧
      (∀ i < 3, ["b", "a", "b"][i]? = ["a", "b"][(7 + i) % 2]?) ∧
      ((⟨7⟩ : Placer).askAll questions).2.cursor = 10 := by
  have hlength : (turns ((⟨7⟩ : Placer).askAll questions).1).length = 3 :=
    length_turns (List.cons_ne_nil _ _) offered ⟨7⟩
  obtain ⟨hround, -, hcursor, -⟩ := @fair Rat _ ["a", "b"] (by decide) ⟨7⟩ questions
    (fun a ha _ => offered a.question (question_mem ha)) (by rw [hlength]; decide)
  obtain ⟨x, y, z, hturns⟩ := List.length_eq_three.1 hlength
  rw [hlength] at hround
  rw [hturns] at hround hcursor
  obtain rfl : x = "b" := Option.some.inj (hround 0 (by decide))
  obtain rfl : y = "a" := Option.some.inj (hround 1 (by decide))
  obtain rfl : z = "b" := Option.some.inj (hround 2 (by decide))
  exact ⟨hturns, hround, hcursor⟩

end Placer
end WorkspaceFleet
