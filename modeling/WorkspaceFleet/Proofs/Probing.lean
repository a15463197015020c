import Mathlib.Data.List.DropRight
import WorkspaceFleet.Proofs.Ticking

/-!
# WorkspaceFleet.Proofs.Probing

The health of a workspace as a function of what happened to it.

Two things write the flag. A probe sets it, counts, and clears it at the threshold; a mark, which a
round leaves where it does not ask the server, clears it and counts nothing.
`Chronicle.health_of_events` says what they come to in any order: the failures since the last success
are counted, and a workspace is healthy if and only if some probe succeeded after which it was never
marked and fewer probes failed than the threshold (`Sustained`).
-/

namespace WorkspaceFleet

variable {κ : Type}

/-- After it no failure counts that was before. -/
def ProbeEvent.clears : ProbeEvent → Bool
  | .committed => true
  | .succeeded => true
  | .failed => false
  | .marked => false

/-! ## Trackers -/

/-- What happened since the last success, or since the record was made. -/
def sinceCleared (events : List ProbeEvent) : List ProbeEvent :=
  events.rtakeWhile fun e => !e.clears

/-- Some probe succeeded, and the record has lived since without a mark and with fewer failures
than the threshold. -/
def Sustained (threshold : Nat) (events : List ProbeEvent) : Prop :=
  ∃ before after, events = before ++ .succeeded :: after ∧ .committed ∉ after ∧
    .marked ∉ after ∧ after.count .failed < threshold

section Events

variable {threshold : Nat} {events : List ProbeEvent}

theorem sinceCleared_concat_of_clears {e : ProbeEvent} (h : e.clears = true) :
    sinceCleared (events ++ [e]) = [] := by
  rw [sinceCleared, List.rtakeWhile_concat_neg]
  simp [h]

theorem sinceCleared_concat {e : ProbeEvent} (h : e.clears = false) :
    sinceCleared (events ++ [e]) = sinceCleared events ++ [e] := by
  rw [sinceCleared, List.rtakeWhile_concat_pos]
  · rfl
  · simp [h]

/-- If a success sustains a record then the last one does. -/
theorem sustained_iff :
    Sustained threshold events ↔
      (∃ before, events = before ++ .succeeded :: sinceCleared events) ∧
        .marked ∉ sinceCleared events ∧ (sinceCleared events).count .failed < threshold := by
  constructor
  · rintro ⟨before, after, rfl, hcommitted, hmarked, hfew⟩
    induction after using List.reverseRecOn generalizing threshold with
    | nil =>
      rw [sinceCleared_concat_of_clears rfl]
      exact ⟨⟨before, rfl⟩, List.not_mem_nil, hfew⟩
    | append_singleton after e ih =>
      rw [List.mem_append, not_or] at hcommitted hmarked
      rw [List.count_append] at hfew
      rw [← List.cons_append, ← List.append_assoc]
      cases e with
      | committed => exact absurd List.mem_cons_self hcommitted.2
      | marked => exact absurd List.mem_cons_self hmarked.2
      | succeeded =>
        rw [sinceCleared_concat_of_clears rfl]
        exact ⟨⟨_, rfl⟩, List.not_mem_nil, by rw [List.count_nil]; omega⟩
      | failed =>
        rw [sinceCleared_concat rfl]
        rw [List.count_singleton_self] at hfew
        obtain ⟨⟨earlier, hsplit⟩, hunmarked, hless⟩ :=
          ih hcommitted.1 hmarked.1 (Nat.lt_sub_of_add_lt hfew)
        refine ⟨⟨earlier, ?_⟩, by simpa using hunmarked, ?_⟩
        · rw [← List.cons_append, ← List.append_assoc, ← hsplit]
        · rw [List.count_append, List.count_singleton_self]
          exact Nat.add_lt_of_lt_sub hless
  · rintro ⟨⟨before, hsplit⟩, hmarked, hfew⟩
    refine ⟨before, _, hsplit, fun hmem => ?_, hmarked, hfew⟩
    have hkept := List.mem_rtakeWhile_imp hmem
    cases hkept

theorem not_sustained_committed : ¬ Sustained threshold (events ++ [.committed]) := by
  rw [sustained_iff, sinceCleared_concat_of_clears rfl]
  rintro ⟨⟨before, hsplit⟩, -⟩
  cases List.append_inj_right' hsplit rfl

theorem sustained_succeeded (positive : 1 ≤ threshold) :
    Sustained threshold (events ++ [.succeeded]) :=
  ⟨events, [], rfl, List.not_mem_nil, List.not_mem_nil, positive⟩

theorem not_sustained_marked : ¬ Sustained threshold (events ++ [.marked]) := by
  rw [sustained_iff, sinceCleared_concat rfl]
  rintro ⟨-, hmarked, -⟩
  exact hmarked (List.mem_append_right _ List.mem_cons_self)

/-- One more failure than there were. -/
theorem sustained_failed :
    Sustained threshold (events ++ [.failed]) ↔
      Sustained threshold events ∧ (sinceCleared events).count .failed + 1 < threshold := by
  rw [sustained_iff, sustained_iff, sinceCleared_concat rfl, List.count_append,
    List.count_singleton_self]
  constructor
  · rintro ⟨⟨before, hsplit⟩, hmarked, hfew⟩
    rw [← List.cons_append, ← List.append_assoc] at hsplit
    refine ⟨⟨⟨before, List.append_cancel_right hsplit⟩, fun hmem => ?_, by omega⟩, hfew⟩
    exact hmarked (List.mem_append_left _ hmem)
  · rintro ⟨⟨⟨before, hsplit⟩, hmarked, -⟩, hfew⟩
    refine ⟨⟨before, ?_⟩, by simpa using hmarked, hfew⟩
    rw [← List.cons_append, ← List.append_assoc, ← hsplit]

end Events

namespace ProbeTracker

/-- The state of a workspace is the one that its events lead to, with this threshold. -/
structure Follows (threshold : Nat) (events : List ProbeEvent) (t : ProbeTracker) : Prop where
  committed : .committed ∈ events
  failures : t.consecutiveFailures = min ((sinceCleared events).count .failed) (word32 - 1)
  healthy : t.healthy = true ↔ Sustained threshold events

variable {threshold : Nat} {events : List ProbeEvent} {t : ProbeTracker}

theorem follows_committed (events : List ProbeEvent) :
    Follows threshold (events ++ [.committed]) ⟨false, 0⟩ where
  committed := List.mem_append_right _ List.mem_cons_self
  failures := by rw [sinceCleared_concat_of_clears rfl]; simp
  healthy := iff_of_false nofun not_sustained_committed

/-- **A mark** keeps the count. -/
theorem Follows.marked (h : Follows threshold events t) :
    Follows threshold (events ++ [.marked]) ⟨false, t.consecutiveFailures⟩ where
  committed := List.mem_append_left _ h.committed
  failures := by
    rw [sinceCleared_concat rfl, List.count_append, h.failures]
    simp
  healthy := iff_of_false nofun not_sustained_marked

theorem Follows.succeeded (positive : 1 ≤ threshold) (h : Follows threshold events t) :
    Follows threshold (events ++ [.succeeded]) ⟨true, 0⟩ where
  committed := List.mem_append_left _ h.committed
  failures := by rw [sinceCleared_concat_of_clears rfl]; simp
  healthy := iff_of_true rfl (sustained_succeeded positive)

/-- **A failed probe**: one more is counted, and the flag falls at the threshold and not before. -/
theorem Follows.failed (positive : 1 ≤ threshold) (word : threshold < word32)
    (h : Follows threshold events t) {result : CheckResult} (failure : result.isSuccess = false) :
    Follows threshold (events ++ [.failed]) (t.record threshold result) := by
  have hcount : countFailure t.consecutiveFailures =
      min ((sinceCleared events).count .failed + 1) (word32 - 1) := by
    rw [countFailure, h.failures]
    omega
  have hreached : max threshold 1 ≤ countFailure t.consecutiveFailures ↔
      ¬ (sinceCleared events).count .failed + 1 < threshold := by
    rw [hcount]
    omega
  rw [record, if_neg (by rw [failure]; exact Bool.false_ne_true)]
  refine ⟨List.mem_append_left _ h.committed, ?_, ?_⟩
  · rw [sinceCleared_concat rfl, List.count_append, List.count_singleton_self]
    exact hcount
  · rw [sustained_failed, ← h.healthy]
    dsimp only
    split
    · next hfull => exact iff_of_false nofun fun hfew => hreached.1 hfull hfew.2
    · next hroom =>
      exact (and_iff_left (not_not.1 (mt hreached.2 hroom))).symm

theorem Follows.probed (positive : 1 ≤ threshold) (word : threshold < word32)
    (h : Follows threshold events t) (result : CheckResult) :
    Follows threshold (events ++ [if result.isSuccess then .succeeded else .failed])
      (t.record threshold result) := by
  cases hresult : result.isSuccess with
  | true =>
    rw [if_pos rfl, record, if_pos hresult]
    exact h.succeeded positive
  | false =>
    rw [if_neg Bool.false_ne_true]
    exact h.failed positive word hresult

end ProbeTracker

/-! ## Deeds -/

namespace Registry

/-- The state of health of a recorded workspace. -/
def workspaceHealth (r : Registry κ) (id : String) : Option ProbeTracker :=
  (r.workspaces.get? id).map ProbeTracker.ofWorkspace

variable {r : Registry κ} {id : String}

theorem workspaceHealth_of_get? {w : Workspace κ} (found : r.workspaces.get? id = some w) :
    r.workspaceHealth id = some (.ofWorkspace w) := by
  rw [workspaceHealth, found]
  rfl

theorem workspaceHealth_updateWorkspace_of_get? {w : Workspace κ}
    (found : r.workspaces.get? id = some w) (f : Workspace κ → Workspace κ) :
    (r.updateWorkspace id f).registry.workspaceHealth id = some (.ofWorkspace (f w)) := by
  simp only [updateWorkspace, found, changed, workspaceHealth, Table.get?_insert_self,
    Option.map_some]

/-- A change of another record, or of one that is not there. -/
theorem workspaceHealth_updateWorkspace_of_ne {j : String} (f : Workspace κ → Workspace κ)
    (other : ¬ (j = id ∧ r.workspaces.contains id = true)) :
    (r.updateWorkspace j f).registry.workspaceHealth id = r.workspaceHealth id := by
  cases hw : r.workspaces.get? j with
  | none =>
    simp only [updateWorkspace, hw]
    rfl
  | some w =>
    have hj : j ≠ id := by
      rintro rfl
      exact other ⟨rfl, Table.contains_of_get? hw⟩
    simp only [updateWorkspace, hw, changed, workspaceHealth, Table.get?_insert_of_ne hj]

theorem tracker_probed (c : MonitorConfig) (now : Nat) (result : CheckResult)
    (error : Option String) (stats : Option (ContainerStats κ)) (w : Workspace κ) :
    ProbeTracker.ofWorkspace (Monitor.probed c now result error stats w) =
      (ProbeTracker.ofWorkspace w).record c.unresponsiveThreshold result := by
  cases stats <;> rfl

variable [Quantity κ]

/-- The state of health of a workspace outlives the process. -/
theorem lasting_workspaceHealth : Lasting (workspaceHealth (κ := κ)) fun t => t where
  empty _ := rfl
  rest _ _ := rfl
  between cut id := by
    rcases cut.workspaces with h | h
    · exact .inl (by rw [workspaceHealth, h, workspaceHealth])
    · exact .inr (by rw [workspaceHealth, h, workspaceHealth])
  reconciled _ _ := rfl
  again_again _ := rfl
  read {store l m} reads mirrors id := by
    rcases reads.again_workspaces mirrors id with ⟨hm, hl⟩ | ⟨w, w', hm, hl, hsame⟩
    · rw [workspaceHealth, hl, workspaceHealth, hm]
      rfl
    · rw [workspaceHealth_of_get? hl, workspaceHealth_of_get? hm]
      rcases hsame with rfl | ⟨-, rfl⟩ <;> rfl

theorem workspaceHealth_removeWorkspace {j : String} {t : ProbeTracker}
    (ht : (r.removeWorkspace j).registry.workspaceHealth id = some t) :
    r.workspaceHealth id = some t := by
  rw [workspaceHealth, workspaces_removeWorkspace, Table.get?_erase] at ht
  split at ht
  · cases ht
  · exact ht

theorem workspaceHealth_commit (r : Registry κ) (hold : Reservation κ) (c : String) (now : Nat)
    (id : String) :
    (r.commit hold c now).registry.workspaceHealth id =
      if c = id ∧ (r.commit hold c now).result.isOk = true then some ⟨false, 0⟩
      else r.workspaceHealth id := by
  rw [workspaceHealth, workspaces_commit]
  cases (r.commit hold c now).result.isOk with
  | false => simp [workspaceHealth]
  | true =>
    rw [if_pos rfl, Table.get?_insert]
    by_cases hc : c = id
    · rw [if_pos hc, if_pos ⟨hc, rfl⟩]
      rfl
    · rw [if_neg hc, if_neg fun h => hc h.1]
      rfl

end Registry

section Deeds

variable [Quantity κ]

variable {rules : Rules κ} {r : Registry κ} {id : String} {deed : Deed κ} {t : ProbeTracker}

/-- A deed that is no event for a workspace keeps its state of health. -/
theorem Deed.quiet_workspaceHealth (noUpdates : ∀ id f, deed ≠ .other (.updateWorkspace id f))
    (quiet : (Happening.did r deed).onWorkspace id = none)
    (ht : (deed.call.change r).registry.workspaceHealth id = some t) :
    r.workspaceHealth id = some t := by
  have same : ∀ {r' : Registry κ}, r'.workspaces = r.workspaces →
      r'.workspaceHealth id = some t → r.workspaceHealth id = some t := by
    intro r' hsame h
    rw [Registry.workspaceHealth, hsame] at h
    exact h
  cases deed with
  | check c now j seen answers => exact same (Registry.workspaces_recordServerCheck r _ _) ht
  | mark now servers w reason skipped =>
    rw [← Registry.workspaceHealth_updateWorkspace_of_ne (Monitor.unreached now reason)]
    · exact ht
    · intro h
      simp only [Happening.onWorkspace, if_pos h] at quiet
      cases quiet
  | settle c now serverId j answers =>
    rcases Monitor.callOf_cases c now serverId j answers with ⟨-, hcall⟩ |
      ⟨result, error, stats, hevent, hcall⟩
    · rw [call, hcall] at ht
      exact Registry.workspaceHealth_removeWorkspace ht
    · rw [call, hcall] at ht
      rw [← Registry.workspaceHealth_updateWorkspace_of_ne
        (Monitor.probed c now result error stats)]
      · exact ht
      · intro h
        simp only [Happening.onWorkspace, if_pos h, hevent] at quiet
        cases quiet
  | other call =>
    cases call with
    | addServer c => exact same (Registry.workspaces_addServer r _) ht
    | removeServer j => exact same (Registry.workspaces_removeServer r j) ht
    | recordServerCheck j check => exact same (Registry.workspaces_recordServerCheck r j check) ht
    | reserve j a => exact same (Registry.workspaces_reserve r j a) ht
    | reserveWith a select lift => exact same (Registry.workspaces_reserveWith r a select lift) ht
    | release hold => exact same (Registry.workspaces_release r hold) ht
    | commit hold c now =>
      have hcommit := Registry.workspaceHealth_commit r hold c now id
      rw [if_neg] at hcommit
      · exact hcommit.symm.trans ht
      · intro h
        simp only [Happening.onWorkspace, if_pos h] at quiet
        cases quiet
    | updateWorkspace j f => exact absurd rfl (noUpdates j f)
    | removeWorkspace j => exact Registry.workspaceHealth_removeWorkspace ht
    | reconcile => exact same rfl ht

/-- What an event makes of the state of health of a workspace. -/
theorem Deed.event_workspaceHealth {e : ProbeEvent}
    (event : (Happening.did r deed).onWorkspace id = some e) :
    (e = .committed ∧ (deed.call.change r).registry.workspaceHealth id = some ⟨false, 0⟩) ∨
    (∃ t, e = .marked ∧ r.workspaceHealth id = some t ∧
      (deed.call.change r).registry.workspaceHealth id = some ⟨false, t.consecutiveFailures⟩) ∨
    ∃ c now serverId answers result t, deed = .settle c now serverId id answers ∧
      e = (if result.isSuccess then .succeeded else .failed) ∧ r.workspaceHealth id = some t ∧
      (deed.call.change r).registry.workspaceHealth id =
        some (t.record c.unresponsiveThreshold result) := by
  cases deed with
  | check c now j seen answers => cases event
  | mark now servers w reason skipped =>
    simp only [Happening.onWorkspace] at event
    split at event
    · next hfound =>
      obtain ⟨rfl, hcontains⟩ := hfound
      obtain ⟨v, hv⟩ := Option.isSome_iff_exists.1 hcontains
      cases event
      exact .inr (.inl ⟨_, rfl, Registry.workspaceHealth_of_get? hv,
        Registry.workspaceHealth_updateWorkspace_of_get? hv _⟩)
    · cases event
  | settle c now serverId j answers =>
    simp only [Happening.onWorkspace] at event
    split at event
    · next hfound =>
      obtain ⟨rfl, hcontains⟩ := hfound
      obtain ⟨v, hv⟩ := Option.isSome_iff_exists.1 hcontains
      rcases Monitor.callOf_cases c now serverId j answers with ⟨hnone, -⟩ |
        ⟨result, error, stats, hevent, hcall⟩
      · rw [hnone] at event
        cases event
      · rw [hevent] at event
        cases event
        refine .inr (.inr ⟨c, now, serverId, answers, result, _, rfl, rfl,
          Registry.workspaceHealth_of_get? hv, ?_⟩)
        rw [call, hcall, ← Registry.tracker_probed]
        exact Registry.workspaceHealth_updateWorkspace_of_get? hv _
    · cases event
  | other call =>
    cases call with
    | commit hold c now =>
      simp only [Happening.onWorkspace] at event
      split at event
      · next hdone =>
        cases event
        left
        have hcommit := Registry.workspaceHealth_commit r hold c now id
        rw [if_pos hdone] at hcommit
        exact ⟨rfl, hcommit⟩
      · cases event
    | _ => cases event

/-- A deed that is an event for a workspace writes no more than its row. -/
theorem Deed.quiet_of_removal (many : 1 < (deed.call.change r).writes.length) :
    (Happening.did r deed).onWorkspace id = none := by
  cases hevent : (Happening.did r deed).onWorkspace id with
  | none => rfl
  | some e =>
    have hupdate : ∀ j f, (r.updateWorkspace j f).writes.length ≤ 1 := by
      intro j f
      rw [Registry.updateWorkspace]
      split
      · exact Nat.zero_le 1
      · exact le_rfl
    refine absurd many (Nat.not_lt.2 ?_)
    cases deed with
    | check c now j seen answers => cases hevent
    | mark now servers w reason skipped => exact hupdate _ _
    | settle c now serverId j answers =>
      simp only [Happening.onWorkspace] at hevent
      split at hevent
      · rcases Monitor.callOf_cases c now serverId j answers with ⟨hnone, -⟩ |
          ⟨result, error, stats, -, hcall⟩
        · rw [hnone] at hevent
          cases hevent
        · rw [call, hcall]
          exact hupdate _ _
      · cases hevent
    | other call =>
      cases call with
      | commit hold c now =>
        show (r.commit hold c now).writes.length ≤ 1
        rw [Registry.commit]
        split
        · exact Nat.zero_le 1
        · exact le_rfl
      | _ => cases hevent

/-! ## The law -/

/-- The events of a workspace make up its state of health. -/
theorem lawful_workspaceHealth {threshold : Nat} (positive : 1 ≤ threshold)
    (word : threshold < word32)
    (constant : ∀ c, rules.settings c → c.unresponsiveThreshold = threshold)
    (noUpdates : ∀ id f, ¬ rules.others (.updateWorkspace id f)) :
    Lawful rules (Registry.workspaceHealth (κ := κ)) (fun t => t)
      (fun log id t => t.Follows threshold (workspaceEvents id log)) where
  restart {log id t} h := by
    rw [workspaceEvents_concat]
    show t.Follows threshold (workspaceEvents id log ++ [])
    rwa [List.append_nil]
  long {r deed log id t} many h := by
    rw [workspaceEvents_concat, Deed.quiet_of_removal many, Option.toList_none, List.append_nil]
    exact h
  deed {ledger issued log deed} _ permitted _ law id t ht := by
    rw [workspaceEvents_concat]
    cases hevent : (Happening.did ledger.registry deed).onWorkspace id with
    | none =>
      rw [Option.toList_none, List.append_nil]
      exact law id t (Deed.quiet_workspaceHealth
        (fun j f => permitted.ne_other (noUpdates j f)) hevent ht)
    | some e =>
      rw [Option.toList_some]
      rcases Deed.event_workspaceHealth hevent with ⟨rfl, hnew⟩ | ⟨t₀, rfl, ht₀, hnew⟩ |
        ⟨c, now, serverId, answers, result, t₀, rfl, rfl, ht₀, hnew⟩
      · cases hnew.symm.trans ht
        exact ProbeTracker.follows_committed _
      · cases hnew.symm.trans ht
        exact (law id t₀ ht₀).marked
      · cases hnew.symm.trans ht
        rw [constant c permitted.1]
        exact (law id t₀ ht₀).probed positive word result

/-- **The health of a workspace is the function of what happened to it**, whatever else the fleet did
and however often it was restarted: its record counts the probes that failed since the last that
succeeded, and it is healthy if and only if a success sustains it. -/
theorem Chronicle.health_of_events {threshold : Nat} (positive : 1 ≤ threshold)
    (word : threshold < word32)
    (constant : ∀ c, rules.settings c → c.unresponsiveThreshold = threshold)
    (noUpdates : ∀ id f, ¬ rules.others (.updateWorkspace id f))
    {ledger : Ledger κ} {issued : List (Reservation κ)} {log : List (Happening κ)}
    (chronicle : Chronicle rules (.running ledger issued) log) {w : Workspace κ}
    (found : ledger.registry.workspaces.get? id = some w) :
    .committed ∈ workspaceEvents id log ∧
    w.consecutiveProbeFailures =
      min ((sinceCleared (workspaceEvents id log)).count .failed) (word32 - 1) ∧
    (w.healthy = true ↔ Sustained threshold (workspaceEvents id log)) := by
  have h : (ProbeTracker.ofWorkspace w).Follows threshold (workspaceEvents id log) :=
    chronicle.law Registry.lasting_workspaceHealth
      (lawful_workspaceHealth positive word constant noUpdates) id _
      (Registry.workspaceHealth_of_get? found)
  exact ⟨h.committed, h.failures, h.healthy⟩

end Deeds

namespace ProbedRun

/-- Two failures in a row make a workspace unresponsive, and that it runs is enough. -/
def settings : MonitorConfig :=
  { MonitorConfig.default with unresponsiveThreshold := 2, probeCommand := [] }

/-- Others do all but change records. -/
def rules : Rules Rat where
  settings c := c = settings
  ids _ _ := True
  others call := ∀ id f, call ≠ .updateWorkspace id f

def answers : Answers Rat := fun _ op =>
  match op with
  | .stats _ => .answered ⟨true, 0, 0, "running"⟩
  | _ => .timedOut

/-- The server does not answer any more. -/
def offline : Registry.Call Rat := .recordServerCheck "a" ⟨.offline, 3, some "", none, 0⟩

def running (calls : List (Registry.Call Rat)) (f : Fleet Rat Unit) : Fleet Rat Unit :=
  .over (Ledger.after (f.ledger, []) calls).1

/-- A workspace is recorded. -/
def committed : Fleet Rat Unit := running SampleRun.calls (.over ⟨.empty, some .empty⟩)

/-- A round in which it is found running. -/
def found (f : Fleet Rat Unit) : Fleet Rat Unit :=
  (Monitor.settleWorkspaces settings 0 0 ["c"] [("c", .running ⟨true, 0, 0, "running"⟩ .healthy none)]
    f).2

/-- It is found running, and then its server is offline when a round begins. -/
def marked : Fleet Rat Unit :=
  (Monitor.planWorkspaces settings 0 (running [offline] (found committed))).2.2

def reopened : Fleet Rat Unit := .over marked.ledger.reopened

/-- After a restart it is found running once more, and then its check is not finished in time. -/
def missed : Fleet Rat Unit := (Monitor.settleWorkspaces settings 0 0 ["c"] [] (found reopened)).2

theorem answered_inRange (id : String) :
    (Monitor.workspaceFinding settings "a" id (some answers)).InRange := by
  show 0 < word64
  decide

/-- The run as a chronicle, with what happened to the workspace. -/
theorem chronicle : ∃ issued log, Chronicle rules (.running missed.ledger issued) log ∧
    workspaceEvents "c" log = [.committed, .succeeded, .marked, .succeeded, .failed] := by
  have htime : 0 < word64 := by decide
  have hopened : Chronicle rules (.running (⟨.empty, some .empty⟩ : Ledger Rat) [])
      ([] ++ [.restarted]) := .opened .created Ledger.ofStore_empty
  have hadd : ∀ r issued, (Deed.other (.addServer SampleRun.config)).Permitted rules r issued :=
    fun _ _ => ⟨nofun, SampleRun.config_inRange⟩
  have hreserve : ∀ r {issued}, Registry.NumberLeft issued →
      (Deed.other (.reserve "a" SampleRun.allocation)).Permitted rules r issued :=
    fun _ _ left => ⟨nofun, SampleRun.allocation_inRange, left⟩
  have hleft := Ledger.numberLeft_after (⟨.empty, some .empty⟩ : Ledger Rat)
  have hcommit : ∀ r, (Deed.other (.commit SampleRun.hold "c" 0)).Permitted rules r
      (Ledger.after ((⟨.empty, some .empty⟩ : Ledger Rat), []) (SampleRun.calls.take 3)).2 :=
    fun _ => ⟨nofun, by decide +kernel, trivial, htime⟩
  have hcommitted := (((hopened.performed (hadd _ _) trivial).performed
    (hreserve _ (hleft (SampleRun.calls.take 1) (by decide))) trivial).performed
    (hreserve _ (hleft (SampleRun.calls.take 2) (by decide))) trivial).performed (hcommit _) trivial
  obtain ⟨log₁, hfound, hevents₁⟩ := Chronicle.settleWorkspaces (f := committed) (c := settings)
    hcommitted rfl nofun htime (fun _ => some answers) (fun _ => "a") answered_inRange 0 ["c"]
    [("c", .running ⟨true, 0, 0, "running"⟩ .healthy none)] (List.forall_mem_singleton.2 rfl)
  have hoffline : ∀ r issued, (Deed.other offline).Permitted rules r issued :=
    fun _ _ => ⟨nofun, by decide, nofun, htime⟩
  obtain ⟨log₂, hmarked, hevents₂⟩ := Chronicle.planWorkspaces
    (f := running [offline] (found committed)) (hfound.performed (hoffline _ _) trivial) settings
    htime
  obtain ⟨w, hw, hskip⟩ : ∃ w,
      (running [offline] (found committed)).registry.workspaces.get? "c" = some w ∧
      (Monitor.skipReason? (running [offline] (found committed)).registry.servers w).isSome =
        true := by
    rw [← Option.map_eq_some_iff]
    decide +kernel
  have hreopened := hmarked.again (by decide +kernel)
  obtain ⟨log₃, hagain, hevents₃⟩ := Chronicle.settleWorkspaces (f := reopened) (c := settings)
    hreopened rfl nofun htime (fun _ => some answers) (fun _ => "a") answered_inRange 0 ["c"]
    [("c", .running ⟨true, 0, 0, "running"⟩ .healthy none)] (List.forall_mem_singleton.2 rfl)
  obtain ⟨log₄, hmissed, hevents₄⟩ := Chronicle.settleWorkspaces (f := found reopened)
    (c := settings) hagain rfl nofun htime (fun _ => none) (fun _ => "a") (fun _ => trivial) 0 ["c"]
    [] (List.forall_mem_singleton.2 rfl)
  refine ⟨_, log₄, hmissed, ?_⟩
  rw [hevents₄, hevents₃, workspaceEvents_concat, hevents₂ "c" w hw, workspaceEvents_concat,
    hevents₁, if_pos hskip]
  decide +kernel

end ProbedRun

/-- A workspace that was marked, found running again and then missed one deadline is healthy. -/
theorem health_of_missed_deadline : ∃ (ledger : Ledger Rat) (issued : List (Reservation Rat))
    (log : List (Happening Rat)) (w : Workspace Rat),
    Chronicle ProbedRun.rules (.running ledger issued) log ∧
    workspaceEvents "c" log = [.committed, .succeeded, .marked, .succeeded, .failed] ∧
    ledger.registry.workspaces.get? "c" = some w ∧ w.consecutiveProbeFailures = 1 ∧
    w.healthy = true := by
  obtain ⟨issued, log, hchronicle, hevents⟩ := ProbedRun.chronicle
  obtain ⟨w, hw⟩ : ∃ w, ProbedRun.missed.ledger.registry.workspaces.get? "c" = some w :=
    Option.isSome_iff_exists.1 (by decide +kernel)
  have hconstant : ∀ c, ProbedRun.rules.settings c → c.unresponsiveThreshold = 2 := by
    rintro c rfl
    rfl
  obtain ⟨-, hfailures, hhealthy⟩ := Chronicle.health_of_events (by decide) (by decide) hconstant
    (fun id f h => h id f rfl) hchronicle hw
  rw [hevents] at hfailures hhealthy
  refine ⟨_, issued, log, w, hchronicle, hevents, hw, hfailures.trans (by decide), hhealthy.2 ?_⟩
  exact ⟨[.committed, .succeeded, .marked], [.failed], rfl, by decide, by decide, by decide⟩

end WorkspaceFleet
