import WorkspaceFleet.Proofs.Exchanging
import WorkspaceFleet.Proofs.Settling

/-!
# WorkspaceFleet.Proofs.Dropping

The monitor drops a record on evidence only.

`Check.Brings` says how a check can go over clients whose daemons bring anything or nothing, and
which may not finish before the round's time is up; `Monitor.Tick` is a round made of such checks.
`Monitor.Tick.dropped_on_evidence` says which records are gone after a round: exactly those whose
check finished on `Client.Evidence`. Rounds write to a store that takes every write.
-/

namespace WorkspaceFleet

/-- A call to a daemon, with what was sent for it and what that brought. -/
structure BackendCall where
  serverId : String
  op : Operation Float
  sent : List Sent

/-- What becomes of a call by the client of a server, if there is one. -/
inductive Fleet.Replies (f : Fleet Float Client) (id : String) (op : Operation Float) :
    List Sent → Reply op.Answer → Prop where
  | refused {cause : BackendError} (none : f.client id = .error cause) :
      Replies f id op [] (.failed cause)
  | answered {client : Client} {sent : List Sent} {answer : op.Answer}
      (found : f.client id = .ok client) (brings : (client.exchange op).Brings sent (.ok answer)) :
      Replies f id op sent (.answered answer)
  | failed {client : Client} {sent : List Sent} {cause : String} (found : f.client id = .ok client)
      (brings : (client.exchange op).Brings sent (.error cause)) :
      Replies f id op sent (.failed (.unavailable client.serverId cause))
  | timedOut {client : Client} {sent : List Sent} (found : f.client id = .ok client)
      (waits : (client.exchange op).Waits sent) : Replies f id op sent .timedOut

/-- How a check can go: the calls that it makes, and what it finds if it finishes. -/
inductive Check.Brings {F : Type} (f : Fleet Float Client) :
    Check Float F → List BackendCall → Option F → Prop where
  | concluded {finding : F} : Brings f (.conclude finding) [] (some finding)
  | unfinished {check : Check Float F} : Brings f check [] none
  | cutOff {id : String} {op : Operation Float} {limit : Duration}
      {next : Reply op.Answer → Check Float F} {client : Client} {sent : List Sent}
      (found : f.client id = .ok client) (waits : (client.exchange op).Waits sent) :
      Brings f (.ask id op limit next) [⟨id, op, sent⟩] none
  | replied {id : String} {op : Operation Float} {limit : Duration}
      {next : Reply op.Answer → Check Float F} {sent : List Sent} {reply : Reply op.Answer}
      {calls : List BackendCall} {finding : Option F} (replies : f.Replies id op sent reply)
      (rest : Brings f (next reply) calls finding) :
      Brings f (.ask id op limit next) (⟨id, op, sent⟩ :: calls) finding

namespace Check

variable {F : Type} {f : Fleet Float Client} {calls : List BackendCall}

/-- A check with answers that come at once is one of the ways. -/
theorem exists_brings_run {answer : String → (op : Operation Float) → Reply op.Answer}
    (replies : ∀ id op, ∃ sent, f.Replies id op sent (answer id op)) (check : Check Float F) :
    ∃ calls, check.Brings f calls (some (check.run answer)) := by
  induction check with
  | conclude finding => exact ⟨[], .concluded⟩
  | ask id op limit next ih =>
    obtain ⟨sent, hreplies⟩ := replies id op
    obtain ⟨calls, hrest⟩ := ih (answer id op)
    exact ⟨⟨id, op, sent⟩ :: calls, .replied hreplies hrest⟩

theorem brings_conclude {x : F} {finding : Option F}
    (h : (Check.conclude x : Check Float F).Brings f calls finding) :
    calls = [] ∧ (finding = none ∨ finding = some x) := by
  cases h with
  | concluded => exact ⟨rfl, .inr rfl⟩
  | unfinished => exact ⟨rfl, .inl rfl⟩

/-! ## The check of a workspace -/

variable {c : MonitorConfig} {serverId id : String} {finding : Option (Observation Float)}

theorem ofProbe_ne_gone (stats : ContainerStats Float) (reply : Reply ExecResult) (state : String) :
    Observation.ofProbe c stats reply ≠ .gone state := by
  cases reply with
  | answered r =>
    simp only [Observation.ofProbe]
    split <;> nofun
  | failed e => nofun
  | timedOut => nofun

/-- What is found of a container that runs. -/
def running (c : MonitorConfig) (serverId id : String) (stats : ContainerStats Float) :
    Check Float (Observation Float) :=
  if c.probeCommand.isEmpty then .conclude (.running stats .healthy none)
  else
    .ask serverId (.exec id c.probeCommand) c.callTimeout fun
      | (reply : Reply ExecResult) => .conclude (.ofProbe c stats reply)

/-- A container that was said to run does not count as gone. -/
theorem running_not_gone {stats : ContainerStats Float}
    (h : (running c serverId id stats).Brings f calls finding) (state : String) :
    finding ≠ some (.gone state) := by
  rintro rfl
  rw [running] at h
  split at h
  · obtain ⟨-, hnone | hsome⟩ := brings_conclude h
    · cases hnone
    · cases hsome
  · cases h with
    | @replied _ _ _ _ _ reply _ _ replies rest =>
      obtain ⟨-, hnone | hsome⟩ := brings_conclude rest
      · cases hnone
      · exact ofProbe_ne_gone stats reply state (Option.some.inj hsome).symm

theorem running_calls {stats : ContainerStats Float}
    (h : (running c serverId id stats).Brings f calls finding) :
    ∀ call ∈ calls, call.serverId = serverId ∧ ∃ cmd, call.op = .exec id cmd := by
  rw [running] at h
  split at h
  · obtain ⟨rfl, -⟩ := brings_conclude h
    exact nofun
  · intro call hcall
    cases h with
    | unfinished => cases hcall
    | cutOff found waits =>
      rw [List.mem_singleton.1 hcall]
      exact ⟨rfl, _, rfl⟩
    | replied replies rest =>
      obtain ⟨rfl, -⟩ := brings_conclude rest
      rw [List.mem_singleton.1 hcall]
      exact ⟨rfl, _, rfl⟩

/-- The check of a workspace calls its server about its container. -/
theorem workspace_calls (h : (Check.workspace c serverId id).Brings f calls finding) :
    ∀ call ∈ calls, call.serverId = serverId ∧
      (call.op = .stats id ∨ ∃ cmd, call.op = .exec id cmd) := by
  intro call hcall
  cases h with
  | unfinished => cases hcall
  | cutOff found waits =>
    rw [List.mem_singleton.1 hcall]
    exact ⟨rfl, .inl rfl⟩
  | @replied _ _ _ _ sent reply calls _ replies rest =>
    rcases List.mem_cons.1 hcall with rfl | hlater
    · exact ⟨rfl, .inl rfl⟩
    · cases reply with
      | failed e =>
        obtain ⟨rfl, -⟩ := brings_conclude rest
        cases hlater
      | timedOut =>
        obtain ⟨rfl, -⟩ := brings_conclude rest
        cases hlater
      | answered stats =>
        have hrest : (if ¬stats.running then .conclude (.gone stats.state)
          else running c serverId id stats : Check Float (Observation Float)).Brings f calls
            finding := rest
        split at hrest
        · obtain ⟨rfl, -⟩ := brings_conclude hrest
          cases hlater
        · obtain ⟨hserver, hop⟩ := running_calls hrest call hlater
          exact ⟨hserver, .inr hop⟩

theorem only_call_iff {op : Operation Float} {sent : List Sent} {P : List Sent → Prop} :
    (∃ sent', (⟨serverId, op, sent⟩ :: calls : List BackendCall) = [⟨serverId, op, sent'⟩] ∧
      P sent') ↔ calls = [] ∧ P sent := by
  constructor
  · rintro ⟨sent', heq, h⟩
    cases heq
    exact ⟨rfl, h⟩
  · rintro ⟨rfl, h⟩
    exact ⟨sent, rfl, h⟩

/-- **What makes a workspace count as gone**: its check finished, and on evidence. -/
theorem workspace_gone_iff (h : (Check.workspace c serverId id).Brings f calls finding) :
    (∃ state, finding = some (.gone state)) ↔
      finding.isSome = true ∧ ∃ sent, calls = [⟨serverId, .stats id, sent⟩] ∧
        Client.Evidence id sent := by
  cases h with
  | unfinished => exact iff_of_false nofun nofun
  | cutOff found waits => exact iff_of_false nofun nofun
  | @replied _ _ _ _ sent reply calls _ replies rest =>
    rw [only_call_iff]
    have unreachable : ∀ cause, (Check.conclude (.unreachable cause)).Brings f calls finding →
        ¬ Client.Evidence id sent → ((∃ state, finding = some (.gone state)) ↔
          finding.isSome = true ∧ calls = [] ∧ Client.Evidence id sent) := by
      intro cause hconclude hnone
      refine iff_of_false ?_ fun h => hnone h.2.2
      rintro ⟨state, rfl⟩
      obtain ⟨-, hunfinished | hsome⟩ := brings_conclude hconclude
      · cases hunfinished
      · cases hsome
    cases replies with
    | refused none => exact unreachable _ rest nofun
    | failed found brings =>
      refine unreachable _ rest fun hevidence => ?_
      obtain ⟨s, hs, -⟩ := (Client.stats_gone_iff brings).2 hevidence
      cases hs
    | timedOut found waits => exact unreachable _ rest (Client.not_evidence_of_waits waits)
    | @answered client sent stats found brings =>
      have hgone := Client.stats_gone_iff brings
      have hrest : (if ¬stats.running then .conclude (.gone stats.state)
        else running c serverId id stats : Check Float (Observation Float)).Brings f calls
          finding := rest
      cases hrunning : stats.running with
      | true =>
        rw [hrunning, if_neg fun h => h rfl] at hrest
        refine iff_of_false (fun ⟨state, h⟩ => running_not_gone hrest state h) ?_
        rintro ⟨-, -, hevidence⟩
        obtain ⟨s, hs, hidle⟩ := hgone.2 hevidence
        cases hs
        rw [hrunning] at hidle
        cases hidle
      | false =>
        rw [hrunning, if_pos Bool.false_ne_true] at hrest
        have hevidence := hgone.1 ⟨stats, rfl, hrunning⟩
        obtain ⟨rfl, rfl | rfl⟩ := brings_conclude hrest
        · exact iff_of_false nofun nofun
        · exact iff_of_true ⟨_, rfl⟩ ⟨rfl, rfl, hevidence⟩

end Check

/-! ## Rounds -/

namespace Monitor

/-- A check of a round: the calls that it made, and what it found if it finished. -/
structure CheckRun where
  id : String
  check : Check Float (Observation Float)
  calls : List BackendCall
  finding : Option (Observation Float)

/-- How a round that is alone can go: each planned check has a run, what finished arrives in any
order, and the round settles it. -/
inductive Tick (c : MonitorConfig) (f : Fleet Float Client) :
    List CheckRun → Fleet Float Client → Prop where
  | settled {now later : Nat} {runs : List CheckRun} {findings : List (String × Observation Float)}
      (planned : runs.map (fun run => (run.id, run.check)) = (planWorkspaces c now f).2.1)
      (ran : ∀ run ∈ runs, run.check.Brings f run.calls run.finding)
      (arrived : findings.Perm (runs.filterMap fun run => run.finding.map (run.id, ·))) :
      Tick c f runs
        (settleWorkspaces c later (planWorkspaces c now f).1
          ((planWorkspaces c now f).2.1.map Prod.fst) findings (planWorkspaces c now f).2.2).2

variable {c : MonitorConfig} {f f' : Fleet Float Client} {runs : List CheckRun}

theorem sublist_findings (runs : List CheckRun) :
    ((runs.filterMap fun run => run.finding.map (run.id, ·)).map Prod.fst).Sublist
      (runs.map CheckRun.id) := by
  induction runs with
  | nil => exact .slnil
  | cons run rest ih =>
    rw [List.filterMap_cons]
    cases run.finding with
    | none => exact ih.cons run.id
    | some finding => exact ih.cons_cons run.id

/-- A container is found gone if and only if a check under its id found it gone. -/
theorem found_gone_iff {findings : List (String × Observation Float)} {id : String}
    (distinct : (runs.map CheckRun.id).Nodup)
    (arrived : findings.Perm (runs.filterMap fun run => run.finding.map (run.id, ·))) :
    (∃ state, found findings id = .gone state) ↔
      ∃ run ∈ runs, run.id = id ∧ ∃ state, run.finding = some (.gone state) := by
  have hdistinct : (findings.map Prod.fst).Nodup := by
    rw [(arrived.map Prod.fst).nodup_iff]
    exact (sublist_findings runs).nodup distinct
  constructor
  · rintro ⟨state, hgone⟩
    rcases found_cases findings id with hmem | hunfinished
    · rw [arrived.mem_iff, List.mem_filterMap] at hmem
      obtain ⟨run, hrun, hfinding⟩ := hmem
      obtain ⟨finding, hfound, heq⟩ := Option.map_eq_some_iff.1 hfinding
      cases heq
      exact ⟨run, hrun, rfl, state, by rw [hfound, hgone]⟩
    · rw [hgone] at hunfinished
      cases hunfinished
  · rintro ⟨run, hrun, rfl, state, hfinding⟩
    refine ⟨state, found_of_mem hdistinct ?_⟩
    rw [arrived.mem_iff, List.mem_filterMap]
    exact ⟨run, hrun, by rw [hfinding]; rfl⟩

section Planned

variable {now : Nat} (filed : f.registry.workspaces.Keyed Workspace.containerId)
  (planned : runs.map (fun run => (run.id, run.check)) = (planWorkspaces c now f).2.1)

include filed planned

theorem planned_run (run : CheckRun) (hrun : run ∈ runs) :
    ∃ w, f.registry.workspaces.get? run.id = some w ∧
      (∃ s, f.registry.servers.get? w.serverId = some s ∧ s.status ≠ .offline) ∧
      run.check = .workspace c w.serverId run.id := by
  have hmem : (run.id, run.check) ∈ (planWorkspaces c now f).2.1 := by
    rw [← planned]
    exact List.mem_map_of_mem hrun
  exact mem_planned filed hmem

theorem distinct_runs : (runs.map CheckRun.id).Nodup := by
  have hids : runs.map CheckRun.id = (planWorkspaces c now f).2.1.map Prod.fst := by
    rw [← planned, List.map_map]
    rfl
  rw [hids]
  exact planned_nodup filed

/-- A container that was planned and found gone is one whose check finished on evidence. -/
theorem gone_iff_evidence (ran : ∀ run ∈ runs, run.check.Brings f run.calls run.finding)
    {findings : List (String × Observation Float)}
    (arrived : findings.Perm (runs.filterMap fun run => run.finding.map (run.id, ·)))
    {id : String} {w : Workspace Float} (found : f.registry.workspaces.get? id = some w) :
    (id ∈ (planWorkspaces c now f).2.1.map Prod.fst ∧
        ∃ state, Monitor.found findings id = .gone state) ↔
      (∃ s, f.registry.servers.get? w.serverId = some s ∧ s.status ≠ .offline) ∧
        ∃ run ∈ runs, run.id = id ∧ run.finding.isSome = true ∧
          ∃ sent, run.calls = [⟨w.serverId, .stats id, sent⟩] ∧ Client.Evidence id sent := by
  have hrun : ∀ run ∈ runs, run.id = id →
      (∃ s, f.registry.servers.get? w.serverId = some s ∧ s.status ≠ .offline) ∧
      ((∃ state, run.finding = some (.gone state)) ↔ run.finding.isSome = true ∧
        ∃ sent, run.calls = [⟨w.serverId, .stats id, sent⟩] ∧ Client.Evidence id sent) := by
    rintro run hrun rfl
    obtain ⟨w', hw', honline, hcheck⟩ := planned_run filed planned run hrun
    rw [found] at hw'
    cases hw'
    have hbrings := ran run hrun
    rw [hcheck] at hbrings
    exact ⟨honline, Check.workspace_gone_iff hbrings⟩
  rw [found_gone_iff (distinct_runs filed planned) arrived]
  constructor
  · rintro ⟨-, run, hmem, hid, hgone⟩
    obtain ⟨honline, hiff⟩ := hrun run hmem hid
    exact ⟨honline, run, hmem, hid, hiff.1 hgone⟩
  · rintro ⟨-, run, hmem, hid, hfinished⟩
    refine ⟨?_, run, hmem, hid, (hrun run hmem hid).2.2 hfinished⟩
    rw [← planned, List.map_map, ← hid]
    exact List.mem_map_of_mem hmem

end Planned

/-- Answers that come at once make a run of every check. -/
theorem exists_runs {answer : String → (op : Operation Float) → Reply op.Answer}
    (replies : ∀ id op, ∃ sent, f.Replies id op sent (answer id op))
    (checks : List (String × Check Float (Observation Float))) :
    ∃ runs : List CheckRun, runs.map (fun run => (run.id, run.check)) = checks ∧
      (∀ run ∈ runs, run.check.Brings f run.calls run.finding) ∧
      runs.filterMap (fun run => run.finding.map (run.id, ·)) =
        checks.map fun e => (e.1, e.2.run answer) := by
  induction checks with
  | nil => exact ⟨[], rfl, nofun, rfl⟩
  | cons e rest ih =>
    obtain ⟨runs, hplanned, hran, hfindings⟩ := ih
    obtain ⟨calls, hbrings⟩ := Check.exists_brings_run replies e.2
    refine ⟨⟨e.1, e.2, calls, some (e.2.run answer)⟩ :: runs, ?_, ?_, ?_⟩
    · rw [List.map_cons, hplanned]
    · intro run hrun
      rcases List.mem_cons.1 hrun with rfl | hlater
      · exact hbrings
      · exact hran run hlater
    · rw [List.map_cons, ← hfindings]
      rfl

namespace Tick

/-- A round whose answers come at once is one of the ways, whatever the clients reply. -/
theorem exists_run {answer : String → (op : Operation Float) → Reply op.Answer}
    (replies : ∀ id op, ∃ sent, f.Replies id op sent (answer id op)) (c : MonitorConfig)
    (now later : Nat) :
    let p := planWorkspaces c now f
    ∃ runs, Tick c f runs (settleWorkspaces c later p.1 (p.2.1.map Prod.fst)
      (p.2.1.map fun e => (e.1, e.2.run answer)) p.2.2).2 := by
  intro p
  obtain ⟨runs, planned, ran, arrived⟩ := exists_runs replies p.2.1
  exact ⟨runs, .settled planned ran (.of_eq arrived.symm)⟩

/-- **Records are dropped on evidence.** After a round, the record of a container is gone if and
only if its server was registered and not offline, and its check finished on the daemon's word that
the container is not there or does not run. Every other record is still there, on its server and
with its allocation. Daemons are called about those containers only whose server was registered and
not offline. That records stand under their own ids is so in every registry that is reached. -/
theorem dropped_on_evidence (filed : f.registry.workspaces.Keyed Workspace.containerId)
    (tick : Tick c f runs f') :
    (∀ id w, f.registry.workspaces.get? id = some w →
      (f'.registry.workspaces.get? id = none ↔
        (∃ s, f.registry.servers.get? w.serverId = some s ∧ s.status ≠ .offline) ∧
        ∃ run ∈ runs, run.id = id ∧ run.finding.isSome = true ∧
          ∃ sent, run.calls = [⟨w.serverId, .stats id, sent⟩] ∧ Client.Evidence id sent) ∧
      (f'.registry.workspaces.get? id ≠ none →
        ∃ w', f'.registry.workspaces.get? id = some w' ∧ w.SamePlace w')) ∧
    ∀ run ∈ runs, ∃ w s, f.registry.workspaces.get? run.id = some w ∧
      f.registry.servers.get? w.serverId = some s ∧ s.status ≠ .offline ∧
      ∀ call ∈ run.calls, call.serverId = w.serverId ∧
        (call.op = .stats run.id ∨ ∃ cmd, call.op = .exec run.id cmd) := by
  cases tick with
  | @settled now later runs findings planned ran arrived =>
    have hrecords := (planWorkspaces_planned c now f).2.trans_refl
      (without_settleWorkspaces c later (planWorkspaces c now f).1
        ((planWorkspaces c now f).2.1.map Prod.fst) findings (planWorkspaces c now f).2.2)
    constructor
    · intro id w hw
      rw [hrecords.get?_eq_none_iff hw, gone_iff_evidence filed planned ran arrived hw]
      exact ⟨Iff.rfl, hrecords.exists_kept hw⟩
    · intro run hrun
      obtain ⟨w, hw, ⟨s, hs, honline⟩, hcheck⟩ := planned_run filed planned run hrun
      have hbrings := ran run hrun
      rw [hcheck] at hbrings
      exact ⟨w, s, hw, hs, honline, Check.workspace_calls hbrings⟩

end Tick

/-- A fleet with one workspace on a server that can be asked. -/
def oneWorkspace : Fleet Float Client where
  ledger := {
    registry := {
      servers := (∅ : Table (Server Float)).insert "a" (.ofConfig SampleRun.config)
      workspaces := (∅ : Table (Workspace Float)).insert "c" (.ofReservation SampleRun.hold "c" 0)
      pending := []
      nextReservation := 2 }
    store := none }
  pool := (∅ : Table Client).insert "a" ⟨"a", "http://localhost:2375", 4, .ofSecs 10, 10⟩
  placer := .initial
  events := []

/-- The check of a workspace whose container the daemon does not know. -/
def unknownRun : CheckRun where
  id := "c"
  check := .workspace .default "a" "c"
  calls := [⟨"a", .stats "c", [(Client.inspection "c", .ok ⟨404, none⟩)]⟩]
  finding := some (.gone "missing")

/-- The record of a container that the daemon does not know is gone after the round. -/
theorem dropped_unknown : ∃ f', Tick .default oneWorkspace [unknownRun] f' ∧
    f'.registry.workspaces.get? "c" = none := by
  have filed : oneWorkspace.registry.workspaces.Keyed Workspace.containerId :=
    (Table.Keyed.nothing Workspace.containerId).insert rfl
  have planned : [unknownRun].map (fun run => (run.id, run.check)) =
      (planWorkspaces .default 0 oneWorkspace).2.1 := by
    have hlist : oneWorkspace.registry.listWorkspaces = [.ofReservation SampleRun.hold "c" 0] :=
      List.mergeSort_singleton _
    rw [(planWorkspaces_planned .default 0 oneWorkspace).1, hlist]
    rfl
  have ran : ∀ run ∈ [unknownRun], run.check.Brings oneWorkspace run.calls run.finding := by
    intro run hrun
    rw [List.mem_singleton.1 hrun]
    exact .replied (.answered rfl (.responded ⟨404, none⟩ .done)) .concluded
  have tick := @Tick.settled .default oneWorkspace 0 0 _ _ planned ran (.refl _)
  have dropped := (Tick.dropped_on_evidence filed tick).1 "c" _ rfl
  exact ⟨_, tick, dropped.1.2 ⟨⟨_, rfl, nofun⟩, unknownRun, List.mem_singleton_self _, rfl, rfl, _,
    rfl, .missing rfl⟩⟩

end Monitor
end WorkspaceFleet
