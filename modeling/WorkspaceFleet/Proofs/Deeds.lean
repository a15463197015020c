import WorkspaceFleet.Proofs.Operations

/-!
# WorkspaceFleet.Proofs.Deeds

What is done to the registry of a fleet, and what it is to the health of a server or a workspace.

A `Deed` is one thing that is done: the monitor records the check of a server, marks a workspace or
settles the check of one, or anyone else makes a call. What the daemons answered is part of it.
`Happening.onServer` and `Happening.onWorkspace` read off the answers what a deed is to the server or
the workspace with an id, and `Monitor.isSuccess_serverFinding` and `Monitor.callOf_cases` say that
the monitor draws the same conclusions.
-/

namespace WorkspaceFleet

variable {κ : Type}

/-- What daemons answer to the questions of a check. -/
abbrev Answers (κ : Type) := String → (op : Operation κ) → Reply op.Answer

namespace Monitor

/-- What the check of a server finds. Without answers it did not finish before its round was over. -/
def serverFinding (c : MonitorConfig) (id : String) : Option (Answers κ) → ServerFinding
  | some answers => (Check.server c id).run answers
  | none => .error unfinishedText

/-- What the check of a workspace finds, likewise. -/
def workspaceFinding (c : MonitorConfig) (serverId id : String) :
    Option (Answers κ) → Observation κ
  | some answers => (Check.workspace c serverId id).run answers
  | none => .unreachable unfinishedText

end Monitor

/-! ## Deeds -/

/-- What is done to the registry of a fleet. -/
inductive Deed (κ : Type) : Type 1 where
  /-- The check of a server is recorded, on top of what was seen of the server before. -/
  | check (c : MonitorConfig) (now : Nat) (id : String) (seen : Server κ)
      (answers : Option (Answers κ))
  /-- A workspace is marked whose server was not asked by a round that began with these servers. -/
  | mark (now : Nat) (servers : Table (Server κ)) (w : Workspace κ) (reason : String)
      (skipped : Monitor.skipReason? servers w = some reason)
  /-- The check of a workspace is settled. -/
  | settle (c : MonitorConfig) (now : Nat) (serverId id : String) (answers : Option (Answers κ))
  | other (call : Registry.Call κ)

/-- What holds of a run throughout: the settings of the monitor, the ids that daemons may give to
containers, and the calls that others make. -/
structure Rules (κ : Type) where
  settings : MonitorConfig → Prop
  ids : Registry κ → String → Prop
  others : Registry.Call κ → Prop

namespace Deed

/-- The one call that a deed makes. -/
def call : Deed κ → Registry.Call κ
  | .check c now id seen answers =>
    .recordServerCheck id (Monitor.serverCheck c now seen (Monitor.serverFinding c id answers))
  | .mark now _ w reason _ => .updateWorkspace w.containerId (Monitor.unreached now reason)
  | .settle c now serverId id answers =>
    Monitor.callOf c now id (Monitor.workspaceFinding c serverId id answers)
  | .other call => call

/-- What is promised of a deed: it keeps the rules, and its numbers fit their words. -/
def Permitted (rules : Rules κ) (r : Registry κ) (issued : List (Reservation κ)) : Deed κ → Prop
  | .check c now id _ answers => rules.settings c ∧ now < word64 ∧
      ∀ o, Monitor.serverFinding c id answers = .ok o → o.InRange
  | .mark now _ _ _ _ => now < word64
  | .settle c now serverId id answers => rules.settings c ∧ now < word64 ∧
      (Monitor.workspaceFinding c serverId id answers).InRange
  | .other call => rules.others call ∧ call.Permitted issued (rules.ids r)

end Deed

theorem failures_record_server_lt (t : ServerTracker) (threshold : Nat) (result : CheckResult) :
    (t.record threshold result).consecutiveFailures < word32 := by
  have hpos : 0 < word32 := by decide
  unfold ServerTracker.record
  split
  · exact hpos
  · show min (t.consecutiveFailures + 1) (word32 - 1) < word32
    omega

theorem inRange_serverCheck (c : MonitorConfig) {now : Nat} (time : now < word64) (s : Server κ)
    {finding : ServerFinding} (range : ∀ o, finding = .ok o → o.InRange) :
    (Monitor.serverCheck c now s finding).InRange where
  failures := failures_record_server_lt _ _ _
  observed o ho := by
    cases finding with
    | error e => cases ho
    | ok o' =>
      cases ho
      exact range o rfl
  checkedAt := time

theorem Deed.Permitted.call_permitted {rules : Rules κ} {r : Registry κ}
    {issued : List (Reservation κ)} {deed : Deed κ} (h : deed.Permitted rules r issued) :
    deed.call.Permitted issued (rules.ids r) := by
  cases deed with
  | check c now id seen answers => exact inRange_serverCheck c h.2.1 seen h.2.2
  | mark now servers w reason skipped => exact Monitor.unreached_permitted h _ _
  | settle c now serverId id answers => exact Monitor.callOf_permitted h.2.1 c id h.2.2
  | other call => exact h.2

/-- Others make only the calls that the rules allow. -/
theorem Deed.Permitted.ne_other {rules : Rules κ} {r : Registry κ} {issued : List (Reservation κ)}
    {deed : Deed κ} (h : deed.Permitted rules r issued) {call : Registry.Call κ}
    (never : ¬ rules.others call) : deed ≠ .other call := by
  rintro rfl
  exact never h.1

/-! ## Servers -/

/-- A restart, or a deed with the registry that it found. -/
inductive Happening (κ : Type) : Type 1 where
  | restarted
  | did (found : Registry κ) (deed : Deed κ)

/-- What may happen to the health of a server. -/
inductive ServerEvent where
  | registered
  | restarted
  /-- It was checked, and its daemon answered or not. -/
  | checked (answered : Bool)
  deriving DecidableEq, Repr

/-- Whether a daemon said in time how it fares. -/
def answersInfo (id : String) : Option (Answers κ) → Bool
  | some answers =>
    match answers id .info with
    | .answered _ => true
    | _ => false
  | none => false

/-- What a happening is to a server. -/
def Happening.onServer (id : String) : Happening κ → Option ServerEvent
  | .restarted => some .restarted
  | .did found (.check _ _ j _ answers) =>
    if j = id ∧ found.servers.contains id = true then some (.checked (answersInfo id answers))
    else none
  | .did found (.other (.addServer c)) =>
    if c.serverId = id ∧ found.servers.contains id = false then some .registered else none
  | _ => none

/-- What happened to a server, in order. -/
def serverEvents (id : String) (log : List (Happening κ)) : List ServerEvent :=
  log.filterMap (Happening.onServer id)

theorem serverEvents_concat (id : String) (log : List (Happening κ)) (h : Happening κ) :
    serverEvents id (log ++ [h]) = serverEvents id log ++ (h.onServer id).toList := by
  rw [serverEvents, List.filterMap_append]
  cases hevent : h.onServer id <;> simp [serverEvents, hevent]

/-- What a finding counts as. -/
def Monitor.resultOf : ServerFinding → CheckResult
  | .ok _ => .healthy
  | .error _ => .failed

/-- The check of a server succeeds if and only if its daemon says in time how it fares. -/
theorem Monitor.isSuccess_serverFinding (c : MonitorConfig) (id : String)
    (answers : Option (Answers κ)) :
    (resultOf (serverFinding c id answers)).isSuccess = answersInfo id answers := by
  cases answers with
  | none => rfl
  | some answers =>
    simp only [serverFinding, Check.server, Check.run, answersInfo]
    cases answers id .info <;> rfl

/-! ## Workspaces -/

/-- What may happen to the health of a workspace. -/
inductive ProbeEvent where
  | committed
  | succeeded
  | failed
  | marked
  deriving DecidableEq, Repr

def ProbeEvent.ofReply : Reply ExecResult → ProbeEvent
  | .answered r => if r.exitCode = 0 then .succeeded else .failed
  | _ => .failed

/-- What the answers to the check of a workspace are to its health. A check that is not finished in
time has failed, and a container that does not run is no event: its record goes. -/
def probeOutcome (c : MonitorConfig) (serverId id : String) : Option (Answers κ) → Option ProbeEvent
  | none => some .failed
  | some answers =>
    match answers serverId (.stats id) with
    | .answered (stats : ContainerStats κ) =>
      if stats.running = false then none
      else if c.probeCommand = [] then some .succeeded
      else some (.ofReply (answers serverId (.exec id c.probeCommand)))
    | _ => some .failed

/-- What is concluded from a probe is a result that succeeds where its reply does. -/
theorem Observation.ofProbe_eq (c : MonitorConfig) (stats : ContainerStats κ)
    (reply : Reply ExecResult) :
    ∃ result error, ofProbe c stats reply = .running stats result error ∧
      ProbeEvent.ofReply reply = if result.isSuccess then .succeeded else .failed := by
  cases reply with
  | failed e => exact ⟨_, _, rfl, rfl⟩
  | timedOut => exact ⟨_, _, rfl, rfl⟩
  | answered r =>
    by_cases zero : r.exitCode = 0
    · have hsuccess : r.success = true := beq_iff_eq.2 zero
      rw [ofProbe, if_pos hsuccess, ProbeEvent.ofReply, if_pos zero]
      exact ⟨_, _, rfl, rfl⟩
    · have hfailure : ¬ r.success = true := mt beq_iff_eq.1 zero
      rw [ofProbe, if_neg hfailure, ProbeEvent.ofReply, if_neg zero]
      exact ⟨_, _, rfl, rfl⟩

/-- What settling a check does: it removes the record, or it records a probe that succeeded or failed
as the answers say. -/
theorem Monitor.callOf_cases (c : MonitorConfig) (now : Nat) (serverId id : String)
    (answers : Option (Answers κ)) :
    (probeOutcome c serverId id answers = none ∧
      callOf c now id (workspaceFinding c serverId id answers) = .removeWorkspace id) ∨
    ∃ result error stats,
      probeOutcome c serverId id answers =
        some (if result.isSuccess then .succeeded else .failed) ∧
      callOf c now id (workspaceFinding c serverId id answers) =
        .updateWorkspace id (probed c now result error stats) := by
  cases answers with
  | none => exact .inr ⟨.failed, _, none, rfl, rfl⟩
  | some answers =>
    simp only [probeOutcome, workspaceFinding, Check.workspace, Check.run]
    cases answers serverId (.stats id) with
    | failed e => exact .inr ⟨.failed, _, none, rfl, rfl⟩
    | timedOut => exact .inr ⟨.failed, _, none, rfl, rfl⟩
    | answered stats =>
      change ContainerStats κ at stats
      dsimp only
      cases hrunning : stats.running with
      | false =>
        left
        rw [if_pos rfl, if_pos Bool.false_ne_true]
        exact ⟨rfl, rfl⟩
      | true =>
        right
        rw [if_neg (by decide), if_neg (not_not.2 rfl)]
        by_cases disabled : c.probeCommand = []
        · rw [if_pos disabled, if_pos (List.isEmpty_iff.2 disabled)]
          exact ⟨.healthy, none, some stats, rfl, rfl⟩
        · rw [if_neg disabled, if_neg (mt List.isEmpty_iff.1 disabled), Check.run, Check.run]
          obtain ⟨result, error, hprobe, hevent⟩ :=
            Observation.ofProbe_eq c stats (answers serverId (.exec id c.probeCommand))
          rw [hprobe, hevent]
          exact ⟨result, error, some stats, rfl, rfl⟩

section Events

variable [Quantity κ]

/-- What a happening is to a recorded workspace. -/
def Happening.onWorkspace (id : String) : Happening κ → Option ProbeEvent
  | .did found (.mark _ _ w _ _) =>
    if w.containerId = id ∧ found.workspaces.contains id = true then some .marked else none
  | .did found (.settle c _ serverId j answers) =>
    if j = id ∧ found.workspaces.contains id = true then probeOutcome c serverId j answers else none
  | .did found (.other (.commit hold c now)) =>
    if c = id ∧ (found.commit hold c now).result.isOk = true then some .committed else none
  | _ => none

/-- What happened to a workspace, in order. -/
def workspaceEvents (id : String) (log : List (Happening κ)) : List ProbeEvent :=
  log.filterMap (Happening.onWorkspace id)

theorem workspaceEvents_concat (id : String) (log : List (Happening κ)) (h : Happening κ) :
    workspaceEvents id (log ++ [h]) = workspaceEvents id log ++ (h.onWorkspace id).toList := by
  rw [workspaceEvents, List.filterMap_append]
  cases hevent : h.onWorkspace id <;> simp [workspaceEvents, hevent]

end Events
end WorkspaceFleet
