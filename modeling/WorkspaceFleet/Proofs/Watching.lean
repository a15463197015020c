import Mathlib.Data.List.DropRight
import WorkspaceFleet.Proofs.Ticking

/-!
# WorkspaceFleet.Proofs.Watching

The status of a server as a function of what happened to it.

`unanswered` counts the checks that failed since the last one that succeeded, or since the server
was registered. `Chronicle.status_of_events` says that a server counts exactly these, is offline
from the threshold on, and is healthy if and only if a successful check was the last thing that
happened to it. Only checks and restarts touch what a tracker reads of a server: every other call
keeps it (`SameHealth`). A check counts once it is recorded, on a store that takes every write.
-/

namespace WorkspaceFleet

variable {κ : Type}

/-! ## Trackers -/

/-- After it no failure counts that was before. -/
def ServerEvent.clears : ServerEvent → Bool
  | .registered => true
  | .restarted => false
  | .checked answered => answered

/-- How many checks failed since the last that succeeded, or since the registration. -/
def unanswered (events : List ServerEvent) : Nat :=
  (events.rtakeWhile fun e => !e.clears).count (.checked false)

@[simp] theorem unanswered_registered (events : List ServerEvent) :
    unanswered (events ++ [.registered]) = 0 := by
  rw [unanswered, List.rtakeWhile_concat_neg] <;> simp [ServerEvent.clears]

@[simp] theorem unanswered_restarted (events : List ServerEvent) :
    unanswered (events ++ [.restarted]) = unanswered events := by
  rw [unanswered, List.rtakeWhile_concat_pos, List.count_append] <;>
    simp [ServerEvent.clears, unanswered]

@[simp] theorem unanswered_succeeded (events : List ServerEvent) :
    unanswered (events ++ [.checked true]) = 0 := by
  rw [unanswered, List.rtakeWhile_concat_neg] <;> simp [ServerEvent.clears]

@[simp] theorem unanswered_failed (events : List ServerEvent) :
    unanswered (events ++ [.checked false]) = unanswered events + 1 := by
  rw [unanswered, List.rtakeWhile_concat_pos, List.count_append] <;>
    simp [ServerEvent.clears, unanswered]

namespace ServerTracker

/-- What a restart makes of the state of a server. -/
def reopened (t : ServerTracker) : ServerTracker :=
  if t.status = .healthy then { t with status := .unhealthy } else t

/-- The state of a server is the one that its events lead to, with this threshold. -/
structure Follows (threshold : Nat) (events : List ServerEvent) (t : ServerTracker) : Prop where
  registered : .registered ∈ events
  failures : t.consecutiveFailures = min (unanswered events) (word32 - 1)
  offline : t.status = .offline ↔ threshold ≤ unanswered events
  healthy : t.status = .healthy ↔ events.getLast? = some (.checked true)

variable {threshold : Nat} {events : List ServerEvent} {t : ServerTracker}

theorem reopened_reopened (t : ServerTracker) : t.reopened.reopened = t.reopened := by
  unfold reopened
  split <;> simp_all

theorem follows_registered (positive : 1 ≤ threshold) (events : List ServerEvent) :
    Follows threshold (events ++ [.registered]) ⟨.unhealthy, 0⟩ where
  registered := List.mem_append_right _ List.mem_cons_self
  failures := by simp
  offline := by
    rw [unanswered_registered]
    exact iff_of_false nofun (by omega)
  healthy := by simp

theorem Follows.restarted (h : Follows threshold events t) :
    Follows threshold (events ++ [.restarted]) t.reopened := by
  have hlast : (events ++ [ServerEvent.restarted]).getLast? ≠ some (.checked true) := by simp
  have hregistered := List.mem_append_left [ServerEvent.restarted] h.registered
  obtain ⟨-, hfailures, hoffline, -⟩ := h
  unfold reopened
  split
  · next hhealthy =>
    rw [hhealthy] at hoffline
    refine ⟨hregistered, by rw [unanswered_restarted, ← hfailures], ?_,
      iff_of_false nofun hlast⟩
    rw [unanswered_restarted, ← hoffline]
    exact iff_of_false nofun nofun
  · next hhealthy =>
    exact ⟨hregistered, by rw [unanswered_restarted, hfailures],
      by rw [unanswered_restarted, hoffline], iff_of_false hhealthy hlast⟩

/-- **A check** leads on, whatever the threshold is, as long as it is a word. -/
theorem Follows.checked (positive : 1 ≤ threshold) (word : threshold < word32)
    (h : Follows threshold events t) {result : CheckResult} {answered : Bool}
    (means : result.isSuccess = answered) :
    Follows threshold (events ++ [.checked answered]) (t.record threshold result) := by
  have hregistered := List.mem_append_left [ServerEvent.checked answered] h.registered
  unfold record
  rw [means]
  cases answered with
  | true =>
    rw [if_pos rfl]
    refine ⟨hregistered, by simp, ?_, by simp⟩
    rw [unanswered_succeeded]
    exact iff_of_false nofun (by omega)
  | false =>
    rw [if_neg Bool.false_ne_true]
    have hcount : countFailure t.consecutiveFailures =
        min (unanswered events + 1) (word32 - 1) := by
      rw [countFailure, h.failures]
      omega
    -- the count stops at the largest word, which no threshold passes
    have hreached : max threshold 1 ≤ min (unanswered events + 1) (word32 - 1) ↔
        threshold ≤ unanswered events + 1 := by omega
    refine ⟨hregistered, by rw [unanswered_failed]; exact hcount, ?_, ?_⟩
    · rw [unanswered_failed, ← hreached, hcount]
      dsimp only
      split
      · next hle => exact iff_of_true rfl hle
      · next hle => exact iff_of_false nofun hle
    · refine iff_of_false ?_ (by simp)
      dsimp only
      split <;> nofun

end ServerTracker

/-! ## Calls -/

namespace Registry

/-- The state of health of a registered server. -/
def serverHealth (r : Registry κ) (id : String) : Option ServerTracker :=
  (r.servers.get? id).map ServerTracker.ofServer

theorem serverHealth_of_get? {r : Registry κ} {id : String} {s : Server κ}
    (found : r.servers.get? id = some s) : r.serverHealth id = some (.ofServer s) := by
  rw [serverHealth, found]
  rfl

end Registry

/-- Every server afterwards was there before, and its state of health is the same. -/
def SameHealth (r r' : Registry κ) : Prop :=
  ∀ id t, r'.serverHealth id = some t → r.serverHealth id = some t

namespace SameHealth

variable {r r' : Registry κ}

theorem of_servers (same : r'.servers = r.servers) : SameHealth r r' := by
  intro id t ht
  rw [Registry.serverHealth, same] at ht
  exact ht

theorem insert {id : String} {s v : Server κ} (found : r.servers.get? id = some s)
    (same : ServerTracker.ofServer v = ServerTracker.ofServer s)
    (servers : r'.servers = r.servers.insert id v) : SameHealth r r' := by
  intro j t ht
  rw [Registry.serverHealth, servers, Table.get?_insert] at ht
  split at ht
  · next hj =>
    cases hj
    rw [Registry.serverHealth_of_get? found, ← same]
    exact ht
  · exact ht

theorem erase {id : String} (servers : r'.servers = r.servers.erase id) : SameHealth r r' := by
  intro j t ht
  rw [Registry.serverHealth, servers, Table.get?_erase] at ht
  split at ht
  · cases ht
  · exact ht

end SameHealth

namespace Registry

theorem tracker_reopened (s : Server κ) :
    ServerTracker.ofServer (reopened s) = (ServerTracker.ofServer s).reopened := by
  unfold reopened ServerTracker.reopened ServerTracker.ofServer
  split <;> rfl

theorem sameHealth_removeServer (r : Registry κ) (id : String) :
    SameHealth r (r.removeServer id).registry := by
  rw [removeServer]
  split
  · exact .of_servers rfl
  · split
    · exact .of_servers rfl
    · exact .erase rfl

theorem sameHealth_updateWorkspace (r : Registry κ) (id : String)
    (f : Workspace κ → Workspace κ) : SameHealth r (r.updateWorkspace id f).registry := by
  rw [updateWorkspace]
  split <;> exact .of_servers rfl

variable [Quantity κ]

theorem sameHealth_reserve (r : Registry κ) (id : String) (a : Allocation κ) :
    SameHealth r (r.reserve id a).registry := by
  rcases reserve_cases r id a with ⟨e, h⟩ | ⟨s, found, -, h⟩
  · rw [h]
    exact .of_servers rfl
  · rw [h]
    exact .insert (v := s.apply a) found rfl rfl

theorem sameHealth_reserveWith {ε : Type} (r : Registry κ) (a : Allocation κ)
    (select : List (Server κ) → Except ε String) (lift : RegistryError → ε) :
    SameHealth r (r.reserveWith a select lift).registry := by
  rw [reserveWith]
  split
  · exact .of_servers rfl
  · exact sameHealth_reserve r _ a

theorem sameHealth_release (r : Registry κ) (hold : Reservation κ) :
    SameHealth r (r.release hold).registry := by
  cases hh : r.hold? hold.id with
  | none =>
    simp only [release, hh]
    exact .of_servers rfl
  | some held =>
    cases hs : r.servers.get? held.serverId with
    | none =>
      simp only [release, hh, hs]
      exact .of_servers rfl
    | some s =>
      simp only [release, hh, hs]
      exact .insert (v := s.retract held.allocation) hs rfl rfl

theorem sameHealth_commit (r : Registry κ) (hold : Reservation κ) (c : String) (now : Nat) :
    SameHealth r (r.commit hold c now).registry := by
  rw [commit]
  split <;> exact .of_servers rfl

theorem sameHealth_removeWorkspace (r : Registry κ) (c : String) :
    SameHealth r (r.removeWorkspace c).registry := by
  cases hw : r.workspaces.get? c with
  | none =>
    simp only [removeWorkspace, hw]
    exact .of_servers rfl
  | some w =>
    cases hs : r.servers.get? w.serverId with
    | none =>
      simp only [removeWorkspace, hw, hs]
      exact .of_servers rfl
    | some s =>
      simp only [removeWorkspace, hw, hs]
      exact .insert (v := s.retract w.allocation) hs rfl rfl

theorem tracker_settled (s : Server κ) (u : Usage κ) :
    ServerTracker.ofServer (settled s u) = ServerTracker.ofServer s := by
  unfold settled
  split <;> rfl

theorem serverHealth_reconcile {r : Registry κ} (keyed : r.servers.Keyed Server.serverId)
    (id : String) : serverHealth r.reconcile.registry id = serverHealth r id := by
  rw [serverHealth, get?_reconcile keyed, Option.map_map, serverHealth]
  congr 1
  funext s
  exact tracker_settled s _

/-- The state of health of a server outlives the process, except that it is not taken for healthy
afterwards. -/
theorem lasting_serverHealth :
    Lasting (serverHealth (κ := κ)) ServerTracker.reopened where
  empty _ := rfl
  rest _ _ := rfl
  between cut id := by
    rcases cut.servers id with h | h
    · exact .inl (by rw [serverHealth, h, serverHealth])
    · exact .inr (by rw [serverHealth, h, serverHealth])
  reconciled := serverHealth_reconcile
  again_again := ServerTracker.reopened_reopened
  read {store l m} reads mirrors id := by
    rcases reads.again_servers mirrors id with ⟨hm, hl⟩ | ⟨s, s', hm, hl, hsame⟩
    · rw [serverHealth, hl, serverHealth, hm]
      rfl
    · rw [serverHealth_of_get? hl, serverHealth_of_get? hm, Option.map_some]
      congr 1
      obtain ⟨row, -, hrow⟩ := reads.servers.some_right hl
      obtain ⟨v, -, rfl⟩ := map_eq_ok.1 hrow
      rcases hsame with rfl | ⟨-, hagain⟩
      -- the row was read at an earlier restart
      · rw [tracker_reopened, ServerTracker.reopened_reopened]
      · rw [hagain, tracker_reopened]
        rfl

end Registry

/-! ## Deeds -/

/-- What a check makes of the state of health of a server. -/
theorem Monitor.tracker_serverCheck (c : MonitorConfig) (now : Nat) (seen s : Server κ)
    (finding : ServerFinding) :
    ServerTracker.ofServer (Registry.checked s (Monitor.serverCheck c now seen finding)) =
      (ServerTracker.ofServer seen).record c.offlineThreshold (resultOf finding) := by
  cases finding <;> rfl

section Deeds

variable [Quantity κ] {rules : Rules κ} {r : Registry κ} {id : String} {deed : Deed κ}

/-- A deed that is no event for a server keeps its state of health. -/
theorem Deed.quiet_serverHealth (noChecks : ∀ id check, deed ≠ .other (.recordServerCheck id check))
    (keyed : r.servers.Keyed Server.serverId)
    (quiet : (Happening.did r deed).onServer id = none) {t : ServerTracker}
    (ht : (deed.call.change r).registry.serverHealth id = some t) :
    r.serverHealth id = some t := by
  cases deed with
  | check c now j seen answers =>
    simp only [Deed.call, Registry.Call.change, Change.map] at ht
    rcases Registry.recordServerCheck_cases r j
      (Monitor.serverCheck c now seen (Monitor.serverFinding c j answers)) with ⟨-, h⟩ | ⟨s, hs, h⟩
    · rw [h] at ht
      exact ht
    · have hother : j ≠ id := by
        rintro rfl
        simp [Happening.onServer, Table.contains_of_get? hs] at quiet
      rw [h, Registry.changed, Registry.serverHealth, Table.get?_insert_of_ne hother] at ht
      exact ht
  | mark now servers w reason skipped =>
    exact Registry.sameHealth_updateWorkspace r _ _ id t ht
  | settle c now serverId j answers =>
    simp only [Deed.call] at ht
    unfold Monitor.callOf at ht
    split at ht
    · exact Registry.sameHealth_removeWorkspace r _ id t ht
    · exact Registry.sameHealth_updateWorkspace r _ _ id t ht
    · exact Registry.sameHealth_updateWorkspace r _ _ id t ht
  | other call =>
    cases call with
    | addServer c =>
      simp only [Deed.call, Registry.Call.change, Change.map] at ht
      rcases r.addServer_cases (.ofConfig c) with ⟨-, h⟩ | ⟨hnew, h⟩
      · rw [h] at ht
        exact ht
      · have hother : (Server.ofConfig c).serverId ≠ id := by
          rintro rfl
          simp only [Happening.onServer] at quiet
          rw [if_pos ⟨rfl, Table.contains_eq_false_iff.2 hnew⟩] at quiet
          cases quiet
        rw [h, Registry.changed, Registry.serverHealth, Table.get?_insert_of_ne hother] at ht
        exact ht
    | removeServer j => exact Registry.sameHealth_removeServer r j id t ht
    | recordServerCheck j check => exact absurd rfl (noChecks j check)
    | reserve j a => exact Registry.sameHealth_reserve r j a id t ht
    | reserveWith a select lift => exact Registry.sameHealth_reserveWith r a select lift id t ht
    | release hold => exact Registry.sameHealth_release r hold id t ht
    | commit hold c now => exact Registry.sameHealth_commit r hold c now id t ht
    | updateWorkspace c f => exact Registry.sameHealth_updateWorkspace r c f id t ht
    | removeWorkspace c => exact Registry.sameHealth_removeWorkspace r c id t ht
    | reconcile => exact (Registry.serverHealth_reconcile keyed id).symm.trans ht

/-- What an event makes of the state of health of a server, where `t` is that of a server that was
there before. -/
theorem Deed.event_serverHealth {e : ServerEvent}
    (event : (Happening.did r deed).onServer id = some e) :
    (e = .registered ∧ (deed.call.change r).registry.serverHealth id = some ⟨.unhealthy, 0⟩) ∨
    ∃ c now seen answers result, deed = .check c now id seen answers ∧
      e = .checked (answersInfo id answers) ∧
      result.isSuccess = answersInfo id answers ∧ (∃ t, r.serverHealth id = some t) ∧
      (deed.call.change r).registry.serverHealth id =
        some ((ServerTracker.ofServer seen).record c.offlineThreshold result) := by
  cases deed with
  | check c now j seen answers =>
    right
    simp only [Happening.onServer] at event
    split at event
    · next hfound =>
      obtain ⟨rfl, hcontains⟩ := hfound
      cases event
      obtain ⟨s, hs⟩ := Option.isSome_iff_exists.1 hcontains
      refine ⟨c, now, seen, answers, _, rfl, rfl, Monitor.isSuccess_serverFinding c j answers,
        ⟨_, Registry.serverHealth_of_get? hs⟩, ?_⟩
      simp only [Deed.call, Registry.Call.change, Change.map]
      rcases Registry.recordServerCheck_cases r j
        (Monitor.serverCheck c now seen (Monitor.serverFinding c j answers)) with ⟨hnone, -⟩ | ⟨s, -, h⟩
      · rw [hs] at hnone
        cases hnone
      · rw [h, Registry.changed, Registry.serverHealth, Table.get?_insert_self, Option.map_some,
          Monitor.tracker_serverCheck]
    · cases event
  | mark now servers w reason skipped => cases event
  | settle c now serverId j answers => cases event
  | other call =>
    left
    cases call with
    | addServer c =>
      simp only [Happening.onServer] at event
      split at event
      · next hnew =>
        obtain ⟨rfl, hnew⟩ := hnew
        cases event
        refine ⟨rfl, ?_⟩
        simp only [Deed.call, Registry.Call.change, Change.map]
        rcases r.addServer_cases (.ofConfig c) with ⟨known, -⟩ | ⟨-, h⟩
        · exact absurd known (Bool.eq_false_iff.1 hnew)
        · rw [h, Registry.changed, Registry.serverHealth]
          exact congrArg (Option.map _) (Table.get?_insert_self r.servers _ _)
      · cases event
    | _ => cases event

/-- A deed that is an event for a server writes no more than its row. -/
theorem Deed.quiet_of_many (many : 1 < (deed.call.change r).writes.length) :
    (Happening.did r deed).onServer id = none := by
  cases deed with
  | check c now j seen answers =>
    refine absurd many (Nat.not_lt.2 ?_)
    simp only [Deed.call, Registry.Call.change, Change.map]
    rcases Registry.recordServerCheck_cases r j
      (Monitor.serverCheck c now seen (Monitor.serverFinding c j answers)) with ⟨-, h⟩ | ⟨s, -, h⟩
    · rw [h]
      exact Nat.zero_le 1
    · rw [h]
      exact le_rfl
  | mark now servers w reason skipped => rfl
  | settle c now serverId j answers => rfl
  | other call =>
    cases call with
    | addServer c =>
      refine absurd many (Nat.not_lt.2 ?_)
      simp only [Deed.call, Registry.Call.change, Change.map]
      rcases r.addServer_cases (.ofConfig c) with ⟨-, h⟩ | ⟨-, h⟩
      · rw [h]
        exact Nat.zero_le 1
      · rw [h]
        exact le_rfl
    | _ => rfl

end Deeds

/-! ## The law -/

section Law

variable [Quantity κ] {rules : Rules κ} {threshold : Nat} {log : List (Happening κ)}

/-- **What was seen of a server is still its state of health**, unless it was checked since. -/
theorem Server.Seen.serverHealth (noChecks : ∀ id check, ¬ rules.others (.recordServerCheck id check))
    {id : String} {seen : Server κ} {r : Registry κ} (h : Server.Seen id seen r log)
    {ledger : Ledger κ} {issued : List (Reservation κ)}
    (chronicle : Chronicle rules (.running ledger issued) log) (now : ledger.registry = r)
    {t : ServerTracker} (ht : r.serverHealth id = some t) : t = .ofServer seen := by
  induction h generalizing ledger issued t with
  | now found =>
    rw [Registry.serverHealth_of_get? found] at ht
    exact (Option.some.inj ht).symm
  | before earlier quiet ih =>
    obtain ⟨ledger₀, issued₀, before, rfl, permitted, hnow⟩ := chronicle.last_deed
    rw [← now, hnow] at ht
    exact ih before rfl (Deed.quiet_serverHealth
      (fun j check => permitted.ne_other (noChecks j check))
      before.ledger_sound.registry.booked.keyed quiet ht)

/-- The events of a server make up its state of health. -/
theorem lawful_serverHealth (positive : 1 ≤ threshold) (word : threshold < word32)
    (constant : ∀ c, rules.settings c → c.offlineThreshold = threshold)
    (noChecks : ∀ id check, ¬ rules.others (.recordServerCheck id check)) :
    Lawful rules (Registry.serverHealth (κ := κ)) ServerTracker.reopened
      (fun log id t => t.Follows threshold (serverEvents id log)) where
  restart {log id t} h := by
    rw [serverEvents_concat]
    exact h.restarted
  long {r deed log id t} many h := by
    rw [serverEvents_concat, Deed.quiet_of_many many, Option.toList_none, List.append_nil]
    exact h
  deed {ledger issued log deed} chronicle permitted current law id t ht := by
    rw [serverEvents_concat]
    cases hevent : (Happening.did ledger.registry deed).onServer id with
    | none =>
      rw [Option.toList_none, List.append_nil]
      exact law id t (Deed.quiet_serverHealth
        (fun j check => permitted.ne_other (noChecks j check))
        chronicle.ledger_sound.registry.booked.keyed hevent ht)
    | some e =>
      rw [Option.toList_some]
      rcases Deed.event_serverHealth hevent with ⟨rfl, hnew⟩ |
        ⟨c, now, seen, answers, result, rfl, rfl, hmeans, ⟨t₀, ht₀⟩, hnew⟩
      · cases hnew.symm.trans ht
        exact ServerTracker.follows_registered positive _
      · cases hnew.symm.trans ht
        have hseen : t₀ = .ofServer seen := current.serverHealth noChecks chronicle rfl ht₀
        rw [← hseen, constant c permitted.1]
        exact (law id t₀ ht₀).checked positive word hmeans

/-- **The status of a server is the function of what happened to it**, whatever else the fleet did and
however often it was restarted: it counts the checks that failed since the last that succeeded, is
offline from the threshold on, and is healthy if and only if a successful check came last. -/
theorem Chronicle.status_of_events (positive : 1 ≤ threshold) (word : threshold < word32)
    (constant : ∀ c, rules.settings c → c.offlineThreshold = threshold)
    (noChecks : ∀ id check, ¬ rules.others (.recordServerCheck id check))
    {ledger : Ledger κ} {issued : List (Reservation κ)}
    (chronicle : Chronicle rules (.running ledger issued) log) {id : String} {s : Server κ}
    (found : ledger.registry.servers.get? id = some s) :
    .registered ∈ serverEvents id log ∧
    s.consecutiveFailures = min (unanswered (serverEvents id log)) (word32 - 1) ∧
    (s.status = .offline ↔ threshold ≤ unanswered (serverEvents id log)) ∧
    (s.status = .healthy ↔ (serverEvents id log).getLast? = some (.checked true)) ∧
    (s.status = .unhealthy ↔ ¬ threshold ≤ unanswered (serverEvents id log) ∧
      (serverEvents id log).getLast? ≠ some (.checked true)) := by
  have h : (ServerTracker.ofServer s).Follows threshold (serverEvents id log) :=
    chronicle.law Registry.lasting_serverHealth
      (lawful_serverHealth positive word constant noChecks) id _
      (Registry.serverHealth_of_get? found)
  have hoffline : s.status = .offline ↔ _ := h.offline
  have hhealthy : s.status = .healthy ↔ _ := h.healthy
  refine ⟨h.registered, h.failures, hoffline, hhealthy, ?_⟩
  rw [← hoffline, ne_eq, ← hhealthy]
  cases s.status <;> simp

end Law

namespace WatchedRun

/-- Two failures in a row make a server offline. -/
def settings : MonitorConfig := { MonitorConfig.default with offlineThreshold := 2 }

/-- Others register the sample server and do nothing else. -/
def rules : Rules Rat where
  settings c := c = settings
  ids _ _ := True
  others call := call = .addServer SampleRun.config

def answers : Answers Rat := fun _ op =>
  match op with
  | .info => .answered ⟨1, 1, 4, 0, none⟩
  | _ => .timedOut

/-- The server is registered. -/
def added : Fleet Rat Unit :=
  .over ((Ledger.perform ⟨.empty, some .empty⟩
    ((Deed.other (.addServer SampleRun.config)).call.change ·)).2)

/-- It answers. -/
def watched : Fleet Rat Unit :=
  (Monitor.settleServers settings 0 ["a"] [("a", .ok ⟨1, 1, 4, 0, none⟩)] added).2

def reopened : Fleet Rat Unit := .over watched.ledger.reopened

/-- After the restart it misses the deadlines of two rounds. -/
def missed : Fleet Rat Unit :=
  (Monitor.settleServers settings 0 ["a"] []
    (Monitor.settleServers settings 0 ["a"] [] reopened).2).2

theorem answered_inRange (id : String) (o : DaemonObservation)
    (h : Monitor.serverFinding settings id (some answers) = .ok o) : o.InRange := by
  cases h
  constructor <;> decide

theorem unfinished_inRange (id : String) (o : DaemonObservation)
    (h : Monitor.serverFinding (κ := Rat) settings id none = .ok o) : o.InRange := by
  cases h

/-- The run as a chronicle, with what happened to the server. -/
theorem chronicle : ∃ log, Chronicle rules (.running missed.ledger []) log ∧
    serverEvents "a" log = [.restarted, .registered, .checked true, .restarted, .checked false,
      .checked false] := by
  have hopened : Chronicle rules (.running (⟨.empty, some .empty⟩ : Ledger Rat) [])
      ([] ++ [.restarted]) := .opened .created Ledger.ofStore_empty
  have hpermitted : (Deed.other (.addServer SampleRun.config)).Permitted rules
      (.empty : Registry Rat) [] := ⟨rfl, SampleRun.config_inRange⟩
  have hadded := hopened.performed hpermitted trivial
  obtain ⟨log₁, hwatched, hevents₁⟩ := Chronicle.settleServers (f := added) (c := settings) hadded
    rfl (show 0 < word64 by decide) (fun _ => some answers) answered_inRange ["a"]
    [("a", .ok ⟨1, 1, 4, 0, none⟩)] (List.forall_mem_singleton.2 rfl)
  have hreopened := hwatched.again (by decide +kernel)
  obtain ⟨log₂, hmissed, hevents₂⟩ := Chronicle.settleServers (f := reopened) (c := settings)
    hreopened rfl (show 0 < word64 by decide) (fun _ => none) unfinished_inRange ["a"] []
    (List.forall_mem_singleton.2 rfl)
  obtain ⟨log₃, hagain, hevents₃⟩ := Chronicle.settleServers (c := settings)
    hmissed rfl (show 0 < word64 by decide) (fun _ => none) unfinished_inRange ["a"] []
    (List.forall_mem_singleton.2 rfl)
  refine ⟨log₃, hagain, ?_⟩
  rw [hevents₃, hevents₂, serverEvents_concat, hevents₁]
  decide +kernel

end WatchedRun

/-- A server that answered before a restart, and missed two deadlines after it. -/
theorem status_of_missed_deadlines : ∃ (ledger : Ledger Rat) (log : List (Happening Rat))
    (s : Server Rat), Chronicle WatchedRun.rules (.running ledger []) log ∧
    serverEvents "a" log = [.restarted, .registered, .checked true, .restarted, .checked false,
      .checked false] ∧
    ledger.registry.servers.get? "a" = some s ∧ s.consecutiveFailures = 2 ∧
    s.status = .offline := by
  obtain ⟨log, hchronicle, hevents⟩ := WatchedRun.chronicle
  obtain ⟨s, hs⟩ : ∃ s, WatchedRun.missed.ledger.registry.servers.get? "a" = some s :=
    Option.isSome_iff_exists.1 (by decide +kernel)
  have hconstant : ∀ c, WatchedRun.rules.settings c → c.offlineThreshold = 2 := by
    rintro c rfl
    rfl
  obtain ⟨-, hfailures, hoffline, -, -⟩ := Chronicle.status_of_events (by decide) (by decide)
    hconstant (fun id check => nofun) hchronicle hs
  rw [hevents] at hfailures hoffline
  exact ⟨_, log, s, hchronicle, hevents, hs, hfailures.trans (by decide), hoffline.2 (by decide)⟩

end WorkspaceFleet
