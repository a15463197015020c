import WorkspaceFleet.Proofs.Interleaving
import WorkspaceFleet.Proofs.Reserving
import WorkspaceFleet.Proofs.Settling
import WorkspaceFleet.Proofs.Vouching

/-!
# WorkspaceFleet.Proofs.Telling

What the monitor tells is what it does.

A listener keeps a `Picture`: the status of every server, and which workspaces are recorded and
whether each is healthy. `Picture.Tells` holds of a list of events that takes one picture to
another, where every event is news: it tells a change, and from what is so by then. Every operation
of the monitor emits such a list, which `Fleet.Told` says for one fleet and a later one, and
`Watched.events_replayed` is the statement about any number of rounds.
-/

namespace WorkspaceFleet

variable {κ χ : Type}

/-! ## What the monitor's operations come to -/

theorem Fleet.registry_emit (f : Fleet κ χ) (e : HealthEvent) : (f.emit e).registry = f.registry :=
  rfl

namespace Monitor

variable [Quantity κ] {f : Fleet κ χ} {id : String}

theorem updateHealth_of_none (change : Workspace κ → Workspace κ)
    (missing : f.registry.workspaces.get? id = none) : updateHealth f id change = (true, f) := by
  have hsame : f.registry.updateWorkspace id change = f.registry.unchanged (.ok none) := by
    rw [Registry.updateWorkspace, missing]
  rw [updateHealth, Fleet.perform_of_unchanged hsame]

theorem updateHealth_of_get? (change : Workspace κ → Workspace κ) {w : Workspace κ}
    (found : f.registry.workspaces.get? id = some w) :
    updateHealth f id change =
      let f' := (f.perform (·.updateWorkspace id change)).2
      ((change w).healthy,
        if (change w).healthy = w.healthy then f'
        else f'.emit (.workspaceHealthChanged id (change w).serverId (change w).healthy
          (change w).lastError)) := by
  rw [updateHealth, Fleet.perform_eq]
  simp only [Registry.updateWorkspace, found, Registry.changed, Option.map_some,
    Option.some.injEq]
  split <;> rfl

theorem removeGone_of_none (state : String) (missing : f.registry.workspaces.get? id = none) :
    removeGone f id state = (false, f) := by
  rw [removeGone, Fleet.perform_of_unchanged (Registry.removeWorkspace_of_none missing)]

theorem removeGone_of_get? (state : String) {w : Workspace κ}
    (found : f.registry.workspaces.get? id = some w) :
    removeGone f id state =
      (true, (f.perform (·.removeWorkspace id)).2.emit (.workspaceGone id w.serverId state)) := by
  rw [removeGone, Fleet.perform_eq, Registry.removeWorkspace_result_of_some found]

theorem reconcile_of_ok {corrections : List UsageCorrection}
    (result : f.registry.reconcile.result = .ok corrections) :
    reconcile f = (corrections.length, corrections.foldl (fun f c =>
      f.emit (.usageCorrected c.serverId c.previousWorkspaceCount c.correctedWorkspaceCount))
        (f.perform (·.reconcile)).2) := by
  rw [reconcile, Fleet.perform_eq, result]

theorem registry_reconcile (f : Fleet κ χ) :
    (reconcile f).2.registry = f.registry.reconcile.registry :=
  congrArg Ledger.registry (ledger_reconcile f)

end Monitor

/-! ## Pictures -/

/-- The container that an event is about. -/
def HealthEvent.container? : HealthEvent → Option String
  | .workspaceGone container _ _ => some container
  | .workspaceHealthChanged container _ _ _ => some container
  | _ => none

/-- What a listener keeps of a fleet. -/
structure Picture where
  statuses : Table ServerStatus
  /-- The recorded containers, and whether each is healthy. -/
  healthy : Table Bool

def Registry.picture (r : Registry κ) : Picture where
  statuses := r.servers.map fun _ s => s.status
  healthy := r.workspaces.map fun _ w => w.healthy

namespace Picture

/-- The picture after an event was heard. -/
def hear (v : Picture) : HealthEvent → Picture
  | .serverStatusChanged id _ current _ => { v with statuses := v.statuses.insert id current }
  | .workspaceGone container _ _ => { v with healthy := v.healthy.erase container }
  | .workspaceHealthChanged container _ healthy _ =>
    { v with healthy := v.healthy.insert container healthy }
  | .usageCorrected _ _ _ => v

/-- An event tells of a change, and from what the picture shows. -/
def News (v : Picture) : HealthEvent → Prop
  | .serverStatusChanged id previous current _ =>
    v.statuses.get? id = some previous ∧ previous ≠ current
  | .workspaceGone container _ _ => v.healthy.contains container = true
  | .workspaceHealthChanged container _ healthy _ => v.healthy.get? container = some (!healthy)
  | .usageCorrected _ _ _ => True

/-- One event after the other is news, and they lead from one picture to another. -/
inductive Tells : Picture → List HealthEvent → Picture → Prop where
  | nothing {v : Picture} : Tells v [] v
  | news {v v' : Picture} {e : HealthEvent} {rest : List HealthEvent} (news : v.News e)
      (further : Tells (v.hear e) rest v') : Tells v (e :: rest) v'

namespace Tells

variable {u v v' : Picture} {es es' before after : List HealthEvent} {e : HealthEvent}
  {container : String}

theorem one (news : v.News e) : Tells v [e] (v.hear e) := .news news .nothing

theorem append (h : Tells u es v) (h' : Tells v es' v') : Tells u (es ++ es') v' := by
  induction h with
  | nothing => exact h'
  | news hnews _ ih => exact .news hnews (ih h')

/-- To hear the events in their order is to get the later picture. -/
theorem foldl_hear (h : Tells v es v') : es.foldl hear v = v' := by
  induction h with
  | nothing => rfl
  | news _ _ ih => exact ih

theorem split (h : Tells v (before ++ e :: after) v') :
    (before.foldl hear v).News e ∧ Tells ((before.foldl hear v).hear e) after v' := by
  induction before generalizing v with
  | nil =>
    cases h with
    | news hnews hafter => exact ⟨hnews, hafter⟩
  | cons e' rest ih =>
    cases h with
    | news _ hrest => exact ih hrest

/-- No event brings a container back. -/
theorem unknown (news : v.News e) (h : v.healthy.contains container = false) :
    e.container? ≠ some container ∧ (v.hear e).healthy.contains container = false := by
  have differs : ∀ other, v.healthy.contains other = true → other ≠ container := by
    rintro other hother rfl
    rw [h] at hother
    cases hother
  cases e with
  | serverStatusChanged id previous current lastError => exact ⟨nofun, h⟩
  | usageCorrected id previous corrected => exact ⟨nofun, h⟩
  | workspaceGone other id state =>
    have hne := differs other news
    refine ⟨fun heq => hne (Option.some.inj heq), ?_⟩
    simp only [hear, Table.contains_erase, h, Bool.and_false]
  | workspaceHealthChanged other id healthy lastError =>
    have hne := differs other (Table.contains_of_get? news)
    refine ⟨fun heq => hne (Option.some.inj heq), ?_⟩
    simp only [hear, Table.contains_insert, h, beq_false_of_ne hne, Bool.or_false]

/-- Of a container that is not in the picture nothing is heard. -/
theorem not_named (h : Tells v es v') (missing : v.healthy.contains container = false) :
    ∀ e ∈ es, e.container? ≠ some container := by
  induction h with
  | nothing => nofun
  | news hnews _ ih =>
    obtain ⟨hother, hmissing⟩ := unknown hnews missing
    intro e he
    rcases List.mem_cons.1 he with rfl | hrest
    · exact hother
    · exact ih hmissing e hrest

/-- What tells of nothing but corrected counters leads nowhere. -/
theorem corrections {α : Type} (id : α → String) (previous corrected : α → Nat) (l : List α) :
    Tells v (l.map fun c => .usageCorrected (id c) (previous c) (corrected c)) v := by
  induction l with
  | nil => exact .nothing
  | cons c rest ih => exact .news trivial ih

end Tells
end Picture

/-! ## What one operation tells -/

/-- A fleet and a later one, where all that changed meanwhile was told. -/
structure Fleet.Told (f f' : Fleet κ χ) : Prop where
  filed : f'.registry.servers.Keyed Server.serverId
  events : ∃ emitted, f'.events = f.events ++ emitted ∧
    Picture.Tells f.registry.picture emitted f'.registry.picture

namespace Fleet.Told

theorem refl {f : Fleet κ χ} (filed : f.registry.servers.Keyed Server.serverId) : Told f f :=
  ⟨filed, [], (List.append_nil _).symm, .nothing⟩

theorem trans {f g h : Fleet κ χ} (fg : Told f g) (gh : Told g h) : Told f h := by
  obtain ⟨first, hfirst, tells⟩ := fg.events
  obtain ⟨second, hsecond, tells'⟩ := gh.events
  refine ⟨gh.filed, first ++ second, ?_, tells.append tells'⟩
  rw [hsecond, hfirst, List.append_assoc]

/-- A fold all of whose steps are told. -/
theorem foldl {σ ι : Type} {step : σ × Fleet κ χ → ι → σ × Fleet κ χ} (l : List ι)
    (told : ∀ acc i, acc.2.registry.servers.Keyed Server.serverId → Told acc.2 (step acc i).2)
    (acc : σ × Fleet κ χ) (filed : acc.2.registry.servers.Keyed Server.serverId) :
    Told acc.2 (l.foldl step acc).2 := by
  induction l generalizing acc with
  | nil => exact refl filed
  | cons i rest ih =>
    have hstep := told acc i filed
    exact hstep.trans (ih (step acc i) hstep.filed)

end Fleet.Told

namespace Registry

/-- Records of one standing show the same statuses. -/
theorem statuses_eq {t t' : Table (Server κ)} (same : t.Matches Server.SameStanding t') :
    (t'.map fun _ s => s.status) = t.map fun _ s => s.status := by
  refine Table.ext_get? fun id => ?_
  rw [Table.get?_map, Table.get?_map]
  rcases same id with ⟨ht, ht'⟩ | ⟨s, s', hs, hs', hstanding⟩
  · rw [ht, ht']
  · rw [hs, hs', Option.map_some, Option.map_some, hstanding.status]

theorem keyed_of_standing {t t' : Table (Server κ)} (same : t.Matches Server.SameStanding t')
    (filed : t.Keyed Server.serverId) : t'.Keyed Server.serverId := by
  intro id s' hs'
  obtain ⟨s, hs, hstanding⟩ := same.some_right hs'
  rw [hstanding.serverId, filed id s hs]

end Registry

namespace Monitor

variable [Quantity κ] {f : Fleet κ χ}

/-- A finding about a server is told if it changes the status. -/
theorem told_applyServer (c : MonitorConfig) (now : Nat) (id : String) (finding : ServerFinding)
    (filed : f.registry.servers.Keyed Server.serverId) :
    f.Told (applyServer c now f id finding).2 := by
  cases hs : f.registry.servers.get? id with
  | none =>
    rw [applyServer_of_none c now finding hs]
    exact .refl filed
  | some s =>
    rw [applyServer_of_get? c now finding hs]
    dsimp only
    have hregistry : (f.perform (·.recordServerCheck id (serverCheck c now s finding))).2.registry =
        { f.registry with
          servers := f.registry.servers.insert id
            (Registry.checked s (serverCheck c now s finding)) } := by
      rw [Fleet.registry_perform, Registry.recordServerCheck, hs]
      rfl
    have hpicture :
        (f.perform (·.recordServerCheck id (serverCheck c now s finding))).2.registry.picture =
          { f.registry.picture with
            statuses := f.registry.picture.statuses.insert id
              (serverCheck c now s finding).status } := by
      rw [hregistry, Registry.picture, Table.map_insert]
      rfl
    have hstatus : f.registry.picture.statuses.get? id = some s.status := by
      rw [Registry.picture, Table.get?_map, hs, Option.map_some]
    have hfiled : (f.perform (·.recordServerCheck id
        (serverCheck c now s finding))).2.registry.servers.Keyed Server.serverId := by
      rw [hregistry]
      exact filed.replace hs rfl
    split
    · next same =>
      refine ⟨hfiled, [], (List.append_nil _).symm, ?_⟩
      rw [hpicture, ← same, Table.insert_of_get? hstatus]
      exact .nothing
    · next differs =>
      refine ⟨hfiled, [_], rfl, ?_⟩
      rw [Fleet.registry_emit, hpicture]
      exact .one ⟨hstatus, differs⟩

/-- A change of a record is told if it changes its health. -/
theorem told_updateHealth (id : String) (change : Workspace κ → Workspace κ)
    (filed : f.registry.servers.Keyed Server.serverId) :
    f.Told (updateHealth f id change).2 := by
  cases hw : f.registry.workspaces.get? id with
  | none =>
    rw [updateHealth_of_none change hw]
    exact .refl filed
  | some w =>
    rw [updateHealth_of_get? change hw]
    dsimp only
    have hregistry : (f.perform (·.updateWorkspace id change)).2.registry =
        { f.registry with workspaces := f.registry.workspaces.insert id (change w) } := by
      rw [Fleet.registry_perform, Registry.updateWorkspace, hw]
      rfl
    have hpicture : (f.perform (·.updateWorkspace id change)).2.registry.picture =
        { f.registry.picture with
          healthy := f.registry.picture.healthy.insert id (change w).healthy } := by
      rw [hregistry, Registry.picture, Table.map_insert]
      rfl
    have hhealthy : f.registry.picture.healthy.get? id = some w.healthy := by
      rw [Registry.picture, Table.get?_map, hw, Option.map_some]
    have hfiled : (f.perform (·.updateWorkspace id change)).2.registry.servers.Keyed
        Server.serverId := by
      rw [hregistry]
      exact filed
    split
    · next same =>
      refine ⟨hfiled, [], (List.append_nil _).symm, ?_⟩
      rw [hpicture, same, Table.insert_of_get? hhealthy]
      exact .nothing
    · next differs =>
      refine ⟨hfiled, [_], rfl, ?_⟩
      rw [Fleet.registry_emit, hpicture]
      refine .one ?_
      show f.registry.picture.healthy.get? id = some (!(change w).healthy)
      rw [hhealthy, Bool.eq_not_of_ne (Ne.symm differs)]

/-- The removal of a record is told. -/
theorem told_removeGone (id state : String) (filed : f.registry.servers.Keyed Server.serverId) :
    f.Told (removeGone f id state).2 := by
  cases hw : f.registry.workspaces.get? id with
  | none =>
    rw [removeGone_of_none state hw]
    exact .refl filed
  | some w =>
    rw [removeGone_of_get? state hw]
    have hstanding := Registry.standing_removeWorkspace f.registry id
    have hpicture : (f.perform (·.removeWorkspace id)).2.registry.picture =
        { f.registry.picture with healthy := f.registry.picture.healthy.erase id } := by
      rw [Fleet.registry_perform, Registry.picture, Registry.statuses_eq hstanding,
        Registry.workspaces_removeWorkspace, Table.map_erase]
      rfl
    refine ⟨Registry.keyed_of_standing hstanding filed, [_], rfl, ?_⟩
    rw [Fleet.registry_emit, hpicture]
    refine .one ?_
    show f.registry.picture.healthy.contains id = true
    refine Table.contains_of_get? (v := w.healthy) ?_
    rw [Registry.picture, Table.get?_map, hw, Option.map_some]

/-- Corrected counters show in no picture. -/
theorem told_reconcile (filed : f.registry.servers.Keyed Server.serverId) :
    f.Told (reconcile f).2 := by
  have hstanding := Registry.standing_reconcile filed
  have hpicture : (reconcile f).2.registry.picture = f.registry.picture := by
    rw [registry_reconcile, Registry.picture, Registry.statuses_eq hstanding]
    rfl
  refine ⟨?_, _, congrArg Fleet.events (Fleet.foldl_emit _ _ _), ?_⟩
  · rw [registry_reconcile]
    exact Registry.keyed_of_standing hstanding filed
  · rw [hpicture]
    exact .corrections _ _ _ _

/-! ## What rounds tell -/

theorem told_settleServer (c : MonitorConfig) (now : Nat) (findings : List (String × ServerFinding))
    (acc : ServerSummary × Fleet κ χ) (id : String)
    (filed : acc.2.registry.servers.Keyed Server.serverId) :
    acc.2.Told (settleServer c now findings acc id).2 :=
  told_applyServer c now id _ filed

theorem told_planWorkspace (c : MonitorConfig) (markedAt : String → Nat)
    (servers : Table (Server κ))
    (acc : (Nat × List (String × Check κ (Observation κ))) × Fleet κ χ) (w : Workspace κ)
    (filed : acc.2.registry.servers.Keyed Server.serverId) :
    acc.2.Told (planWorkspace c markedAt servers acc w).2 := by
  rw [planWorkspace]
  split
  · exact told_updateHealth w.containerId _ filed
  · exact .refl filed

theorem told_settleWorkspace (c : MonitorConfig) (now : Nat)
    (findings : List (String × Observation κ)) (acc : WorkspaceSummary × Fleet κ χ) (id : String)
    (filed : acc.2.registry.servers.Keyed Server.serverId) :
    acc.2.Told (settleWorkspace c now findings acc id).2 := by
  rw [settleWorkspace]
  split
  · exact told_removeGone id _ filed
  · exact told_updateHealth id _ filed
  · exact told_updateHealth id _ filed

theorem told_serverRound (c : MonitorConfig) (time : String → Nat)
    (findings : List (String × ServerFinding))
    (filed : f.registry.servers.Keyed Server.serverId) :
    f.Told (serverRound c time findings f).2 :=
  Fleet.Told.foldl ((planServers c f).map Prod.fst)
    (fun acc id => told_settleServer c (time id) findings acc id) (⟨0, 0, 0, 0⟩, f) filed

theorem told_workspaceRound (c : MonitorConfig) (course : Course κ)
    (filed : f.registry.servers.Keyed Server.serverId) :
    f.Told (workspaceRound c course f).2 := by
  have hplanned := Fleet.Told.foldl f.registry.listWorkspaces
    (told_planWorkspace c course.markedAt f.registry.servers) ((0, []), f) filed
  generalize hp : f.registry.listWorkspaces.foldl
    (planWorkspace c course.markedAt f.registry.servers) ((0, []), f) = p at hplanned
  have hsettled := Fleet.Told.foldl (settlingOrder (p.1.2.map (·.1)))
    (fun acc id => told_settleWorkspace c (course.settledAt id) (course.findings p.1.2) acc id)
    (⟨0, 0, p.1.1, 0, 0⟩, p.2) hplanned.filed
  rw [workspaceRound, hp]
  exact (hplanned.trans hsettled).trans (told_reconcile hsettled.filed)

end Monitor

/-- A fleet, and what any number of rounds make of it that nothing comes in between of. -/
inductive Watched [Quantity κ] (f : Fleet κ χ) : Fleet κ χ → Prop where
  | start : Watched f f
  | servers {f' : Fleet κ χ} (h : Watched f f') (c : MonitorConfig) (time : String → Nat)
      (findings : List (String × ServerFinding)) :
      Watched f (Monitor.serverRound c time findings f').2
  | workspaces {f' : Fleet κ χ} (h : Watched f f') (c : MonitorConfig)
      (course : Monitor.Course κ) : Watched f (Monitor.workspaceRound c course f').2

namespace Watched

variable [Quantity κ] {f f' : Fleet κ χ}

theorem told (h : Watched f f') (filed : f.registry.servers.Keyed Server.serverId) :
    f.Told f' := by
  induction h with
  | start => exact .refl filed
  | servers _ c time findings ih =>
    exact ih.trans (Monitor.told_serverRound c time findings ih.filed)
  | workspaces _ c course ih => exact ih.trans (Monitor.told_workspaceRound c course ih.filed)

/-- **Who hears every event knows the fleet.** What rounds emit, heard in order, takes the picture
of the fleet before them to the one after them. Every event tells a change from what is so by then,
and after a container was said to be gone no event is about it.

Servers stand under their own ids in every registry that the program comes to (`Booked.keyed`). -/
theorem events_replayed (h : Watched f f') (filed : f.registry.servers.Keyed Server.serverId) :
    ∃ emitted, f'.events = f.events ++ emitted ∧
      emitted.foldl Picture.hear f.registry.picture = f'.registry.picture ∧
      ∀ before e after, emitted = before ++ e :: after →
        (before.foldl Picture.hear f.registry.picture).News e ∧
        ∀ container id state, e = .workspaceGone container id state →
          ∀ later ∈ after, later.container? ≠ some container := by
  obtain ⟨emitted, hevents, tells⟩ := (h.told filed).events
  refine ⟨emitted, hevents, tells.foldl_hear, ?_⟩
  rintro before e after rfl
  obtain ⟨news, hafter⟩ := tells.split
  refine ⟨news, ?_⟩
  rintro container id state rfl
  refine hafter.not_named ?_
  show ((Picture.healthy _).erase container).contains container = false
  rw [Table.contains_erase, bne_self_eq_false, Bool.false_and]

end Watched

namespace ToldRun

/-- One server and one workspace on it, neither of them found well yet. -/
def before : Fleet Rat Unit := sampleFleet SampleRun.calls

def answered (f : Fleet Rat Unit) : Fleet Rat Unit :=
  (Monitor.serverRound .default (fun _ => 0) [("a", .ok ⟨1, 1, 4, 100, none⟩)] f).2

def checked (finding : Observation Rat) (f : Fleet Rat Unit) : Fleet Rat Unit :=
  (Monitor.workspaceRound .default ⟨fun _ => 0, fun _ => 0, fun _ => [("c", finding)]⟩ f).2

/-- The daemon answers, the workspace is found well, and then it is found gone. -/
def after : Fleet Rat Unit :=
  checked (.gone "exited") (checked (.running ⟨true, 0, 0, "running"⟩ .healthy none)
    (answered before))

theorem watched : Watched before after :=
  .workspaces (.workspaces (.servers .start _ _ _) _ _) _ _

end ToldRun

/-- A server becomes healthy, a workspace on it becomes healthy, and then its container is gone. -/
theorem events_replayed_gone : ∃ emitted : List HealthEvent,
    ToldRun.after.events = ToldRun.before.events ++ emitted ∧
    emitted = [.serverStatusChanged "a" .unhealthy .healthy none,
      .workspaceHealthChanged "c" "a" true none, .workspaceGone "c" "a" "exited"] ∧
    emitted.foldl Picture.hear ToldRun.before.registry.picture =
      ToldRun.after.registry.picture := by
  have hfiled : ToldRun.before.registry.servers.Keyed Server.serverId :=
    SampleRun.unstored_reached.ledger_sound.registry.booked.keyed
  obtain ⟨emitted, hevents, hheard, -⟩ := ToldRun.watched.events_replayed hfiled
  refine ⟨emitted, hevents, ?_, hheard⟩
  rw [show ToldRun.before.events = [] from rfl, List.nil_append] at hevents
  rw [← hevents]
  decide +kernel

end WorkspaceFleet
