import WorkspaceFleet.Proofs.Interleaving
import WorkspaceFleet.Proofs.Telling

/-!
# WorkspaceFleet.Proofs.Steady

Work that takes no servers in or out.

Rounds of the monitor, placements and destructions leave the servers that are registered and their
clients as they are, and whoever has a hold calls the daemon of the hold's server and no other. A
task of which all this holds, whatever it finds, is `Steady`. There is one rule for each way of
putting activities together, whatever is begun is steady by these rules (`Job.steady`), and a step
of a steady task changes no client and leaves steady tasks (`Task.Step.steady`).
-/

namespace WorkspaceFleet

variable {κ χ α β σ ι : Type} [Quantity κ]

/-! ## Clients -/

namespace Monitor

theorem pool_updateHealth (f : Fleet κ χ) (id : String) (change : Workspace κ → Workspace κ) :
    (updateHealth f id change).2.pool = f.pool := by
  cases found : f.registry.workspaces.get? id with
  | none => rw [updateHealth_of_none change found]
  | some w =>
    rw [updateHealth_of_get? change found]
    dsimp only
    split <;> rfl

theorem pool_removeGone (f : Fleet κ χ) (id state : String) :
    (removeGone f id state).2.pool = f.pool := by
  cases found : f.registry.workspaces.get? id with
  | none => rw [removeGone_of_none state found]
  | some w =>
    rw [removeGone_of_get? state found]
    rfl

theorem pool_reconcile (f : Fleet κ χ) : (reconcile f).2.pool = f.pool := by
  rw [reconcile_of_ok rfl, Fleet.foldl_emit]
  rfl

theorem pool_planWorkspace (c : MonitorConfig) (markedAt : String → Nat)
    (servers : Table (Server κ))
    (acc : (Nat × List (String × Check κ (Observation κ))) × Fleet κ χ) (w : Workspace κ) :
    (planWorkspace c markedAt servers acc w).2.pool = acc.2.pool := by
  rw [planWorkspace]
  split
  · exact pool_updateHealth _ _ _
  · rfl

theorem pool_settleWorkspace (c : MonitorConfig) (now : Nat)
    (findings : List (String × Observation κ)) (acc : WorkspaceSummary × Fleet κ χ) (id : String) :
    (settleWorkspace c now findings acc id).2.pool = acc.2.pool := by
  rw [settleWorkspace]
  split
  · exact pool_removeGone _ _ _
  · exact pool_updateHealth _ _ _
  · exact pool_updateHealth _ _ _

end Monitor

namespace Orchestrator

theorem pool_rollback (hold : Reservation κ) (f : Fleet κ χ) :
    (rollback .none hold f).2.pool = f.pool := by
  rw [rollback_eq]
  rfl

theorem pool_commitHold (hold : Reservation κ) (containerId : String) (now : Nat)
    (f : Fleet κ χ) : (commitHold .none hold containerId now f).2.pool = f.pool := by
  simp only [commitHold, Refusals.none, Fleet.attempt_none]
  cases (f.registry.commit hold containerId now).result with
  | ok w => rfl
  | error e => exact pool_rollback hold _

end Orchestrator

/-! ## Steady activities -/

/-- No step touches a client or takes servers in or out, and every call is to the daemon on whose
server the holds are. -/
def Activity.Calls.Steady :
    {own : List (Reservation κ)} → {a : Activity κ χ α} → a.Calls own → Prop
  | _, _, .done => True
  | _, _, @Calls.atomic _ _ _ _ _ write _ calls _ _ rest =>
    (∀ f, (write f).pool = f.pool) ∧ (∀ f, ∀ call ∈ calls f, call.LeavesServers) ∧
      ∀ f, (rest f).Steady
  | own, _, @Calls.call _ _ _ _ _ id _ abandon _ calls _ rest =>
    (∀ hold ∈ own, hold.serverId = id) ∧
      (∀ f, (abandon f).pool = f.pool) ∧ (∀ f, ∀ call ∈ calls f, call.LeavesServers) ∧
      ∀ answer, (rest answer).Steady

namespace Activity.Calls

variable {own : List (Reservation κ)}

theorem Steady.map (g : α → β) {a : Activity κ χ α} {calls : a.Calls own} (h : calls.Steady) :
    (calls.map g).Steady := by
  induction calls with
  | done => trivial
  | atomic calls kept makes rest ih => exact ⟨h.1, h.2.1, fun f => ih f (h.2.2 f)⟩
  | call calls makes rest ih =>
    exact ⟨h.1, h.2.1, h.2.2.1, fun answer => ih answer (h.2.2.2 answer)⟩

theorem Steady.perform {step : Fleet κ χ → β × Fleet κ χ} {next : β → Activity κ χ α}
    {calls : Fleet κ χ → List (Registry.Call κ)} {kept : β → List (Reservation κ)}
    {makes : Fleet.Makes own (fun f => (step f).2) calls fun f => kept (step f).1}
    {rest : ∀ b, (next b).Calls (kept b)} (pool : ∀ f, (step f).2.pool = f.pool)
    (leaves : ∀ f, ∀ call ∈ calls f, call.LeavesServers) (further : ∀ b, (rest b).Steady) :
    (Calls.perform kept makes rest).Steady :=
  ⟨pool, leaves, fun f => further (step f).1⟩

theorem Steady.look {see : Fleet κ χ → β} {next : β → Activity κ χ α}
    {rest : ∀ b, (next b).Calls own} (further : ∀ b, (rest b).Steady) :
    (Calls.look rest : (Activity.perform (fun f => (see f, f)) next).Calls own).Steady :=
  .perform (fun _ => rfl) nofun further

theorem Steady.through {step : σ × Fleet κ χ → ι → σ × Fleet κ χ} {next : σ → Activity κ χ α}
    {calls : ι → Fleet κ χ → List (Registry.Call κ)}
    {makes : ∀ s i, Fleet.Makes own (fun f => (step (s, f) i).2) (calls i) fun _ => own}
    {rest : ∀ s, (next s).Calls own} (pool : ∀ acc i, (step acc i).2.pool = acc.2.pool)
    (leaves : ∀ i f, ∀ call ∈ calls i f, call.LeavesServers) (further : ∀ s, (rest s).Steady)
    (l : List ι) (s : σ) : (Calls.through calls makes rest l s).Steady := by
  induction l generalizing s with
  | nil => exact further s
  | cons i l ih => exact .perform (fun f => pool (s, f) i) (leaves i) ih

end Activity.Calls

/-! ## Whatever is begun -/

open Activity.Calls

namespace Monitor

omit [Quantity κ] in
theorem leaves_callOf (c : MonitorConfig) (now : Nat) (id : String) (finding : Observation κ) :
    (callOf c now id finding).LeavesServers := by
  cases finding <;> trivial

omit [Quantity κ] in
theorem leaves_planCalls (markedAt : String → Nat) (servers : Table (Server κ)) (w : Workspace κ) :
    ∀ call ∈ planCalls markedAt servers w, call.LeavesServers := by
  rw [planCalls]
  split
  · exact List.forall_mem_singleton.2 trivial
  · exact List.forall_mem_nil _

theorem steady_concludingCalls (c : MonitorConfig) {course : Course κ} (range : course.InRange)
    (planned : Nat × List (String × Check κ (Observation κ))) :
    (concludingCalls (χ := χ) c range planned).Steady := by
  unfold concludingCalls
  refine .through ?_ ?_ ?_ _ _
  · exact fun acc id => pool_settleWorkspace c _ _ acc id
  · exact fun id _ => List.forall_mem_singleton.2 (leaves_callOf c _ id _)
  · exact fun _ => .perform pool_reconcile (fun _ => List.forall_mem_singleton.2 trivial)
      fun _ => trivial

theorem steady_roundCalls (c : MonitorConfig) {course : Course κ} (range : course.InRange) :
    (roundCalls (χ := χ) c range).Steady := by
  unfold roundCalls
  refine .look fun servers => .look fun ws => .through ?_ ?_ ?_ _ _
  · exact fun acc w => pool_planWorkspace c _ servers acc w
  · exact fun w _ => leaves_planCalls _ servers w
  · exact steady_concludingCalls c range

end Monitor

namespace Orchestrator

variable {hold : Reservation κ}

theorem leaves_commitCalls (hold : Reservation κ) (containerId : String) (now : Nat)
    (f : Fleet κ χ) : ∀ call ∈ commitCalls hold containerId now f, call.LeavesServers := by
  rw [commitCalls]
  split
  · exact List.forall_mem_singleton.2 trivial
  · exact List.forall_mem_cons.2 ⟨trivial, List.forall_mem_singleton.2 trivial⟩

theorem steady_failWithCalls (cause : OrchestratorError) :
    (failWithCalls cause : (failWith (χ := χ) .none hold cause).Calls [hold]).Steady := by
  refine .perform (pool_rollback hold) (fun _ => List.forall_mem_singleton.2 trivial) ?_
  rintro (e | ⟨⟩) <;> trivial

/-- A call under a hold is to the daemon of its server, and where it is abandoned the hold is let
go. -/
theorem steady_under (hold : Reservation κ) {op : Operation κ}
    {next : Except BackendError op.Answer → Activity κ χ α}
    {rest : ∀ answer, (next answer).Calls [hold]} (further : ∀ answer, (rest answer).Steady) :
    (.call (fun _ => [.release hold]) (makes_rollback hold) rest :
      Activity.Calls [hold] (.call hold.serverId op (letGo .none hold) next)).Steady :=
  ⟨List.forall_mem_singleton.2 rfl, pool_rollback hold,
    fun _ => List.forall_mem_singleton.2 trivial, further⟩

theorem steady_launchCalls (hold : Reservation κ) (spec : ContainerSpec κ) {now : Nat}
    (time : now < word64) : (launchCalls (χ := χ) hold spec time).Steady := by
  refine steady_under hold ?_
  rintro (e | container)
  · exact steady_failWithCalls _
  refine steady_under hold ?_
  rintro (e | ⟨⟩)
  · exact steady_under hold fun _ => steady_failWithCalls _
  refine .perform (pool_commitHold hold container now) (leaves_commitCalls hold container now) ?_
  rintro (e | w)
  · exact ⟨List.forall_mem_singleton.2 rfl, fun _ => rfl, nofun, fun _ => trivial⟩
  · trivial

theorem steady_placeCalls {req : Requirements κ} (needs : req.allocation.InRange)
    (strategy : Strategy) (spec : ContainerSpec κ) {now : Nat} (time : now < word64) :
    (placeCalls (χ := χ) needs strategy spec time).Steady := by
  refine .perform (fun _ => rfl) (fun _ => List.forall_mem_singleton.2 trivial) ?_
  rintro (e | hold)
  · trivial
  · exact (steady_launchCalls hold spec time).map _

theorem steady_createCalls (serverId : String) {req : Requirements κ}
    (needs : req.allocation.InRange) (spec : ContainerSpec κ) {now : Nat} (time : now < word64) :
    (createCalls (χ := χ) serverId needs spec time).Steady := by
  refine .perform (fun _ => rfl) (fun _ => List.forall_mem_singleton.2 trivial) ?_
  rintro (e | hold)
  · trivial
  · exact steady_launchCalls hold spec time

theorem steady_destroyCalls (containerId : String) :
    (destroyCalls (κ := κ) (χ := χ) containerId).Steady := by
  refine .look ?_
  rintro (- | w)
  · trivial
  refine ⟨nofun, fun _ => rfl, nofun, ?_⟩
  rintro (e | ⟨⟩)
  · trivial
  refine ⟨nofun, fun _ => rfl, nofun, ?_⟩
  rintro (e | ⟨⟩)
  · trivial
  refine .perform (fun _ => rfl) (fun _ => List.forall_mem_singleton.2 trivial) ?_
  rintro (e | removed) <;> trivial

end Orchestrator

/-- A task that takes no servers in or out, whatever it finds. -/
def Task.Steady (t : Task κ χ) : Prop := t.calls.Steady

theorem Job.steady (job : Job κ) : (job.task : Task κ χ).Steady := by
  cases job with
  | round c course range => exact Monitor.steady_roundCalls c range
  | place req strategy spec now needs time =>
    exact Orchestrator.steady_placeCalls needs strategy spec time
  | create serverId req spec now needs time =>
    exact Orchestrator.steady_createCalls serverId needs spec time
  | destroy containerId => exact Orchestrator.steady_destroyCalls containerId

/-- **A step of a steady task** leaves the clients as they are, calls nothing that takes servers in
or out, and leaves steady tasks. -/
theorem Task.Step.steady {t : Task κ χ} {f f' : Fleet κ χ} {calls : List (Registry.Call κ)}
    {left : List (Task κ χ)} (step : t.Step f calls left f') (h : t.Steady) :
    f'.pool = f.pool ∧ (∀ call ∈ calls, call.LeavesServers) ∧ ∀ t' ∈ left, t'.Steady := by
  cases step with
  | atomic f =>
    obtain ⟨hpool, hleaves, hrest⟩ := h
    exact ⟨hpool f, hleaves f, List.forall_mem_singleton.2 (hrest f)⟩
  | answered f answer =>
    obtain ⟨-, -, -, hrest⟩ := h
    exact ⟨rfl, nofun, List.forall_mem_singleton.2 (hrest answer)⟩
  | abandoned f =>
    obtain ⟨-, hpool, hleaves, -⟩ := h
    exact ⟨hpool f, hleaves f, nofun⟩

end WorkspaceFleet
