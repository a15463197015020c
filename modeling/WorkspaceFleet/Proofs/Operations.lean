import WorkspaceFleet.Proofs.Rounds

/-!
# WorkspaceFleet.Proofs.Operations

The calls of the registry's operations that activities make.

An `Activity.Calls` says of every step of an activity which calls it makes, whatever it finds. So it
holds wherever others have changed the fleet in between. Rounds of the monitor, placements and the
destruction of workspaces have one each, on a store that takes every write.
-/

namespace WorkspaceFleet

variable {κ χ α β σ ι : Type}

/-- What is permitted to one who has some of the holds. -/
theorem Registry.Call.Permitted.mono {own issued : List (Reservation κ)} {ids : String → Prop}
    {call : Call κ} (permitted : call.Permitted own ids) (given : ∀ hold ∈ own, hold ∈ issued)
    (left : NumberLeft issued) : call.Permitted issued ids := by
  cases call with
  | reserve id a => exact ⟨permitted.1, left⟩
  | reserveWith a select lift => exact ⟨permitted.1, left⟩
  | release hold => exact given hold permitted
  | commit hold c now => exact ⟨given hold permitted.1, permitted.2⟩
  | _ => exact permitted

/-! ## The calls of a round -/

/-- The numbers of a finding fit their words. -/
def Observation.InRange : Observation κ → Prop
  | .running stats _ _ => stats.memoryUsageMb < word64
  | _ => True

namespace Monitor

structure Course.InRange (course : Course κ) : Prop where
  markedAt : ∀ id, course.markedAt id < word64
  settledAt : ∀ id, course.settledAt id < word64
  findings : ∀ checks, ∀ e ∈ course.findings checks, e.2.InRange

/-- The finding under a key, or else that its check did not finish. -/
def found (findings : List (String × Observation κ)) (id : String) : Observation κ :=
  (arrived? findings id).getD (.unreachable unfinishedText)

theorem found_cases (findings : List (String × Observation κ)) (id : String) :
    (id, found findings id) ∈ findings ∨ found findings id = .unreachable unfinishedText := by
  cases h : arrived? findings id with
  | none => exact .inr (by rw [found, h]; rfl)
  | some finding =>
    obtain ⟨before, later, hsplit, -⟩ := List.lookup_eq_some_iff.1 h
    left
    rw [found, h, ← List.mem_reverse, hsplit]
    exact List.mem_append_right _ List.mem_cons_self

/-- The call that settles a finding. -/
def callOf (c : MonitorConfig) (now : Nat) (id : String) : Observation κ → Registry.Call κ
  | .gone _ => .removeWorkspace id
  | .running stats result error => .updateWorkspace id (probed c now result error (some stats))
  | .unreachable cause => .updateWorkspace id (probed c now .failed (some cause) none)

variable {own : List (Reservation κ)} {ids : String → Prop} {now : Nat}

theorem unreached_permitted (time : now < word64) (id reason : String) :
    (Registry.Call.updateWorkspace (κ := κ) id (unreached now reason)).Permitted own ids := by
  intro w
  refine ⟨⟨rfl, rfl, rfl⟩, fun h => { h with checkedAt := ?_ }⟩
  rintro _ ⟨⟩
  exact time

theorem failures_record_lt (t : ProbeTracker) (threshold : Nat) (result : CheckResult) :
    (t.record threshold result).consecutiveFailures < word32 := by
  have hpos : 0 < word32 := by decide
  unfold ProbeTracker.record
  split
  · exact hpos
  · show min (t.consecutiveFailures + 1) (word32 - 1) < word32
    omega

theorem samePlace_probed (c : MonitorConfig) (now : Nat) (result : CheckResult)
    (error : Option String) (stats : Option (ContainerStats κ)) (w : Workspace κ) :
    w.SamePlace (probed c now result error stats w) := by
  cases stats with
  | none => exact ⟨rfl, rfl, rfl⟩
  | some s => exact ⟨rfl, rfl, rfl⟩

theorem inRange_probed {w : Workspace κ} (h : w.InRange) (time : now < word64) (c : MonitorConfig)
    (result : CheckResult) (error : Option String) {stats : Option (ContainerStats κ)}
    (range : ∀ s, stats = some s → s.memoryUsageMb < word64) :
    (probed c now result error stats w).InRange := by
  have hfailures := failures_record_lt (.ofWorkspace w) c.unresponsiveThreshold result
  have hchecked : ∀ t, some now = some t → t < word64 := by
    rintro _ ⟨⟩
    exact time
  cases stats with
  | none => exact { h with checkedAt := hchecked, failures := hfailures }
  | some s =>
    exact { h with checkedAt := hchecked, failures := hfailures, memory := range s rfl }

theorem callOf_permitted (time : now < word64) (c : MonitorConfig) (id : String)
    {finding : Observation κ} (range : finding.InRange) :
    (callOf c now id finding).Permitted own ids := by
  cases finding with
  | gone state => trivial
  | running stats result error =>
    intro w
    refine ⟨samePlace_probed _ _ _ _ _ w, fun h => inRange_probed h time c result error ?_⟩
    rintro _ ⟨⟩
    exact range
  | unreachable cause =>
    intro w
    refine ⟨samePlace_probed _ _ _ _ _ w, fun h => inRange_probed h time c .failed (some cause) ?_⟩
    rintro _ ⟨⟩

theorem Course.InRange.found {course : Course κ} (range : course.InRange)
    (checks : List (String × Check κ (Observation κ))) (id : String) :
    (Monitor.found (course.findings checks) id).InRange := by
  rcases found_cases (course.findings checks) id with hmem | hunfinished
  · exact range.findings checks _ hmem
  · rw [hunfinished]
    trivial

variable [Quantity κ]

theorem ledger_of_perform {γ : Type} {op : Registry κ → Change κ γ} {f f' : Fleet κ χ} {a : γ}
    (h : f.perform op = (a, f')) : f'.ledger = (f.ledger.perform op).2 := by
  have hledger : (f.perform op).2.ledger = f'.ledger := by rw [h]
  exact hledger.symm

theorem ledger_updateHealth (f : Fleet κ χ) (id : String) (change : Workspace κ → Workspace κ) :
    (updateHealth f id change).2.ledger =
      (f.ledger.perform ((Registry.Call.updateWorkspace id change).change ·)).2 := by
  rw [updateHealth]
  split
  · next w f' heq =>
    split
    · exact (ledger_of_perform heq).trans rfl
    · exact (ledger_of_perform heq).trans rfl
  · next heq => exact (ledger_of_perform heq).trans rfl

theorem ledger_removeGone (f : Fleet κ χ) (id state : String) :
    (removeGone f id state).2.ledger =
      (f.ledger.perform ((Registry.Call.removeWorkspace id).change ·)).2 := by
  rw [removeGone]
  split
  · next heq => exact (ledger_of_perform heq).trans rfl
  · next heq => exact (ledger_of_perform heq).trans rfl

/-- A finding is settled by one call. -/
theorem ledger_settleWorkspace (c : MonitorConfig) (now : Nat)
    (findings : List (String × Observation κ)) (s : WorkspaceSummary) (f : Fleet κ χ)
    (id : String) :
    (settleWorkspace c now findings (s, f) id).2.ledger =
      (f.ledger.perform ((callOf c now id (found findings id)).change ·)).2 := by
  rw [settleWorkspace, ← found]
  cases found findings id with
  | gone state => exact ledger_removeGone f id state
  | running stats result error => exact ledger_updateHealth f id _
  | unreachable cause => exact ledger_updateHealth f id _

theorem ledger_reconcile (f : Fleet κ χ) :
    (reconcile f).2.ledger = (f.ledger.perform (Registry.Call.reconcile.change ·)).2 := by
  rw [reconcile]
  split
  · next heq =>
    rw [Fleet.foldl_emit]
    exact (ledger_of_perform heq).trans rfl
  · next heq => exact (ledger_of_perform heq).trans rfl

end Monitor

/-! ## Activities -/

variable [Quantity κ]

/-- A hold that was given out stays so. -/
theorem Ledger.mem_after {p : Ledger κ × List (Reservation κ)} {calls : List (Registry.Call κ)}
    {hold : Reservation κ} (given : hold ∈ p.2) : hold ∈ (Ledger.after p calls).2 := by
  induction calls generalizing p with
  | nil => exact given
  | cons call rest ih => exact ih (List.mem_append_left _ given)

/-- What a step of work does that has the holds `own`: it makes `calls`, and goes on with the holds
`kept`. -/
structure Fleet.Makes (own : List (Reservation κ)) (write : Fleet κ χ → Fleet κ χ)
    (calls : Fleet κ χ → List (Registry.Call κ)) (kept : Fleet κ χ → List (Reservation κ)) :
    Prop where
  permitted : ∀ f, ∀ call ∈ calls f, call.Permitted own fun _ => True
  ledger : ∀ f, (write f).ledger = (Ledger.after (f.ledger, own) (calls f)).1
  held : ∀ f, ∀ hold ∈ kept f, hold ∈ (Ledger.after (f.ledger, own) (calls f)).2

namespace Fleet.Makes

variable {own : List (Reservation κ)} {write : Fleet κ χ → Fleet κ χ}

/-- A step that leaves the ledger as it is. -/
theorem nothing (same : ∀ f, (write f).ledger = f.ledger) :
    Makes own write (fun _ => []) fun _ => own where
  permitted _ _ hcall := nomatch hcall
  ledger := same
  held _ _ hmem := hmem

theorem one (call : Fleet κ χ → Registry.Call κ)
    (permitted : ∀ f, (call f).Permitted own fun _ => True)
    (same : ∀ f, (write f).ledger = (f.ledger.perform ((call f).change ·)).2) :
    Makes own write (fun f => [call f]) fun _ => own where
  permitted f _ hcall := by
    rw [List.mem_singleton.1 hcall]
    exact permitted f
  ledger := same
  held _ _ hmem := List.mem_append_left _ hmem

/-- A step that takes a hold. -/
theorem taking {kept : Fleet κ χ → List (Reservation κ)} (call : Fleet κ χ → Registry.Call κ)
    (permitted : ∀ f, (call f).Permitted [] fun _ => True)
    (same : ∀ f, (write f).ledger = (f.ledger.perform ((call f).change ·)).2)
    (given : ∀ f, kept f = ((call f).change f.registry).result) :
    Makes [] write (fun f => [call f]) kept where
  permitted f _ hcall := by
    rw [List.mem_singleton.1 hcall]
    exact permitted f
  ledger := same
  held f hold hmem := by
    rw [given] at hmem
    exact hmem

end Fleet.Makes

/-- The calls that an activity makes step by step, where `own` are the holds that it has. -/
inductive Activity.Calls : List (Reservation κ) → Activity κ χ α → Type 1 where
  | done {own : List (Reservation κ)} {result : α} : Calls own (.done result)
  | atomic {own : List (Reservation κ)} {write : Fleet κ χ → Fleet κ χ}
      {next : Fleet κ χ → Activity κ χ α} (calls : Fleet κ χ → List (Registry.Call κ))
      (kept : Fleet κ χ → List (Reservation κ)) (makes : Fleet.Makes own write calls kept)
      (rest : ∀ f, Calls (kept f) (next f)) : Calls own (.atomic write next)
  | call {own : List (Reservation κ)} {id : String} {op : Operation κ}
      {abandon : Fleet κ χ → Fleet κ χ} {next : Except BackendError op.Answer → Activity κ χ α}
      (calls : Fleet κ χ → List (Registry.Call κ))
      (makes : Fleet.Makes own abandon calls fun _ => own)
      (rest : ∀ answer, Calls own (next answer)) : Calls own (.call id op abandon next)

namespace Activity.Calls

variable {own : List (Reservation κ)}

def perform {step : Fleet κ χ → β × Fleet κ χ} {next : β → Activity κ χ α}
    {calls : Fleet κ χ → List (Registry.Call κ)} (kept : β → List (Reservation κ))
    (makes : Fleet.Makes own (fun f => (step f).2) calls fun f => kept (step f).1)
    (rest : ∀ b, (next b).Calls (kept b)) : (Activity.perform step next).Calls own :=
  .atomic calls (fun f => kept (step f).1) makes fun f => rest (step f).1

/-- A step that only looks at the fleet. -/
def look {see : Fleet κ χ → β} {next : β → Activity κ χ α} (rest : ∀ b, (next b).Calls own) :
    (Activity.perform (fun f => (see f, f)) next).Calls own :=
  .perform (fun _ => own) (.nothing fun _ => rfl) rest

def map (g : α → β) {own : List (Reservation κ)} {a : Activity κ χ α} :
    a.Calls own → (a.map g).Calls own
  | .done => .done
  | .atomic calls kept makes rest => .atomic calls kept makes fun f => (rest f).map g
  | .call calls makes rest => .call calls makes fun answer => (rest answer).map g

end Activity.Calls

/-- The calls of a step for every entry of a list, where a step takes and leaves no hold. -/
def Activity.Calls.through {own : List (Reservation κ)} {step : σ × Fleet κ χ → ι → σ × Fleet κ χ}
    {next : σ → Activity κ χ α} (calls : ι → Fleet κ χ → List (Registry.Call κ))
    (makes : ∀ s i, Fleet.Makes own (fun f => (step (s, f) i).2) (calls i) fun _ => own)
    (rest : ∀ s, (next s).Calls own) : ∀ l s, (Activity.through step next l s).Calls own
  | [], s => rest s
  | i :: l, s => .perform (fun _ => own) (makes s i) fun s => through calls makes rest l s

namespace Monitor

variable {course : Course κ}

/-- The calls that plan a workspace. -/
def planCalls (markedAt : String → Nat) (servers : Table (Server κ)) (w : Workspace κ) :
    List (Registry.Call κ) :=
  match skipReason? servers w with
  | some reason => [.updateWorkspace w.containerId (unreached (markedAt w.containerId) reason)]
  | none => []

theorem makes_planWorkspace (c : MonitorConfig) (range : course.InRange)
    (servers : Table (Server κ)) (s : Nat × List (String × Check κ (Observation κ)))
    (w : Workspace κ) :
    Fleet.Makes [] (fun f : Fleet κ χ => (planWorkspace c course.markedAt servers (s, f) w).2)
      (fun _ => planCalls course.markedAt servers w) fun _ => [] := by
  cases h : skipReason? servers w with
  | some reason =>
    simp only [planWorkspace, planCalls, h]
    exact .one _ (fun _ => unreached_permitted (range.markedAt _) _ _)
      fun f => ledger_updateHealth f _ _
  | none =>
    simp only [planWorkspace, planCalls, h]
    exact .nothing fun _ => rfl

def concludingCalls (c : MonitorConfig) (range : course.InRange)
    (planned : Nat × List (String × Check κ (Observation κ))) :
    (concluding (χ := χ) c course planned).Calls [] :=
  .through
    (fun id _ => [callOf c (course.settledAt id) id (found (course.findings planned.2) id)])
    (fun _ id => .one _
      (fun _ => callOf_permitted (range.settledAt id) c id (range.found planned.2 id))
      fun f => ledger_settleWorkspace c _ _ _ f id)
    (fun _ => .perform (fun _ => [])
      (.one (fun _ => .reconcile) (fun _ => trivial) ledger_reconcile) fun _ => .done)
    _ _

def roundCalls (c : MonitorConfig) (range : course.InRange) :
    (round (χ := χ) c course).Calls [] :=
  .look fun servers => .look fun _ =>
    .through (fun w _ => planCalls course.markedAt servers w) (makes_planWorkspace c range servers)
      (concludingCalls c range) _ _

end Monitor

namespace Orchestrator

variable {hold : Reservation κ}

theorem makes_rollback (hold : Reservation κ) :
    Fleet.Makes [hold] (fun f : Fleet κ χ => (rollback .none hold f).2) (fun _ => [.release hold])
      fun _ => [hold] :=
  .one _ (fun _ => List.mem_cons_self) fun f => by
    rw [rollback_eq]
    rfl

/-- The calls that make a hold a record, or let it go. -/
def commitCalls (hold : Reservation κ) (containerId : String) (now : Nat) (f : Fleet κ χ) :
    List (Registry.Call κ) :=
  match (f.registry.commit hold containerId now).result with
  | .ok _ => [.commit hold containerId now]
  | .error _ => [.commit hold containerId now, .release hold]

theorem makes_commitHold (hold : Reservation κ) (containerId : String) {now : Nat}
    (time : now < word64) :
    Fleet.Makes [hold] (fun f : Fleet κ χ => (commitHold .none hold containerId now f).2)
      (commitCalls hold containerId now) fun _ => [hold] := by
  have hcommit : (Registry.Call.commit hold containerId now).Permitted [hold] fun _ => True :=
    ⟨List.mem_cons_self, trivial, time⟩
  constructor
  · intro f call hcall
    rw [commitCalls] at hcall
    split at hcall
    · rw [List.mem_singleton.1 hcall]
      exact hcommit
    · rcases List.mem_cons.1 hcall with rfl | hlast
      · exact hcommit
      · rw [List.mem_singleton.1 hlast]
        exact List.mem_cons_self
  · intro f
    simp only [commitHold, Refusals.none, Fleet.attempt_none, commitCalls]
    cases (f.registry.commit hold containerId now).result with
    | ok w => rfl
    | error e =>
      show (letGo .none hold _).ledger = _
      rw [letGo, rollback_eq]
      rfl
  · exact fun f k hk => Ledger.mem_after hk

def failWithCalls (cause : OrchestratorError) :
    (failWith (χ := χ) .none hold cause).Calls [hold] :=
  .perform (fun _ => [hold]) (makes_rollback hold) fun
    | .ok () => .done
    | .error _ => .done

def launchCalls (hold : Reservation κ) (spec : ContainerSpec κ) {now : Nat} (time : now < word64) :
    (launch (χ := χ) .none hold spec now).Calls [hold] :=
  .call (fun _ => [.release hold]) (makes_rollback hold) fun
    | .error _ => failWithCalls _
    | .ok _ => .call (fun _ => [.release hold]) (makes_rollback hold) fun
      | .error _ => .call (fun _ => [.release hold]) (makes_rollback hold) fun _ => failWithCalls _
      | .ok _ => .perform (fun _ => [hold]) (makes_commitHold hold _ time) fun
        | .ok _ => .done
        | .error _ => .call (fun _ => []) (.nothing fun _ => rfl) fun _ => .done

def placeCalls {req : Requirements κ} (needs : req.allocation.InRange) (strategy : Strategy)
    (spec : ContainerSpec κ) {now : Nat} (time : now < word64) :
    (place (χ := χ) .none req strategy spec now).Calls [] :=
  .perform Registry.holdOf
    (.taking
      (fun f => .reserveWith req.allocation
        (fun _ => (f.placer.place req strategy f.registry.listServers).1.map Placement.serverId)
        PlacementError.registry)
      (fun _ => ⟨needs, Registry.numberLeft_nil⟩) (fun _ => rfl) fun _ => rfl) fun
    | .error _ => .done
    | .ok hold => (launchCalls hold spec time).map _

def createCalls (serverId : String) {req : Requirements κ} (needs : req.allocation.InRange)
    (spec : ContainerSpec κ) {now : Nat} (time : now < word64) :
    (create (χ := χ) .none serverId req spec now).Calls [] :=
  .perform Registry.holdOf
    (.taking (fun _ => .reserve serverId req.allocation) (fun _ => ⟨needs, Registry.numberLeft_nil⟩)
      (fun _ => rfl) fun _ => rfl) fun
    | .error _ => .done
    | .ok hold => launchCalls hold spec time

def destroyCalls (containerId : String) : (destroy (κ := κ) (χ := χ) none containerId).Calls [] :=
  .look fun
    | none => .done
    | some _ => .call (fun _ => []) (.nothing fun _ => rfl) fun
      | .error _ => .done
      | .ok _ => .call (fun _ => []) (.nothing fun _ => rfl) fun
        | .error _ => .done
        | .ok _ => .perform (fun _ => [])
            (.one (fun _ => .removeWorkspace containerId) (fun _ => trivial) fun _ => rfl) fun
            | .ok _ => .done
            | .error _ => .done

end Orchestrator
end WorkspaceFleet
