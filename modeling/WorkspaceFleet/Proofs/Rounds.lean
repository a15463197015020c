import WorkspaceFleet.Health.Monitor
import WorkspaceFleet.Proofs.Placing

/-!
# WorkspaceFleet.Proofs.Rounds

A round over the workspaces as an activity.

`Monitor.planWorkspaces` and `Monitor.settleWorkspaces` say what a round does to a fleet that it has
to itself, if the clock stands still. `Monitor.round` does the same one operation of the registry at
a time, and between any two of them anything may happen to the fleet. `round_runs` says that a round
that is alone comes to `Monitor.workspaceRound`, and `workspaceRound_at` that this is neither more
nor less than the first two.
-/

namespace WorkspaceFleet

variable {κ χ α β σ ι : Type}

namespace Activity

theorem runs_perform {step : Fleet κ χ → β × Fleet κ χ} {next : β → Activity κ χ α}
    {f f' : Fleet κ χ} {log : List (Called κ)} {r : Option α} :
    (Activity.perform step next).Runs f log r f' ↔
      (next (step f).1).Runs (step f).2 log r f' :=
  ⟨.of_perform, .perform rfl⟩

/-- Takes one step for every entry of a list, and goes on with what these come to. -/
def through (step : σ × Fleet κ χ → ι → σ × Fleet κ χ) (next : σ → Activity κ χ α) :
    List ι → σ → Activity κ χ α
  | [], s => next s
  | i :: rest, s => .perform (fun f => step (s, f) i) fun s => through step next rest s

/-- With nothing in between, the steps are a fold. -/
theorem runs_through {step : σ × Fleet κ χ → ι → σ × Fleet κ χ} {next : σ → Activity κ χ α}
    {l : List ι} {s : σ} {f f' : Fleet κ χ} {log : List (Called κ)} {r : Option α} :
    (through step next l s).Runs f log r f' ↔
      (next (l.foldl step (s, f)).1).Runs (l.foldl step (s, f)).2 log r f' := by
  induction l generalizing s f with
  | nil => exact Iff.rfl
  | cons i rest ih =>
    rw [through, runs_perform, ih]
    rfl

end Activity

namespace Monitor

/-- What a round meets on its way: the times at which it marks and settles each workspace, and what
its checks find. -/
structure Course (κ : Type) where
  markedAt : String → Nat
  settledAt : String → Nat
  findings : List (String × Check κ (Observation κ)) → List (String × Observation κ)

/-- The keys of planned checks in the order in which they are settled. -/
def settlingOrder (planned : List String) : List String :=
  (planned.mergeSort (fun a b => decide (a ≤ b))).eraseDups

variable [Quantity κ]

/-- Plans one workspace more: it is marked if its server is not asked, and gets a check if it is. -/
def planWorkspace (c : MonitorConfig) (markedAt : String → Nat) (servers : Table (Server κ))
    (acc : (Nat × List (String × Check κ (Observation κ))) × Fleet κ χ) (w : Workspace κ) :
    (Nat × List (String × Check κ (Observation κ))) × Fleet κ χ :=
  match skipReason? servers w with
  | some reason =>
    ((acc.1.1 + 1, acc.1.2),
      (updateHealth acc.2 w.containerId (unreached (markedAt w.containerId) reason)).2)
  | none =>
    ((acc.1.1, acc.1.2 ++ [(w.containerId, .workspace c w.serverId w.containerId)]), acc.2)

theorem planWorkspaces_eq (c : MonitorConfig) (now : Nat) (f : Fleet κ χ) :
    planWorkspaces c now f =
      let p := f.registry.listWorkspaces.foldl
        (planWorkspace c (fun _ => now) f.registry.servers) ((0, []), f)
      (p.1.1, p.1.2, p.2) := by
  let flat (p : (Nat × List (String × Check κ (Observation κ))) × Fleet κ χ) := (p.1.1, p.1.2, p.2)
  show f.registry.listWorkspaces.foldl _ (flat ((0, []), f)) = flat _
  refine List.foldl_hom flat fun acc w => ?_
  rw [planWorkspace]
  cases skipReason? f.registry.servers w <;> rfl

/-- Settles what the planned checks found, and reconciles the counters. -/
def concluding (c : MonitorConfig) (course : Course κ)
    (planned : Nat × List (String × Check κ (Observation κ))) : Activity κ χ WorkspaceSummary :=
  .through
    (fun acc id => settleWorkspace c (course.settledAt id) (course.findings planned.2) acc id)
    (fun s => .perform reconcile fun corrections => .done { s with corrections })
    (settlingOrder (planned.2.map (·.1))) ⟨0, 0, planned.1, 0, 0⟩

/-- A round over the workspaces, one operation of the registry at a time. -/
def round (c : MonitorConfig) (course : Course κ) : Activity κ χ WorkspaceSummary :=
  .perform (fun f => (f.registry.servers, f)) fun servers =>
    .perform (fun f => (f.registry.listWorkspaces, f)) fun ws =>
      .through (planWorkspace c course.markedAt servers) (concluding c course) ws (0, [])

/-! ## Rounds that are alone -/

/-- A round over the servers that nothing comes in between of; `time` tells when each finding is
settled. -/
def serverRound (c : MonitorConfig) (time : String → Nat) (findings : List (String × ServerFinding))
    (f : Fleet κ χ) : ServerSummary × Fleet κ χ :=
  ((planServers c f).map Prod.fst).foldl
    (fun acc id => settleServer c (time id) findings acc id) (⟨0, 0, 0, 0⟩, f)

/-- A round over the workspaces that nothing comes in between of. -/
def workspaceRound (c : MonitorConfig) (course : Course κ) (f : Fleet κ χ) :
    WorkspaceSummary × Fleet κ χ :=
  let p := f.registry.listWorkspaces.foldl
    (planWorkspace c course.markedAt f.registry.servers) ((0, []), f)
  let q := (settlingOrder (p.1.2.map (·.1))).foldl
    (fun acc id => settleWorkspace c (course.settledAt id) (course.findings p.1.2) acc id)
    (⟨0, 0, p.1.1, 0, 0⟩, p.2)
  let r := reconcile q.2
  ({ q.1 with corrections := r.1 }, r.2)

/-- Where all is settled at one time, the findings are settled as planned. -/
theorem serverRound_at (c : MonitorConfig) (now : Nat) (findings : List (String × ServerFinding))
    (f : Fleet κ χ) :
    serverRound c (fun _ => now) findings f =
      settleServers c now ((planServers c f).map Prod.fst) findings f := rfl

/-- Where all is marked at one time and settled at another, the round is the one that plans its
checks, and settles what they find. -/
theorem workspaceRound_at (c : MonitorConfig) (now later : Nat)
    (findings : List (String × Check κ (Observation κ)) → List (String × Observation κ))
    (f : Fleet κ χ) :
    workspaceRound c ⟨fun _ => now, fun _ => later, findings⟩ f =
      let p := planWorkspaces c now f
      settleWorkspaces c later p.1 (p.2.1.map (·.1)) (findings p.2.1) p.2.2 := by
  rw [planWorkspaces_eq]
  rfl

/-- **A round that is alone** takes its operations one after the other. -/
theorem round_runs {c : MonitorConfig} {course : Course κ} {f f' : Fleet κ χ}
    {log : List (Called κ)} {r : Option WorkspaceSummary} :
    (round c course).Runs f log r f' ↔
      log = [] ∧ r = some (workspaceRound c course f).1 ∧ f' = (workspaceRound c course f).2 := by
  rw [round, Activity.runs_perform, Activity.runs_perform, Activity.runs_through, concluding,
    Activity.runs_through, Activity.runs_perform]
  constructor
  · intro h
    cases h
    exact ⟨rfl, rfl, rfl⟩
  · rintro ⟨rfl, rfl, rfl⟩
    exact .done

end Monitor
end WorkspaceFleet
