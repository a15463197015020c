import WorkspaceFleet.Proofs.History
import WorkspaceFleet.Proofs.Placing

/-!
# WorkspaceFleet.Proofs.Keeping

A container that was made is recorded, or its removal was asked for.

`Activity.Goes` says how an activity can go among others, who may change the fleet before each of
its steps. A launch ends in one of four ways (`LaunchEnd`), and in one of them nobody knows of the
container any more: the launch was abandoned while the daemon was asked to start it. The hold is
given back then, and the container is left on the server. `Orchestrator.kept_unless_left_starting`
says that this is the only way to lose one.
-/

namespace WorkspaceFleet

variable {κ χ α β : Type}

/-! ## Activities among others -/

/-- A call to a daemon that was begun, and its answer, unless it was abandoned. -/
structure Begun (κ : Type) where
  serverId : String
  op : Operation κ
  answer : Option (Except BackendError op.Answer)

/-- How an activity goes among others: the fleet that it left at its last step, the calls that it
begins from here, and the fleet that it leaves. Every step finds whatever the others have made of
the fleet, and at every call the activity may be abandoned. -/
inductive Activity.Goes :
    Activity κ χ α → Fleet κ χ → List (Begun κ) → Fleet κ χ → Prop where
  | done {a : α} {f : Fleet κ χ} : Goes (.done a) f [] f
  | atomic {write : Fleet κ χ → Fleet κ χ} {next : Fleet κ χ → Activity κ χ α} {f f' : Fleet κ χ}
      {log : List (Begun κ)} (found : Fleet κ χ) (rest : Goes (next found) (write found) log f') :
      Goes (.atomic write next) f log f'
  | answered {id : String} {op : Operation κ} {abandon : Fleet κ χ → Fleet κ χ}
      {next : Except BackendError op.Answer → Activity κ χ α} {f f' : Fleet κ χ}
      {log : List (Begun κ)} (answer : Except BackendError op.Answer)
      (rest : Goes (next answer) f log f') :
      Goes (.call id op abandon next) f (⟨id, op, some answer⟩ :: log) f'
  | abandoned {id : String} {op : Operation κ} {abandon : Fleet κ χ → Fleet κ χ}
      {next : Except BackendError op.Answer → Activity κ χ α} {f : Fleet κ χ}
      (found : Fleet κ χ) :
      Goes (.call id op abandon next) f [⟨id, op, none⟩] (abandon found)

namespace Activity.Goes

variable {f f' : Fleet κ χ} {log : List (Begun κ)}

theorem perform {step : Fleet κ χ → β × Fleet κ χ} {next : β → Activity κ χ α} {b : β}
    (found : Fleet κ χ) (given : (step found).1 = b)
    (rest : (next b).Goes (step found).2 log f') : (Activity.perform step next).Goes f log f' := by
  subst given
  exact .atomic found rest

theorem of_perform {step : Fleet κ χ → β × Fleet κ χ} {next : β → Activity κ χ α}
    (run : (Activity.perform step next).Goes f log f') :
    ∃ found, (next (step found).1).Goes (step found).2 log f' := by
  cases run with
  | atomic found rest => exact ⟨found, rest⟩

theorem of_map {g : α → β} {a : Activity κ χ α} (run : (a.map g).Goes f log f') :
    a.Goes f log f' := by
  induction a generalizing f log with
  | done a =>
    cases run
    exact .done
  | atomic write next ih =>
    cases run with
    | atomic found rest => exact .atomic found (ih found rest)
  | call id op abandon next ih =>
    cases run with
    | answered answer rest => exact .answered answer (ih answer rest)
    | abandoned found => exact .abandoned found

end Activity.Goes

namespace Orchestrator

/-! ## What becomes of a container -/

/-- Every container that was made is recorded on its server, or its removal was asked for. -/
def Kept (log : List (Begun κ)) (left : Registry κ) : Prop :=
  ∀ id spec c, ⟨id, .create spec, some (.ok c)⟩ ∈ log →
    (∃ w, left.workspaces.get? c = some w ∧ w.containerId = c ∧ w.serverId = id) ∨
      ∃ answer, ⟨id, .remove c, answer⟩ ∈ log

/-- The activity was abandoned while a daemon was asked to start a container. -/
def LeftStarting (log : List (Begun κ)) : Prop := ∃ id c, ⟨id, .start c, none⟩ ∈ log

variable [Quantity κ]

/-- A container was made, nobody was asked to remove it, and the hold that it was made under was let
go. -/
def Orphaned (refused : Refusals) (log : List (Begun κ)) (left : Fleet κ χ) : Prop :=
  ∃ (hold : Reservation κ) (spec : ContainerSpec κ) (c : String) (found : Fleet κ χ),
    log = [⟨hold.serverId, .create spec, some (.ok c)⟩, ⟨hold.serverId, .start c, none⟩] ∧
      left = letGo refused hold found

/-- The ways in which a launch under a hold can end: the calls that were begun, and the fleet that
is left. -/
inductive LaunchEnd (refused : Refusals) (hold : Reservation κ) :
    List (Begun κ) → Fleet κ χ → Prop where
  | unmade {spec : ContainerSpec κ} {answer : Option (Except BackendError String)}
      {left : Fleet κ χ} (failed : ∀ c, answer ≠ some (.ok c)) :
      LaunchEnd refused hold [⟨hold.serverId, .create spec, answer⟩] left
  | leftStarting {spec : ContainerSpec κ} {c : String} (found : Fleet κ χ) :
      LaunchEnd refused hold
        [⟨hold.serverId, .create spec, some (.ok c)⟩, ⟨hold.serverId, .start c, none⟩]
        (letGo refused hold found)
  | removed {spec : ContainerSpec κ} {c : String} {started : Except BackendError Unit}
      {answer : Option (Except BackendError Unit)} {left : Fleet κ χ} :
      LaunchEnd refused hold
        [⟨hold.serverId, .create spec, some (.ok c)⟩, ⟨hold.serverId, .start c, some started⟩,
          ⟨hold.serverId, .remove c, answer⟩] left
  | recorded {spec : ContainerSpec κ} {c : String} {left : Fleet κ χ} {w : Workspace κ}
      (found : left.registry.workspaces.get? c = some w) (container : w.containerId = c)
      (server : w.serverId = hold.serverId) :
      LaunchEnd refused hold
        [⟨hold.serverId, .create spec, some (.ok c)⟩, ⟨hold.serverId, .start c, some (.ok ())⟩] left

namespace LaunchEnd

variable {refused : Refusals} {hold : Reservation κ} {log : List (Begun κ)} {left : Fleet κ χ}

/-- **Kept, unless left starting.** -/
theorem kept (h : LaunchEnd refused hold log left) (stayed : ¬ LeftStarting log) :
    Kept log left.registry := by
  intro id spec c hmade
  cases h with
  | unmade failed =>
    cases List.mem_singleton.1 hmade
    exact absurd rfl (failed c)
  | leftStarting found =>
    exact absurd ⟨_, _, List.mem_cons_of_mem _ List.mem_cons_self⟩ stayed
  | removed =>
    rcases List.mem_cons.1 hmade with hhead | hmade
    · cases hhead
      exact .inr ⟨_, List.mem_cons_of_mem _ (List.mem_cons_of_mem _ List.mem_cons_self)⟩
    · rcases List.mem_pair.1 hmade with heq | heq <;> cases heq
  | recorded found container server =>
    rcases List.mem_pair.1 hmade with heq | heq
    · cases heq
      exact .inl ⟨_, found, container, server⟩
    · cases heq

theorem orphaned (h : LaunchEnd refused hold log left) (starting : LeftStarting log) :
    Orphaned refused log left := by
  obtain ⟨id, c, hleft⟩ := starting
  cases h with
  | unmade failed => cases List.mem_singleton.1 hleft
  | leftStarting found => exact ⟨hold, _, _, found, rfl, rfl⟩
  | removed =>
    rcases List.mem_cons.1 hleft with hhead | hleft
    · cases hhead
    · rcases List.mem_pair.1 hleft with heq | heq <;> cases heq
  | recorded found container server =>
    rcases List.mem_pair.1 hleft with heq | heq <;> cases heq

end LaunchEnd

/-! ## Ways through a launch -/

section Launch

variable {refused : Refusals} {hold : Reservation κ} {f f' : Fleet κ χ} {log : List (Begun κ)}

/-- A hold that became a record is found under its container. -/
theorem record_of_commitHold {container : String} {now : Nat} {w : Workspace κ}
    (h : (commitHold refused hold container now f).1 = .ok w) :
    (commitHold refused hold container now f).2.registry.workspaces.get? container =
      some (.ofReservation hold container now) := by
  rcases f.attempt_cases refused.committing id (·.commit hold container now) with
    hdone | ⟨taken, cause, store, -, -, -, hrefused⟩
  · rw [commitHold, hdone, Fleet.perform_eq] at h ⊢
    cases hresult : (f.registry.commit hold container now).result with
    | error e =>
      rw [hresult] at h
      cases h
    | ok w' =>
      have hok : (f.registry.commit hold container now).result.isOk = true := by
        rw [hresult]
        rfl
      dsimp only
      rw [Fleet.registry_perform, Registry.workspaces_commit, if_pos hok, Table.get?_insert_self]
  · rw [commitHold, hrefused] at h
    cases h

/-- A failure asks no daemon for anything. -/
theorem failWith_goes {cause : OrchestratorError}
    (run : (failWith refused hold cause).Goes f log f') : log = [] := by
  obtain ⟨found, rest⟩ := run.of_perform
  cases hback : (rollback refused hold found).1 with
  | ok u =>
    rw [hback] at rest
    cases rest
    rfl
  | error e =>
    rw [hback] at rest
    cases rest
    rfl

/-- **Every way through a launch** among others. -/
theorem launch_goes {spec : ContainerSpec κ} {now : Nat}
    (run : (launch refused hold spec now).Goes f log f') : LaunchEnd refused hold log f' := by
  cases run with
  | abandoned found => exact .unmade nofun
  | answered created rest =>
    cases created with
    | error e =>
      obtain rfl := failWith_goes rest
      exact .unmade nofun
    | ok container =>
      cases rest with
      | abandoned found => exact .leftStarting found
      | answered started rest =>
        cases started with
        | error e =>
          cases rest with
          | abandoned found => exact .removed
          | answered removed rest =>
            obtain rfl := failWith_goes rest
            exact .removed
        | ok u =>
          obtain ⟨found, rest⟩ := rest.of_perform
          cases hcommit : (commitHold refused hold container now found).1 with
          | ok w =>
            have hrecord := record_of_commitHold hcommit
            rw [hcommit] at rest
            cases rest
            exact .recorded hrecord rfl rfl
          | error e =>
            rw [hcommit] at rest
            cases rest with
            | abandoned found => exact .removed
            | answered removed rest =>
              cases rest
              exact .removed

theorem place_goes {req : Requirements κ} {strategy : Strategy} {spec : ContainerSpec κ} {now : Nat}
    (run : (place refused req strategy spec now).Goes f log f') :
    log = [] ∨ ∃ hold, LaunchEnd refused hold log f' := by
  obtain ⟨found, rest⟩ := run.of_perform
  cases hplaced : (reservePlaced refused req strategy found).1 with
  | error e =>
    rw [hplaced] at rest
    cases rest
    exact .inl rfl
  | ok hold =>
    rw [hplaced] at rest
    exact .inr ⟨hold, launch_goes rest.of_map⟩

theorem create_goes {server : String} {req : Requirements κ} {spec : ContainerSpec κ} {now : Nat}
    (run : (create refused server req spec now).Goes f log f') :
    log = [] ∨ ∃ hold, LaunchEnd refused hold log f' := by
  obtain ⟨found, rest⟩ := run.of_perform
  cases hreserved :
      (found.attempt refused.reserving id (·.reserve server req.allocation)).1 with
  | error e =>
    rw [hreserved] at rest
    cases rest
    exact .inl rfl
  | ok hold =>
    rw [hreserved] at rest
    exact .inr ⟨hold, launch_goes rest⟩

/-- What a launch, or what was refused before one, leaves of its container. -/
theorem kept_and_orphaned (h : log = [] ∨ ∃ hold, LaunchEnd refused hold log f') :
    (¬ LeftStarting log → Kept log f'.registry) ∧ (LeftStarting log → Orphaned refused log f') := by
  rcases h with rfl | ⟨hold, hend⟩
  · exact ⟨fun _ => nofun, fun ⟨_, _, hmem⟩ => nomatch hmem⟩
  · exact ⟨hend.kept, hend.orphaned⟩

end Launch

/-- **No container is lost, unless its start is abandoned.** Whatever the daemons answer, whatever the
store refuses, whatever others do meanwhile, and wherever a placement is abandoned: every container
that it made is recorded or its removal was asked for, unless it was abandoned while the container was
started. The container is orphaned then. -/
theorem kept_unless_left_starting (refused : Refusals) (req : Requirements κ)
    (spec : ContainerSpec κ) (now : Nat) (f f' : Fleet κ χ) (log : List (Begun κ)) :
    (∀ strategy, (place refused req strategy spec now).Goes f log f' →
      (¬ LeftStarting log → Kept log f'.registry) ∧ (LeftStarting log → Orphaned refused log f')) ∧
    ∀ id, (create refused id req spec now).Goes f log f' →
      (¬ LeftStarting log → Kept log f'.registry) ∧ (LeftStarting log → Orphaned refused log f') :=
  ⟨fun _ run => kept_and_orphaned (place_goes run),
    fun _ run => kept_and_orphaned (create_goes run)⟩

/-- What a launch on the sample fleet asks for first, and gets. -/
def sampleMade : Begun Rat :=
  ⟨"a", .create ((ContainerSpec.ofImage "image").withLimits ⟨1, 40, 3⟩), some (.ok "c")⟩

/-- A container that does not start, and a creation that is abandoned while it is removed. -/
theorem kept_removal_abandoned :
    ∃ f', (create .none "a" (.ofResources 1 40 3) (.ofImage "image") 0).Goes sampleFleet
        [sampleMade, ⟨"a", .start "c", some (.error (.unavailable "a" "no such image"))⟩,
          ⟨"a", .remove "c", none⟩] f' ∧
      Kept [sampleMade, ⟨"a", .start "c", some (.error (.unavailable "a" "no such image"))⟩,
          ⟨"a", .remove "c", none⟩] f'.registry := by
  have hgiven : (sampleFleet.perform (·.reserve "a" ⟨1, 40, 3⟩)).1 = .ok ⟨2, "a", ⟨1, 40, 3⟩⟩ :=
    eq_ok_of_toOption (by decide +kernel)
  obtain ⟨f', run⟩ : ∃ f', (create .none "a" (.ofResources 1 40 3) (.ofImage "image") 0).Goes sampleFleet
      [sampleMade, ⟨"a", .start "c", some (.error (.unavailable "a" "no such image"))⟩,
        ⟨"a", .remove "c", none⟩] f' :=
    ⟨_, .perform sampleFleet hgiven (.answered _ (.answered _ (.abandoned sampleFleet)))⟩
  refine ⟨f', run, ((kept_unless_left_starting _ _ _ _ _ _ _).2 "a" run).1 ?_⟩
  rintro ⟨id, c, hmem⟩
  rcases List.mem_cons.1 hmem with hhead | hmem
  · cases hhead
  · rcases List.mem_pair.1 hmem with heq | heq <;> cases heq

/-- **A container that is lost.** It is made and its start is abandoned: the hold is given back, and
the container is neither recorded nor was anybody asked to remove it. -/
theorem lost_left_starting :
    ∃ f', (create .none "a" (.ofResources 1 40 3) (.ofImage "image") 0).Goes sampleFleet
        [sampleMade, ⟨"a", .start "c", none⟩] f' ∧
      f'.registry.pending = sampleFleet.registry.pending ∧
      ¬ Kept [sampleMade, ⟨"a", .start "c", none⟩] f'.registry := by
  have hgiven : (sampleFleet.perform (·.reserve "a" ⟨1, 40, 3⟩)).1 = .ok ⟨2, "a", ⟨1, 40, 3⟩⟩ :=
    eq_ok_of_toOption (by decide +kernel)
  refine ⟨_, .perform sampleFleet hgiven (.answered _ (.abandoned
    (sampleFleet.perform (·.reserve "a" ⟨1, 40, 3⟩)).2)), by decide +kernel, ?_⟩
  intro kept
  rcases kept "a" _ "c" List.mem_cons_self with ⟨w, hrecord, -⟩ | ⟨answer, hmem⟩
  · have hnone : (letGo .none ⟨2, "a", ⟨1, 40, 3⟩⟩ (sampleFleet.perform
        (·.reserve "a" ⟨1, 40, 3⟩)).2).registry.workspaces.get? "c" = none := by decide +kernel
    rw [hnone] at hrecord
    cases hrecord
  · rcases List.mem_pair.1 hmem with heq | heq <;> cases heq

end Orchestrator
end WorkspaceFleet
