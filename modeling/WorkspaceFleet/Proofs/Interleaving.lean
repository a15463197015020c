import WorkspaceFleet.Proofs.History
import WorkspaceFleet.Proofs.Operations

/-!
# WorkspaceFleet.Proofs.Interleaving

Rounds of the monitor, placements and destructions side by side on one fleet.

`Together` holds of every fleet that is reached from an empty registry while any number of tasks are
under way, on a store that takes every write, if there is one. Each takes its steps when it likes,
daemons answer what they like, and a task may be abandoned at every call. `Together.history` says
that the calls of all of them make one `History`. `Together.removed_once` is what this means for the
records: none is removed twice, none is lost, and none comes back.
-/

namespace WorkspaceFleet

variable {κ χ : Type}

/-- What is begun on a fleet. -/
inductive Job (κ : Type) where
  | round (c : MonitorConfig) (course : Monitor.Course κ) (range : course.InRange)
  | place (req : Requirements κ) (strategy : Strategy) (spec : ContainerSpec κ) (now : Nat)
      (needs : req.allocation.InRange) (time : now < word64)
  | create (serverId : String) (req : Requirements κ) (spec : ContainerSpec κ) (now : Nat)
      (needs : req.allocation.InRange) (time : now < word64)
  | destroy (containerId : String)

variable [Quantity κ]

/-- What is left of a job, with the holds that it has. -/
structure Task (κ χ : Type) [Quantity κ] : Type 1 where
  {Result : Type}
  own : List (Reservation κ)
  left : Activity κ χ Result
  calls : left.Calls own

def Job.task : Job κ → Task κ χ
  | .round c course range => ⟨[], Monitor.round c course, Monitor.roundCalls c range⟩
  | .place req strategy spec now needs time =>
    ⟨[], Orchestrator.place .none req strategy spec now,
      Orchestrator.placeCalls needs strategy spec time⟩
  | .create id req spec now needs time =>
    ⟨[], Orchestrator.create .none id req spec now, Orchestrator.createCalls id needs spec time⟩
  | .destroy c => ⟨[], Orchestrator.destroy none c, Orchestrator.destroyCalls c⟩

/-- A step of a task: what it calls, what is left of the task, and the fleet afterwards. A call to a
daemon is answered in any way, or the task is abandoned there. -/
inductive Task.Step :
    Task κ χ → Fleet κ χ → List (Registry.Call κ) → List (Task κ χ) → Fleet κ χ → Prop where
  | atomic {α : Type} {own : List (Reservation κ)} {write : Fleet κ χ → Fleet κ χ}
      {next : Fleet κ χ → Activity κ χ α} {calls : Fleet κ χ → List (Registry.Call κ)}
      {kept : Fleet κ χ → List (Reservation κ)} {makes : Fleet.Makes own write calls kept}
      {rest : ∀ f, (next f).Calls (kept f)} (f : Fleet κ χ) :
      Step ⟨own, .atomic write next, .atomic calls kept makes rest⟩ f (calls f)
        [⟨kept f, next f, rest f⟩] (write f)
  | answered {α : Type} {own : List (Reservation κ)} {id : String} {op : Operation κ}
      {abandon : Fleet κ χ → Fleet κ χ} {next : Except BackendError op.Answer → Activity κ χ α}
      {calls : Fleet κ χ → List (Registry.Call κ)}
      {makes : Fleet.Makes own abandon calls fun _ => own}
      {rest : ∀ answer, (next answer).Calls own} (f : Fleet κ χ)
      (answer : Except BackendError op.Answer) :
      Step ⟨own, .call id op abandon next, .call calls makes rest⟩ f []
        [⟨own, next answer, rest answer⟩] f
  | abandoned {α : Type} {own : List (Reservation κ)} {id : String} {op : Operation κ}
      {abandon : Fleet κ χ → Fleet κ χ} {next : Except BackendError op.Answer → Activity κ χ α}
      {calls : Fleet κ χ → List (Registry.Call κ)}
      {makes : Fleet.Makes own abandon calls fun _ => own}
      {rest : ∀ answer, (next answer).Calls own} (f : Fleet κ χ) :
      Step ⟨own, .call id op abandon next, .call calls makes rest⟩ f (calls f) [] (abandon f)

/-- A look at the fleet. -/
theorem Task.Step.look {α β : Type} {own : List (Reservation κ)} {see : Fleet κ χ → β}
    {next : β → Activity κ χ α} {rest : ∀ b, (next b).Calls own} {f : Fleet κ χ} {b : β}
    (sees : see f = b) :
    Step ⟨own, .perform (fun f => (see f, f)) next, .look rest⟩ f [] [⟨own, next b, rest b⟩] f := by
  subst sees
  exact .atomic f

/-- The fleets that are reached from an empty registry, with the holds given out, the tasks under
way and the calls that were made. Besides the tasks, anyone may make permitted calls, and change
everything but the ledger. The holds never run out of numbers. -/
inductive Together : Fleet κ χ → List (Reservation κ) → List (Task κ χ) →
    List (Registry.Entry κ) → Prop where
  | empty {f : Fleet κ χ} (nothing : f.registry = .empty) : Together f [] [] []
  | begun {f : Fleet κ χ} {issued : List (Reservation κ)} {tasks : List (Task κ χ)}
      {log : List (Registry.Entry κ)} (before : Together f issued tasks log) (job : Job κ) :
      Together f issued (tasks ++ [job.task]) log
  | stepped {f f' : Fleet κ χ} {issued : List (Reservation κ)} {t : Task κ χ}
      {earlier later left : List (Task κ χ)} {log : List (Registry.Entry κ)}
      {calls : List (Registry.Call κ)}
      (before : Together f issued (earlier ++ t :: later) log) (step : t.Step f calls left f')
      (numbers : Registry.NumberLeft (Ledger.after (f.ledger, issued) calls).2) :
      Together f' (Ledger.after (f.ledger, issued) calls).2 (earlier ++ left ++ later)
        (log ++ f.registry.entries calls)
  | called {f f' : Fleet κ χ} {issued : List (Reservation κ)} {tasks : List (Task κ χ)}
      {log : List (Registry.Entry κ)} {calls : List (Registry.Call κ)}
      (before : Together f issued tasks log)
      (permitted : ∀ call ∈ calls, call.Permitted issued fun _ => True)
      (numbers : Registry.NumberLeft (Ledger.after (f.ledger, issued) calls).2)
      (ledger : f'.ledger = (Ledger.after (f.ledger, issued) calls).1) :
      Together f' (Ledger.after (f.ledger, issued) calls).2 tasks
        (log ++ f.registry.entries calls)

/-! ## The calls of all tasks -/

/-- What calls leave does not depend on the holds that were given out, and whoever has more holds
before has more afterwards. -/
theorem Ledger.after_mono {own issued : List (Reservation κ)}
    (given : ∀ hold ∈ own, hold ∈ issued) (l : Ledger κ) (calls : List (Registry.Call κ)) :
    (Ledger.after (l, own) calls).1 = (Ledger.after (l, issued) calls).1 ∧
      ∀ hold ∈ (Ledger.after (l, own) calls).2, hold ∈ (Ledger.after (l, issued) calls).2 := by
  induction calls generalizing l own issued with
  | nil => exact ⟨rfl, given⟩
  | cons call rest ih =>
    refine ih ?_ (l.perform (call.change ·)).2
    intro hold hmem
    rcases List.mem_append.1 hmem with hown | hnew
    · exact List.mem_append_left _ (given hold hown)
    · exact List.mem_append_right _ hnew

/-- Where a number is left after calls, one was left before. -/
theorem Ledger.numberLeft_before (p : Ledger κ × List (Reservation κ))
    {calls : List (Registry.Call κ)} (numbers : Registry.NumberLeft (Ledger.after p calls).2) :
    Registry.NumberLeft p.2 := by
  induction calls generalizing p with
  | nil => exact numbers
  | cons call rest ih =>
    refine Nat.lt_of_le_of_lt (Nat.succ_le_succ ?_) (ih _ numbers)
    rw [List.length_append]
    exact Nat.le_add_right _ _

/-- A removal gives out no hold. -/
theorem Registry.NumberLeft.after_removal {l : Ledger κ} {issued : List (Reservation κ)}
    {c : String} (numbers : NumberLeft issued) :
    NumberLeft (Ledger.after (l, issued) [.removeWorkspace c]).2 := by
  show NumberLeft (issued ++ [])
  rw [List.append_nil]
  exact numbers

theorem Registry.History.calls {l : Ledger κ} {issued : List (Reservation κ)}
    {log : List (Registry.Entry κ)} {calls : List (Registry.Call κ)}
    (h : History l.registry issued log)
    (permitted : ∀ call ∈ calls, call.Permitted issued fun _ => True)
    (numbers : NumberLeft (Ledger.after (l, issued) calls).2) :
    History (Ledger.after (l, issued) calls).1.registry (Ledger.after (l, issued) calls).2
      (log ++ l.registry.entries calls) := by
  induction calls generalizing l issued log with
  | nil =>
    rw [entries, List.append_nil]
    exact h
  | cons call rest ih =>
    rw [entries, List.append_cons]
    refine ih (l := (l.perform (call.change ·)).2)
      (h.called (permitted call List.mem_cons_self)) ?_ numbers
    intro other hother
    exact (permitted other (List.mem_cons_of_mem call hother)).mono
      (fun hold hmem => List.mem_append_left _ hmem) (Ledger.numberLeft_before (_, _) numbers)

/-- What a step of a task does. -/
theorem Task.Step.makes {t : Task κ χ} {f f' : Fleet κ χ} {calls : List (Registry.Call κ)}
    {left : List (Task κ χ)} (step : t.Step f calls left f') :
    (∀ call ∈ calls, call.Permitted t.own fun _ => True) ∧
    f'.ledger = (Ledger.after (f.ledger, t.own) calls).1 ∧
    ∀ t' ∈ left, ∀ hold ∈ t'.own, hold ∈ (Ledger.after (f.ledger, t.own) calls).2 := by
  cases step with
  | @atomic _ _ _ _ _ _ makes _ f =>
    refine ⟨makes.permitted f, makes.ledger f, ?_⟩
    intro t' ht'
    rw [List.mem_singleton.1 ht']
    exact makes.held f
  | answered f answer =>
    refine ⟨nofun, rfl, ?_⟩
    intro t' ht'
    rw [List.mem_singleton.1 ht']
    exact fun hold hmem => hmem
  | @abandoned _ _ _ _ _ _ _ makes _ f => exact ⟨makes.permitted f, makes.ledger f, nofun⟩

/-- What a step of one of several tasks does, whose holds were all given out. -/
theorem Task.Step.among {t : Task κ χ} {f f' : Fleet κ χ} {issued : List (Reservation κ)}
    {earlier later left : List (Task κ χ)} {calls : List (Registry.Call κ)}
    (step : t.Step f calls left f')
    (given : ∀ t' ∈ earlier ++ t :: later, ∀ hold ∈ t'.own, hold ∈ issued)
    (numbers : Registry.NumberLeft (Ledger.after (f.ledger, issued) calls).2) :
    (∀ call ∈ calls, call.Permitted issued fun _ => True) ∧
    f'.ledger = (Ledger.after (f.ledger, issued) calls).1 ∧
    ∀ t' ∈ earlier ++ left ++ later, ∀ hold ∈ t'.own,
      hold ∈ (Ledger.after (f.ledger, issued) calls).2 := by
  obtain ⟨hpermitted, hledger, hleft⟩ := step.makes
  obtain ⟨hearlier, hrest⟩ := List.forall_mem_append.1 given
  obtain ⟨hown, hlater⟩ := List.forall_mem_cons.1 hrest
  obtain ⟨hsame, hmore⟩ := Ledger.after_mono hown f.ledger calls
  refine ⟨fun call hcall => (hpermitted call hcall).mono hown
      (Ledger.numberLeft_before (f.ledger, issued) numbers),
    hledger.trans hsame, ?_⟩
  refine List.forall_mem_append.2 ⟨List.forall_mem_append.2 ⟨?_, ?_⟩, ?_⟩
  · exact fun t' ht' hold hmem => Ledger.mem_after (hearlier t' ht' hold hmem)
  · exact fun t' ht' hold hmem => hmore hold (hleft t' ht' hold hmem)
  · exact fun t' ht' hold hmem => Ledger.mem_after (hlater t' ht' hold hmem)

/-- Whatever is begun has no holds yet. -/
theorem Job.own_task (job : Job κ) : (job.task : Task κ χ).own = [] := by
  cases job <;> rfl

namespace Together

variable {f : Fleet κ χ} {issued : List (Reservation κ)} {tasks : List (Task κ χ)}
  {log : List (Registry.Entry κ)}

/-- **One history.** The calls of all tasks were made one after the other on one registry, and every
hold that a task has was given out. -/
theorem history (h : Together f issued tasks log) :
    f.registry.History issued log ∧ ∀ t ∈ tasks, ∀ hold ∈ t.own, hold ∈ issued := by
  induction h with
  | empty nothing =>
    rw [nothing]
    exact ⟨.empty, nofun⟩
  | begun before job ih =>
    refine ⟨ih.1, List.forall_mem_append.2 ⟨ih.2, List.forall_mem_singleton.2 ?_⟩⟩
    rw [job.own_task]
    nofun
  | stepped before step numbers ih =>
    obtain ⟨hpermitted, hledger, hgiven⟩ := step.among ih.2 numbers
    refine ⟨?_, hgiven⟩
    rw [Fleet.registry, hledger]
    exact ih.1.calls hpermitted numbers
  | @called f f' issued tasks log calls before permitted numbers ledger ih =>
    constructor
    · rw [Fleet.registry, ledger]
      exact ih.1.calls permitted numbers
    · intro t ht hold hmem
      exact Ledger.mem_after (ih.2 t ht hold hmem)

theorem numbers (h : Together f issued tasks log) : Registry.NumberLeft issued := by
  induction h with
  | empty => exact Registry.numberLeft_nil
  | begun before job ih => exact ih
  | stepped before step numbers ih => exact numbers
  | called before permitted numbers ledger ih => exact numbers

/-- **Removed once.** However the tasks take their turns, and whatever they were told about a
container, the calls that removed its record, with the record that is there now, are no more than
the commits of it, and exactly as many if no commit took the place of a record. A removal either
answers the record, whose server counts one workspace less, or changes nothing, and no change of a
record makes one appear or disappear. -/
theorem removed_once (h : Together f issued tasks log) (c : String) :
    log.countP (Registry.Entry.removes c) + (f.registry.workspaces.contains c).toNat ≤
      log.countP (Registry.Entry.commits c) ∧
    ((∀ e ∈ log, e.commits c = true → e.found.workspaces.contains c = false) →
      log.countP (Registry.Entry.removes c) + (f.registry.workspaces.contains c).toNat =
        log.countP (Registry.Entry.commits c)) ∧
    (∀ e ∈ log, e.call = .removeWorkspace c →
      Registry.Removal c e.found (e.found.removeWorkspace c).result e.left) ∧
    ∀ e ∈ log, ∀ id change, e.call = .updateWorkspace id change →
      e.left.workspaces.contains c = e.found.workspaces.contains c := by
  obtain ⟨hhistory, -⟩ := h.history
  refine ⟨hhistory.removals_le c, hhistory.removals_eq, ?_, ?_⟩
  · intro e he hcall
    obtain ⟨issued', hsound⟩ := hhistory.found_sound he
    have hleft : e.left = (e.found.removeWorkspace c).registry := by
      rw [Registry.Entry.left, hcall]
      rfl
    rw [hleft]
    exact hsound.removal c
  · intro e he id change hcall
    have hleft : e.left = (e.found.updateWorkspace id change).registry := by
      rw [Registry.Entry.left, hcall]
      rfl
    rw [hleft]
    exact Registry.contains_updateWorkspace e.found id change c

/-! ## Two destructions of one workspace -/

/-- A step of the last task that calls nothing. -/
theorem quiet {t t' : Task κ χ} (h : Together f issued (tasks ++ [t]) log)
    (step : t.Step f [] [t'] f) : Together f issued (tasks ++ [t']) log := by
  have := h.stepped step h.numbers
  rwa [List.append_nil, Registry.entries, List.append_nil] at this

/-- A destruction that is about to remove the record. -/
theorem dropping (h : Together f issued tasks log) {c : String} {w : Workspace κ}
    (found : f.registry.workspaces.get? c = some w) :
    ∃ t : Task κ χ, Together f issued (tasks ++ [t]) log ∧
      ∀ f', ∃ left, t.Step f' [.removeWorkspace c] left (f'.perform (·.removeWorkspace c)).2 := by
  let stop : Operation κ := .stop c
  let remove : Operation κ := .remove c
  have looked := (h.begun (.destroy c)).quiet (.look found)
  have stopped := looked.quiet (.answered f (.ok (α := stop.Answer) ()))
  have removed := stopped.quiet (.answered f (.ok (α := remove.Answer) ()))
  exact ⟨_, removed, fun f' => ⟨_, .atomic f'⟩⟩

end Together

/-- A fleet after calls on an empty registry. -/
def sampleFleet (calls : List (Registry.Call Rat)) : Fleet Rat Unit where
  ledger := (Ledger.after (.inMemory, []) calls).1
  pool := ∅
  placer := .initial
  events := []

theorem together_sample : Together (sampleFleet SampleRun.calls) SampleRun.unstored.2 []
    (Registry.empty.entries SampleRun.calls) := by
  have held : Together (sampleFleet (SampleRun.calls.take 3))
      (Ledger.after (.inMemory, []) (SampleRun.calls.take 3)).2 []
      (Registry.empty.entries (SampleRun.calls.take 3)) := by
    refine Together.called (.empty rfl : Together (sampleFleet []) [] [] []) ?_
      (Ledger.numberLeft_after .inMemory (SampleRun.calls.take 3) (by decide)) rfl
    intro call hcall
    rcases List.mem_cons.1 hcall with rfl | hcall
    · exact SampleRun.config_inRange
    · rcases List.mem_cons.1 hcall with rfl | hcall
      · exact ⟨SampleRun.allocation_inRange, Registry.numberLeft_nil⟩
      · rw [List.mem_singleton.1 hcall]
        exact ⟨SampleRun.allocation_inRange, Registry.numberLeft_nil⟩
  have hgiven : (SampleRun.hold : Reservation Rat) ∈
      (Ledger.after (.inMemory, []) (SampleRun.calls.take 3)).2 := by
    decide +kernel
  have hcommit : ∀ call ∈ [(.commit SampleRun.hold "c" 0 : Registry.Call Rat)],
      call.Permitted (Ledger.after (.inMemory, []) (SampleRun.calls.take 3)).2 fun _ => True := by
    intro call hcall
    rw [List.mem_singleton.1 hcall]
    exact ⟨hgiven, trivial, by decide⟩
  exact held.called hcommit
    (Ledger.numberLeft_after .inMemory SampleRun.calls (by decide)) rfl

/-- Two destructions have both seen the record and stopped its container before either removes it.
One of them removes it. -/
theorem removed_once_raced : ∃ (f : Fleet Rat Unit) (issued : List (Reservation Rat))
    (tasks : List (Task Rat Unit)) (log : List (Registry.Entry Rat)),
    Together f issued tasks log ∧
      log.countP (Registry.Entry.removes "c") + (f.registry.workspaces.contains "c").toNat ≤
        log.countP (Registry.Entry.commits "c") ∧
      log.countP (Registry.Entry.removes "c") = 1 := by
  have found : (sampleFleet SampleRun.calls).registry.workspaces.get? "c" =
      some (.ofReservation SampleRun.hold "c" 0) := by
    decide +kernel
  obtain ⟨t, first, drop⟩ := together_sample.dropping found
  obtain ⟨t', second, drop'⟩ := first.dropping found
  obtain ⟨left, step⟩ := drop' (sampleFleet SampleRun.calls)
  have once := second.stepped step second.numbers.after_removal
  obtain ⟨left', step'⟩ := drop (sampleFleet (SampleRun.calls ++ [.removeWorkspace "c"]))
  have raced := Together.stepped (show Together _ _ ([] ++ t :: (left ++ [])) _ from once) step'
    once.numbers.after_removal
  exact ⟨_, _, _, _, raced, (raced.removed_once "c").1, by decide +kernel⟩

end WorkspaceFleet
