import WorkspaceFleet.Proofs.Accounting
import WorkspaceFleet.Proofs.Interleaving
import WorkspaceFleet.Proofs.Keeping

/-!
# WorkspaceFleet.Proofs.Destroying

A destruction gives capacity back once the daemon has confirmed it, and not before.

`Activity.Among` says how an activity goes among others, who make calls on the registry whenever the
activity waits. What an activity leaves alone is `Quiet`: the ledger is then what the calls of the
others make of it. A destruction is quiet but for one removal of the record, which comes after the
daemon has stopped and removed the container: `Orchestrator.freed_once_confirmed`.

A removal makes two writes, and the store may refuse either. The first refused changes nothing. The
second refused leaves the record gone and its server counting it, until the next reconciliation
(`Registry.Torn`); that is the only change that comes with an error.
-/

namespace WorkspaceFleet

variable {κ χ α β : Type} [Quantity κ] {ids : Registry κ → String → Prop}

/-! ## Calls of others -/

/-- What calls make of a ledger and of the holds given out that are permitted one after the other. The
store takes their writes. -/
inductive Ledger.Undergoes (ids : Registry κ → String → Prop) :
    Ledger κ × List (Reservation κ) → List (Registry.Call κ) →
      Ledger κ × List (Reservation κ) → Prop where
  | nothing {p : Ledger κ × List (Reservation κ)} : Undergoes ids p [] p
  | next {p p' : Ledger κ × List (Reservation κ)} {call : Registry.Call κ}
      {calls : List (Registry.Call κ)} (permitted : call.Permitted p.2 (ids p.1.registry))
      (rest : Undergoes ids (Ledger.after p [call]) calls p') : Undergoes ids p (call :: calls) p'

namespace Ledger.Undergoes

variable {p p' p'' : Ledger κ × List (Reservation κ)} {calls more : List (Registry.Call κ)}

theorem reached (h : Undergoes ids p calls p') (before : Reached ids (.running p.1 p.2)) :
    Reached ids (.running p'.1 p'.2) := by
  induction h with
  | nothing => exact before
  | next permitted _ ih => exact ih (.performed before permitted)

theorem append (h : Undergoes ids p calls p') (h' : Undergoes ids p' more p'') :
    Undergoes ids p (calls ++ more) p'' := by
  induction h with
  | nothing => exact h'
  | next permitted _ ih => exact .next permitted (ih h')

/-- A record stays until a call removes it. -/
theorem recorded (h : Undergoes ids p calls p') {c : String}
    (before : p.1.registry.workspaces.contains c = true) (kept : .removeWorkspace c ∉ calls) :
    p'.1.registry.workspaces.contains c = true := by
  induction h with
  | nothing => exact before
  | @next p p' call calls _ _ ih =>
    obtain ⟨hcall, hrest⟩ := not_or.1 (List.mem_cons.not.1 kept)
    have hremoves : Registry.Entry.removes c ⟨p.1.registry, call⟩ = false := by
      cases call with
      | removeWorkspace id =>
        have hid : id ≠ c := fun h => hcall (h ▸ rfl)
        simp only [Registry.Entry.removes, beq_false_of_ne hid, Bool.false_and]
      | _ => rfl
    refine ih ?_ hrest
    have hleft := Registry.contains_change ⟨p.1.registry, call⟩ c
    rw [hremoves, before, Bool.not_false, Bool.and_true, Bool.or_true] at hleft
    exact hleft

end Ledger.Undergoes

/-! ## Activities among others -/

/-- A fleet in use, and the holds that were given out on it. -/
structure InUse (κ χ : Type) where
  fleet : Fleet κ χ
  issued : List (Reservation κ)

namespace InUse

/-- The fleet after a step that gives out no hold. -/
def after (u : InUse κ χ) (f : Fleet κ χ) : InUse κ χ := { u with fleet := f }

/-- Others have made these calls, and may have changed all but the ledger besides. -/
def Undergoes (ids : Registry κ → String → Prop) (u : InUse κ χ) (calls : List (Registry.Call κ))
    (u' : InUse κ χ) : Prop :=
  Ledger.Undergoes ids (u.fleet.ledger, u.issued) calls (u'.fleet.ledger, u'.issued)

end InUse

/-- What happens while an activity is under way. -/
inductive Moment (κ χ : Type) : Type 1 where
  /-- A step of the activity: the fleet that it finds, and the fleet that it leaves. -/
  | step (found left : Fleet κ χ)
  | begun (call : Begun κ)
  /-- A call that others make on the registry. -/
  | others (call : Registry.Call κ)

/-- How an activity that takes no hold goes on a fleet in use: what happens, the result, unless it is
abandoned, and the fleet afterwards. Before every step, while a daemon is called, and afterwards others
may make any calls on the registry that are permitted there, and change the rest of the fleet as they
like. -/
inductive Activity.Among (ids : Registry κ → String → Prop) :
    Activity κ χ α → InUse κ χ → List (Moment κ χ) → Option α → InUse κ χ → Prop where
  | done {a : α} {u u' : InUse κ χ} {calls : List (Registry.Call κ)}
      (others : u.Undergoes ids calls u') :
      Among ids (.done a) u (calls.map .others) (some a) u'
  | atomic {write : Fleet κ χ → Fleet κ χ} {next : Fleet κ χ → Activity κ χ α}
      {u found u' : InUse κ χ} {calls : List (Registry.Call κ)} {log : List (Moment κ χ)}
      {r : Option α} (others : u.Undergoes ids calls found)
      (rest : Among ids (next found.fleet) (found.after (write found.fleet)) log r u') :
      Among ids (.atomic write next) u
        (calls.map .others ++ .step found.fleet (write found.fleet) :: log) r u'
  | answered {id : String} {op : Operation κ} {abandon : Fleet κ χ → Fleet κ χ}
      {next : Except BackendError op.Answer → Activity κ χ α} {u found u' : InUse κ χ}
      {calls : List (Registry.Call κ)} {log : List (Moment κ χ)} {r : Option α}
      (others : u.Undergoes ids calls found)
      (answer : Except BackendError op.Answer) (rest : Among ids (next answer) found log r u') :
      Among ids (.call id op abandon next) u
        (calls.map .others ++ .begun ⟨id, op, some answer⟩ :: log) r u'
  | abandoned {id : String} {op : Operation κ} {abandon : Fleet κ χ → Fleet κ χ}
      {next : Except BackendError op.Answer → Activity κ χ α} {u found : InUse κ χ}
      {calls : List (Registry.Call κ)} (others : u.Undergoes ids calls found) :
      Among ids (.call id op abandon next) u
        (calls.map .others ++
          [.begun ⟨id, op, none⟩, .step found.fleet (abandon found.fleet)]) none
        (found.after (abandon found.fleet))

namespace Activity.Among

variable {u u' : InUse κ χ} {log : List (Moment κ χ)} {r : Option α}

/-- A step that nobody comes before. -/
theorem perform {step : Fleet κ χ → β × Fleet κ χ} {next : β → Activity κ χ α} {b : β}
    (given : (step u.fleet).1 = b)
    (rest : (next b).Among ids (u.after (step u.fleet).2) log r u') :
    (Activity.perform step next).Among ids u (.step u.fleet (step u.fleet).2 :: log) r u' := by
  subst given
  exact @Among.atomic _ _ _ _ ids _ _ u u u' [] log r .nothing rest

/-- A call during which nobody does anything. -/
theorem answer {id : String} {op : Operation κ} {abandon : Fleet κ χ → Fleet κ χ}
    {next : Except BackendError op.Answer → Activity κ χ α} (answer : Except BackendError op.Answer)
    (rest : (next answer).Among ids u log r u') :
    (Activity.call id op abandon next).Among ids u (.begun ⟨id, op, some answer⟩ :: log) r u' := by
  exact @Among.answered _ _ _ _ ids id op abandon next u u u' [] log r .nothing answer rest

/-- The end, after which nobody does anything. -/
theorem finished (a : α) : (Activity.done a).Among ids u [] (some a) u :=
  @Among.done _ _ _ _ _ _ u u [] .nothing

end Activity.Among

namespace Moment

/-- The calls that others made. -/
def calls (log : List (Moment κ χ)) : List (Registry.Call κ) :=
  log.filterMap fun
    | .others call => some call
    | _ => none

/-- The steps of the activity have changed nothing. -/
def Untouched (log : List (Moment κ χ)) : Prop :=
  ∀ found left, .step found left ∈ log → left = found

/-- From one time to another the activity has changed nothing, and the ledger is what others have
made of it. -/
structure Quiet (ids : Registry κ → String → Prop) (u : InUse κ χ) (log : List (Moment κ χ))
    (u' : InUse κ χ) : Prop where
  untouched : Untouched log
  ledger : u.Undergoes ids (calls log) u'

omit [Quantity κ] in
theorem calls_others (made : List (Registry.Call κ)) :
    calls (made.map (.others : _ → Moment κ χ)) = made := by
  simp only [calls, List.filterMap_map]
  exact List.filterMap_some

namespace Quiet

variable {u u' u'' : InUse κ χ} {log more : List (Moment κ χ)}

theorem nothing (u : InUse κ χ) : Quiet ids u [] u where
  untouched _ _ hmem := by cases hmem
  ledger := .nothing

theorem others {made : List (Registry.Call κ)} (h : u.Undergoes ids made u') :
    Quiet ids u (made.map .others) u' where
  untouched found left hmem := by
    obtain ⟨call, -, hcall⟩ := List.mem_map.1 hmem
    cases hcall
  ledger := by
    rw [calls_others]
    exact h

/-- A look at the fleet, or a step that leaves it as it is. -/
theorem step (u : InUse κ χ) : Quiet ids u [.step u.fleet u.fleet] u where
  untouched found left hmem := by
    cases List.mem_singleton.1 hmem
    rfl
  ledger := .nothing

theorem begun (u : InUse κ χ) (call : Begun κ) : Quiet ids u [.begun call] u where
  untouched found left hmem := by cases List.mem_singleton.1 hmem
  ledger := .nothing

theorem append (h : Quiet ids u log u') (h' : Quiet ids u' more u'') :
    Quiet ids u (log ++ more) u'' where
  untouched found left hmem :=
    (List.mem_append.1 hmem).elim (h.untouched found left) (h'.untouched found left)
  ledger := by
    rw [calls, List.filterMap_append]
    exact Ledger.Undergoes.append h.ledger h'.ledger

/-! What is quiet until an activity goes on, by what is left of the activity. -/

variable {r : Option α}

theorem done {a : α} (before : Quiet ids u log u')
    (run : (Activity.done a).Among ids u' more r u'') :
    Quiet ids u (log ++ more) u'' ∧ r = some a := by
  cases run with
  | done made => exact ⟨before.append (.others made), rfl⟩

theorem perform {step : Fleet κ χ → β × Fleet κ χ} {next : β → Activity κ χ α}
    (before : Quiet ids u log u') (run : (Activity.perform step next).Among ids u' more r u'') :
    ∃ earlier found rest,
      log ++ more = earlier ++ .step found.fleet (step found.fleet).2 :: rest ∧
      Quiet ids u earlier found ∧ log ⊆ earlier ∧
      (next (step found.fleet).1).Among ids (found.after (step found.fleet).2) rest r u'' := by
  cases run with
  | atomic made rest =>
    exact ⟨_, _, _, (List.append_assoc _ _ _).symm, before.append (.others made),
      List.subset_append_left _ _, rest⟩

/-- A call to a daemon that leaves all as it is if it is abandoned. -/
theorem call {id : String} {op : Operation κ} {abandon : Fleet κ χ → Fleet κ χ}
    {next : Except BackendError op.Answer → Activity κ χ α} (keeps : ∀ g, abandon g = g)
    (before : Quiet ids u log u')
    (run : (Activity.call id op abandon next).Among ids u' more r u'') :
    (Quiet ids u (log ++ more) u'' ∧ r = none) ∨
      ∃ answer earlier found rest, log ++ more = earlier ++ rest ∧ Quiet ids u earlier found ∧
        log ⊆ earlier ∧ .begun ⟨id, op, some answer⟩ ∈ earlier ∧
        (next answer).Among ids found rest r u'' := by
  cases run with
  | @abandoned _ _ _ _ _ found made others =>
    rw [keeps]
    exact .inl ⟨before.append ((Quiet.others others).append
      ((begun found _).append (step found))), rfl⟩
  | @answered _ _ _ _ _ found _ made rest _ others answer run =>
    refine .inr ⟨answer, log ++ (made.map .others ++ [.begun ⟨id, op, some answer⟩]), found, rest,
      by simp, before.append ((Quiet.others others).append (begun found _)),
      List.subset_append_left _ _, by simp, run⟩

end Quiet
end Moment

/-! ## One removal -/

namespace Registry

/-- The record of a container is removed, and its allocation is taken off its server, once. -/
structure Freed (c : String) (w : Workspace κ) (before after : Registry κ) : Prop where
  present : before.workspaces.get? c = some w
  gone : after.workspaces.get? c = none
  others : ∀ d, d ≠ c → after.workspaces.get? d = before.workspaces.get? d
  pending : after.pending = before.pending
  server : ∃ s, before.servers.get? w.serverId = some s ∧
    after.servers.get? w.serverId = some (s.retract w.allocation) ∧
    ∀ q, (s.retract w.allocation).used q + w.allocation.needs q = s.used q
  elsewhere : ∀ j, j ≠ w.serverId → after.servers.get? j = before.servers.get? j

/-- **A removal frees the record's capacity**, all of it: the server is registered and counts it. -/
theorem Sound.freed {r : Registry κ} {issued : List (Reservation κ)} {c : String} {w : Workspace κ}
    (h : r.Sound issued) (present : r.workspaces.get? c = some w) :
    Freed c w r (r.removeWorkspace c).registry := by
  have hneeds := needs_le_loadOn present
  obtain ⟨s, hs⟩ := h.counted.exists_server (hneeds .slots)
  simp only [removeWorkspace, present, hs]
  have hothers : ∀ d, d ≠ c → (r.workspaces.erase c).get? d = r.workspaces.get? d := by
    intro d hd
    rw [Table.get?_erase, if_neg hd.symm]
  have htaken : ∀ q, (s.retract w.allocation).used q + w.allocation.needs q = s.used q := by
    intro q
    rw [Server.used_retract]
    exact Nat.sub_add_cancel (Nat.le_trans (hneeds q) (h.counted.loadOn_le hs q))
  exact ⟨present, Table.get?_erase_self _ _, hothers, rfl,
    ⟨s, hs, Table.get?_insert_self _ _ _, htaken⟩, fun j hj => Table.get?_insert_of_ne hj.symm⟩

/-- The record of a container is gone, and nothing else is different: its server counts it still. -/
def Torn (c : String) (w : Workspace κ) (before after : Registry κ) : Prop :=
  before.workspaces.get? c = some w ∧
    after = { before with workspaces := before.workspaces.erase c }

/-- The server counts the record until the next reconciliation, and then as if it had been removed. -/
theorem Torn.reconciled {c : String} {w : Workspace κ} {before after : Registry κ}
    (h : Torn c w before after) (keyed : before.servers.Keyed Server.serverId) (id : String)
    (q : Resource) : countedOn after.reconcile.registry.servers id q =
      countedOn (before.removeWorkspace c).registry.reconcile.registry.servers id q := by
  obtain ⟨present, rfl⟩ := h
  cases hs : before.servers.get? w.serverId with
  | none =>
    simp only [removeWorkspace, present, hs]
    rfl
  | some s =>
    simp only [removeWorkspace, present, hs]
    apply countedOn_reconcile_congr
    case keyed => exact keyed.replace hs rfl
    case keyed' => exact keyed
    case registered => exact (Table.contains_insert_of_get? hs _ id).symm
    all_goals rfl

/-- What a removal leaves that the store refuses: all, or a record that is gone. -/
theorem refused_removeWorkspace {r : Registry κ} {c : String} {w : Workspace κ}
    (present : r.workspaces.get? c = some w) {taken : Nat}
    (reached : taken < (r.removeWorkspace c).writes.length) :
    (taken = 0 ∧ (r.removeWorkspace c).refused taken = r) ∨
      taken = 1 ∧ Torn c w r ((r.removeWorkspace c).refused taken) := by
  cases hs : r.servers.get? w.serverId with
  | none =>
    simp only [removeWorkspace, present, hs, changed, List.length_singleton] at reached ⊢
    exact .inl ⟨Nat.lt_one_iff.1 reached, trivial⟩
  | some s =>
    simp only [removeWorkspace, present, hs, List.length_cons, List.length_nil] at reached ⊢
    rcases Nat.lt_succ_iff_lt_or_eq.1 reached with first | rfl
    · have hzero : taken = 0 := Nat.lt_one_iff.1 first
      exact .inl ⟨hzero, if_pos hzero⟩
    · exact .inr ⟨rfl, present, rfl⟩

end Registry

/-! ## Destructions -/

namespace Orchestrator

open Moment

variable {c : String} {refused : Option Refusal} {u u' : InUse κ χ} {log : List (Moment κ χ)}
  {r : Option (Outcome (Option (Workspace κ)))}

/-- The daemon of the server where the container was found to be recorded has stopped and removed it. -/
def Confirmed (c : String) (log : List (Moment κ χ)) : Prop :=
  ∃ (found : Fleet κ χ) (w : Workspace κ), found.registry.workspaces.get? c = some w ∧
    .step found found ∈ log ∧ .begun ⟨w.serverId, .stop c, some (.ok ())⟩ ∈ log ∧
    .begun ⟨w.serverId, .remove c, some (.ok ())⟩ ∈ log

/-- What a destruction answers and does: it changes nothing, and answers no record; or the daemon
has confirmed it, and from then on it removes the record that it answers, and changes nothing else; or
the store refuses the second write of that removal, and this is what it answers. -/
inductive Destruction (ids : Registry κ → String → Prop) (c : String) (refused : Option Refusal)
    (u u' : InUse κ χ) : List (Moment κ χ) → Option (Outcome (Option (Workspace κ))) → Prop where
  | kept {log : List (Moment κ χ)} {r : Option (Outcome (Option (Workspace κ)))}
      (quiet : Quiet ids u log u') (none : ∀ w, r ≠ some (.ok (some w))) :
      Destruction ids c refused u u' log r
  | freed {earlier later : List (Moment κ χ)} {found : InUse κ χ} {w : Workspace κ}
      (before : Quiet ids u earlier found) (confirmed : Confirmed c earlier)
      (present : found.fleet.registry.workspaces.get? c = some w)
      (afterwards :
        Quiet ids (found.after (found.fleet.perform (·.removeWorkspace c)).2) later u') :
      Destruction ids c refused u u'
        (earlier ++ .step found.fleet (found.fleet.perform (·.removeWorkspace c)).2 :: later)
        (some (.ok (some w)))
  | torn {earlier later : List (Moment κ χ)} {found : InUse κ χ} {left : Fleet κ χ}
      {w : Workspace κ} {cause : StoreError} (refusal : refused = some ⟨1, cause⟩)
      (before : Quiet ids u earlier found) (confirmed : Confirmed c earlier)
      (torn : Registry.Torn c w found.fleet.registry left.registry)
      (afterwards : Quiet ids (found.after left) later u') :
      Destruction ids c refused u u' (earlier ++ .step found.fleet left :: later)
        (some (.error (.registry (.store cause))))

omit [Quantity κ] in
theorem Confirmed.mono {more : List (Moment κ χ)} (h : Confirmed c log) (sub : log ⊆ more) :
    Confirmed c more := by
  obtain ⟨found, w, present, looked, stopped, removed⟩ := h
  exact ⟨found, w, present, sub looked, sub stopped, sub removed⟩

/-- **An attempt to remove a record** changes nothing, or removes it, or tears it off its server. -/
theorem removal_cases (f : Fleet κ χ) (refused : Option Refusal) (c : String) :
    (∃ answer, f.attempt refused id (·.removeWorkspace c) = (answer, f) ∧
      ∀ w, answer ≠ .ok (some w)) ∨
    (∃ w, f.registry.workspaces.get? c = some w ∧
      f.attempt refused id (·.removeWorkspace c) =
        (.ok (some w), (f.perform (·.removeWorkspace c)).2)) ∨
    ∃ w cause left, refused = some ⟨1, cause⟩ ∧ Registry.Torn c w f.registry left.registry ∧
      f.attempt refused id (·.removeWorkspace c) = (.error (.store cause), left) := by
  rcases f.attempt_cases refused id (·.removeWorkspace c) with
    hdone | ⟨taken, cause, store, refusal, hstore, hwrite, hrefused⟩
  · cases present : f.registry.workspaces.get? c with
    | none =>
      refine .inl ⟨.ok none, ?_, nofun⟩
      rw [hdone, Fleet.perform_of_unchanged (Registry.removeWorkspace_of_none present)]
    | some w =>
      refine .inr (.inl ⟨w, rfl, ?_⟩)
      rw [hdone, Fleet.perform_eq, Registry.removeWorkspace_result_of_some present]
  · cases present : f.registry.workspaces.get? c with
    | none =>
      rw [Registry.removeWorkspace_of_none present] at hwrite
      cases hwrite
    | some w =>
      rcases Registry.refused_removeWorkspace present hwrite with ⟨rfl, hsame⟩ | ⟨rfl, htorn⟩
      · refine .inl ⟨.error (.store cause), ?_, nofun⟩
        rw [hrefused, Fleet.halted_of_same hstore hsame]
        rfl
      · exact .inr (.inr ⟨w, cause, f.halted 1 (f.registry.removeWorkspace c) store, refusal, htorn,
          hrefused⟩)

/-- The end of a destruction that the daemon has confirmed. -/
theorem drop_among {begun : List (Moment κ χ)} {v : InUse κ χ} (before : Quiet ids u begun v)
    (confirmed : Confirmed c begun)
    (run : Activity.Among ids (.perform (fun f => f.attempt refused id (·.removeWorkspace c)) fun
      | .ok removed => .done (.ok removed)
      | .error e => .done (.error (.registry e))) v log r u') :
    Destruction ids c refused u u' (begun ++ log) r := by
  obtain ⟨earlier, found, later, hlog, quiet, sub, run⟩ := before.perform run
  rw [hlog]
  rcases removal_cases found.fleet refused c with
    ⟨answer, hkept, none⟩ | ⟨w, present, hfreed⟩ | ⟨w, cause, left, refusal, torn, hleft⟩
  · rw [hkept] at run ⊢
    rw [List.append_cons]
    cases answer with
    | ok removed =>
      obtain ⟨still, rfl⟩ := (quiet.append (.step found)).done run
      exact .kept still fun w h => none w (by cases h; rfl)
    | error e =>
      obtain ⟨still, rfl⟩ := (quiet.append (.step found)).done run
      exact .kept still nofun
  · rw [hfreed] at run ⊢
    obtain ⟨afterwards, rfl⟩ := (Quiet.nothing _).done run
    exact .freed quiet (confirmed.mono sub) present afterwards
  · rw [hleft] at run ⊢
    obtain ⟨afterwards, rfl⟩ := (Quiet.nothing _).done run
    exact .torn refusal quiet (confirmed.mono sub) torn afterwards

/-- **Every way through a destruction** among others. -/
theorem destroy_among (run : (destroy refused c).Among ids u log r u') :
    Destruction ids c refused u u' log r := by
  obtain ⟨start, seen, rest, hlog, quiet, -, run⟩ := (Quiet.nothing u).perform run
  have hseen := quiet.append (.step seen)
  rw [List.nil_append, List.append_cons] at hlog
  rw [hlog]
  cases present : seen.fleet.registry.workspaces.get? c with
  | none =>
    rw [present] at run
    obtain ⟨still, rfl⟩ := hseen.done run
    exact .kept still nofun
  | some w =>
    rw [present] at run
    obtain ⟨still, rfl⟩ | ⟨stopped, asked, u₁, rest₁, hlog₁, quiet₁, sub₁, hstop, run⟩ :=
      hseen.call (fun _ => rfl) run
    · exact .kept still nofun
    rw [hlog₁]
    cases stopped with
    | error e =>
      obtain ⟨still, rfl⟩ := quiet₁.done run
      exact .kept still nofun
    | ok _ =>
      obtain ⟨still, rfl⟩ | ⟨removed, asked', u₂, rest₂, hlog₂, quiet₂, sub₂, hremove, run⟩ :=
        quiet₁.call (fun _ => rfl) run
      · exact .kept still nofun
      rw [hlog₂]
      cases removed with
      | error e =>
        obtain ⟨still, rfl⟩ := quiet₂.done run
        exact .kept still nofun
      | ok _ =>
        have hlook : (.step seen.fleet seen.fleet : Moment κ χ) ∈ asked := sub₁ (by simp)
        exact drop_among quiet₂ ⟨seen.fleet, w, present, sub₂ hlook, sub₂ hstop, hremove⟩ run

/-- A destruction that is left alone, and that the daemon and the store let pass, removes the record. -/
theorem destroy_alone (ids : Registry κ → String → Prop) {w : Workspace κ}
    (present : u.fleet.registry.workspaces.get? c = some w) :
    (destroy none c).Among ids u
      [.step u.fleet u.fleet, .begun ⟨w.serverId, .stop c, some (.ok ())⟩,
        .begun ⟨w.serverId, .remove c, some (.ok ())⟩,
        .step u.fleet (u.fleet.perform (·.removeWorkspace c)).2]
      (some (.ok (some w))) (u.after (u.fleet.perform (·.removeWorkspace c)).2) := by
  have hresult : (u.fleet.perform (·.removeWorkspace c)).1 = .ok (some w) :=
    Registry.removeWorkspace_result_of_some present
  exact .perform present (.answer _ (.answer _ (.perform hresult (.finished _))))

/-- A destruction that is left alone, and whose server the store refuses to write: the record is gone
from memory and store, the server counts it still, and the store's error is what is answered. -/
theorem destroy_torn (ids : Registry κ → String → Prop) {w : Workspace κ} {s : Server κ}
    {store : Store κ} (present : u.fleet.registry.workspaces.get? c = some w)
    (server : u.fleet.registry.servers.get? w.serverId = some s)
    (stored : u.fleet.ledger.store = some store) (cause : StoreError) :
    let left := (u.fleet.attempt (some ⟨1, cause⟩) id (·.removeWorkspace c)).2
    (destroy (some ⟨1, cause⟩) c).Among ids u
      [.step u.fleet u.fleet, .begun ⟨w.serverId, .stop c, some (.ok ())⟩,
        .begun ⟨w.serverId, .remove c, some (.ok ())⟩, .step u.fleet left]
      (some (.error (.registry (.store cause)))) (u.after left) ∧
    left.registry =
      { u.fleet.registry with workspaces := u.fleet.registry.workspaces.erase c } ∧
    left.ledger.store = some (store.apply (.deleteWorkspace c)) := by
  have hchange : u.fleet.registry.removeWorkspace c =
      ⟨.ok (some w),
        { u.fleet.registry with
          workspaces := u.fleet.registry.workspaces.erase c
          servers := u.fleet.registry.servers.insert w.serverId (s.retract w.allocation) },
        [.deleteWorkspace c, .putServer (s.retract w.allocation)],
        fun taken =>
          if taken = 0 then u.fleet.registry
          else { u.fleet.registry with workspaces := u.fleet.registry.workspaces.erase c }⟩ := by
    simp only [Registry.removeWorkspace, present, server]
  have hrefused : u.fleet.attempt (some ⟨1, cause⟩) id (·.removeWorkspace c) =
      (.error (.store cause), u.fleet.halted 1 (u.fleet.registry.removeWorkspace c) store) :=
    Fleet.attempt_of_refused stored cause id (by rw [hchange]; exact Nat.one_lt_two)
  refine ⟨.perform present (.answer _ (.answer _ (.perform (congrArg Prod.fst hrefused)
    (.finished _)))), ?_, ?_⟩
  · rw [hrefused, hchange]
    rfl
  · rw [hrefused, hchange]
    rfl

/-- **Capacity is freed once, after the daemon has confirmed.** On a fleet in use, whatever the daemon
answers, whatever the store refuses and whatever others call meanwhile: a destruction that is abandoned,
fails or answers no record has changed nothing, and the record is still there unless others have removed
it. Only where the store takes the first write of the removal and refuses the second, the record is gone
and its server counts it still; that is the one change, and the error is the store's. A destruction that
answers a record changes nothing but by one removal, after the daemon has stopped and removed the
container: it finds that record, and its allocation is taken off its server. A record that is there can
be destroyed, whatever went before. -/
theorem freed_once_confirmed {f : Fleet κ χ} {issued : List (Reservation κ)}
    (reached : Reached ids (.running f.ledger issued))
    (run : (destroy refused c).Among ids ⟨f, issued⟩ log r u') :
    ((∀ w, r ≠ some (.ok (some w))) →
      (Quiet ids ⟨f, issued⟩ log u' ∧
        (f.registry.workspaces.contains c = true → .removeWorkspace c ∉ calls log →
          u'.fleet.registry.workspaces.contains c = true)) ∨
      ∃ cause earlier found left later w, refused = some ⟨1, cause⟩ ∧
        r = some (.error (.registry (.store cause))) ∧
        log = earlier ++ .step found.fleet left :: later ∧
        Quiet ids ⟨f, issued⟩ earlier found ∧ Confirmed c earlier ∧
        Registry.Torn c w found.fleet.registry left.registry ∧
        Quiet ids (found.after left) later u') ∧
    (∀ w, r = some (.ok (some w)) → ∃ earlier found later,
      log = earlier ++ .step found.fleet (found.fleet.perform (·.removeWorkspace c)).2 :: later ∧
        Quiet ids ⟨f, issued⟩ earlier found ∧ Confirmed c earlier ∧
        Registry.Freed c w found.fleet.registry
          (found.fleet.perform (·.removeWorkspace c)).2.registry ∧
        Quiet ids (found.after (found.fleet.perform (·.removeWorkspace c)).2) later u') ∧
    ∀ (v : InUse κ χ) (w : Workspace κ), v.fleet.registry.workspaces.get? c = some w →
      ∃ again, (destroy none c).Among ids v again (some (.ok (some w)))
        (v.after (v.fleet.perform (·.removeWorkspace c)).2) := by
  refine ⟨?kept, ?freed, fun v w present => ⟨_, destroy_alone ids present⟩⟩
  case kept =>
    intro none
    cases destroy_among run with
    | kept quiet _ =>
      exact .inl ⟨quiet, fun before kept => Ledger.Undergoes.recorded quiet.ledger before kept⟩
    | freed => exact absurd rfl (none _)
    | torn refusal before confirmed torn afterwards =>
      exact .inr ⟨_, _, _, _, _, _, refusal, rfl, rfl, before, confirmed, torn, afterwards⟩
  case freed =>
    rintro w rfl
    cases destroy_among run with
    | kept _ none => exact absurd rfl (none w)
    | @freed earlier later found _ before confirmed present afterwards =>
      have hfound := Ledger.Undergoes.reached before.ledger reached
      exact ⟨earlier, found, later, rfl, before, confirmed,
        hfound.ledger_sound.registry.freed present, afterwards⟩

/-- The daemon does not answer, and on the next attempt it does. -/
theorem freed_once_confirmed_retried :
    let f := WorkspaceFleet.sampleFleet SampleRun.calls
    let u : InUse Rat Unit := ⟨f, SampleRun.unstored.2⟩
    let w : Workspace Rat := .ofReservation SampleRun.hold "c" 0
    ∃ log again, (destroy none "c").Among Registry.Unrecorded u log
        (some (.error (.backend (.unavailable "a" "timed out")))) u ∧
      f.registry.workspaces.contains "c" = true ∧
      (destroy none "c").Among Registry.Unrecorded u again (some (.ok (some w)))
        (u.after (f.perform (·.removeWorkspace "c")).2) ∧
      ∃ (earlier later : List (Moment Rat Unit)) (found : InUse Rat Unit),
        again =
          earlier ++ .step found.fleet (found.fleet.perform (·.removeWorkspace "c")).2 :: later ∧
        Registry.Freed "c" w found.fleet.registry
          (found.fleet.perform (·.removeWorkspace "c")).2.registry := by
  intro f u w
  have present : f.registry.workspaces.get? "c" = some w := by decide +kernel
  have reached : Reached Registry.Unrecorded (.running f.ledger SampleRun.unstored.2) :=
    SampleRun.unstored_reached
  have failed : (destroy none "c").Among Registry.Unrecorded u
      [.step f f, .begun ⟨"a", .stop "c", some (.error (.unavailable "a" "timed out"))⟩]
      (some (.error (.backend (.unavailable "a" "timed out")))) u :=
    .perform present (.answer _ (.finished _))
  obtain ⟨kept, -, retry⟩ := freed_once_confirmed reached failed
  have still : f.registry.workspaces.contains "c" = true := by
    rcases kept nofun with ⟨-, hkept⟩ | ⟨_, _, _, _, _, _, refusal, -⟩
    · exact hkept (Table.contains_of_get? present) (by simp [calls])
    · cases refusal
  obtain ⟨again, run⟩ := retry u w present
  obtain ⟨earlier, found, later, hagain, -, -, hfreed, -⟩ :=
    (freed_once_confirmed reached run).2.1 w rfl
  exact ⟨_, again, failed, still, run, earlier, later, found, hagain, hfreed⟩

end Orchestrator
end WorkspaceFleet
