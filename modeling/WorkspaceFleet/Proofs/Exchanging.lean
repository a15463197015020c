import WorkspaceFleet.Client
import WorkspaceFleet.Proofs.Results

/-!
# WorkspaceFleet.Proofs.Exchanging

Exchanges with a daemon that may answer anything or nothing.

`Exchange.Brings` relates an exchange to the requests that it sends, what each of them brings, and
what the exchange comes to. `exists_brings_iff` says that it is what `Exchange.run` can do.
`Client.stats_gone_iff` tells from the responses alone when a container is reported as not running:
exactly on one of the kinds of `Client.Evidence`, and never for want of an answer.
-/

namespace WorkspaceFleet

/-- A request, and what it brought. -/
abbrev Sent := Request × Except String Response

namespace Exchange

variable {α β σ : Type}

/-- How an exchange can go from its beginning to its end. -/
inductive Brings : Exchange α → List Sent → Except String α → Prop where
  | done {result : Except String α} : Brings (.done result) [] result
  | failed {q : Request} {next : Response → Exchange α} (cause : String) :
      Brings (.send q next) [(q, .error cause)] (.error cause)
  | responded {q : Request} {next : Response → Exchange α} {log : List Sent}
      {result : Except String α} (r : Response) (rest : Brings (next r) log result) :
      Brings (.send q next) ((q, .ok r) :: log) result

/-- An exchange that has come so far waits for a response. -/
inductive Waits : Exchange α → List Sent → Prop where
  | here {q : Request} {next : Response → Exchange α} : Waits (.send q next) []
  | later {q : Request} {next : Response → Exchange α} {log : List Sent} (r : Response)
      (rest : Waits (next r) log) : Waits (.send q next) ((q, .ok r) :: log)

theorem exists_brings_run (take : σ → Request → Except String Response × σ) (ex : Exchange α)
    (s : σ) : ∃ log, ex.Brings log (ex.run take s).1 := by
  induction ex generalizing s with
  | done result => exact ⟨[], .done⟩
  | send q next ih =>
    rw [run]
    cases take s q with
    | mk brought s' =>
      cases brought with
      | ok r =>
        obtain ⟨log, hlog⟩ := ih r s'
        exact ⟨(q, .ok r) :: log, .responded r hlog⟩
      | error cause => exact ⟨[(q, .error cause)], .failed cause⟩

/-- A daemon that brings one thing after the other. -/
def replay : List (Except String Response) → Request →
    Except String Response × List (Except String Response)
  | [], _ => (.error "", [])
  | brought :: rest, _ => (brought, rest)

theorem Brings.run_replay {ex : Exchange α} {log : List Sent} {result : Except String α}
    (h : ex.Brings log result) : ex.run replay (log.map (·.2)) = (result, []) := by
  induction h with
  | done => rfl
  | failed cause => rfl
  | responded r rest ih => exact ih

/-- **What exchanges can come to** is what some daemon makes them come to. -/
theorem exists_brings_iff {ex : Exchange α} {result : Except String α} :
    (∃ log, ex.Brings log result) ↔
      ∃ (σ : Type) (take : σ → Request → Except String Response × σ) (s : σ),
        (ex.run take s).1 = result := by
  constructor
  · rintro ⟨log, h⟩
    exact ⟨_, replay, log.map (·.2), by rw [h.run_replay]⟩
  · rintro ⟨σ, take, s, rfl⟩
    exact exists_brings_run take ex s

/-! ## Inversion -/

variable {log : List Sent} {result : Except String α} {q : Request} {tolerated : List Nat}
  {next : Response → Exchange α}

theorem brings_done {r : Except String α} : (done r).Brings log result ↔ log = [] ∧ result = r := by
  constructor
  · intro h
    cases h
    exact ⟨rfl, rfl⟩
  · rintro ⟨rfl, rfl⟩
    exact .done

theorem brings_expect (h : (expect q tolerated next).Brings log result) :
    (∃ cause, log = [(q, .error cause)] ∧ result = .error cause) ∨
    ∃ r rest, log = (q, .ok r) :: rest ∧
      if r.isSuccess || tolerated.contains r.status then (next r).Brings rest result
      else rest = [] ∧ result = .error r.cause := by
  cases h with
  | failed cause => exact .inl ⟨cause, rfl, rfl⟩
  | responded r rest =>
    refine .inr ⟨r, _, rfl, ?_⟩
    dsimp only at rest
    split
    · next haccepted => rwa [if_pos haccepted] at rest
    · next hrefused =>
      rw [if_neg hrefused] at rest
      exact brings_done.1 rest

theorem waits_expect (h : (expect q tolerated next).Waits log) :
    log = [] ∨ ∃ r rest, log = (q, .ok r) :: rest ∧
      (r.isSuccess || tolerated.contains r.status) = true ∧ (next r).Waits rest := by
  cases h with
  | here => exact .inl rfl
  | later r rest =>
    refine .inr ⟨r, _, rfl, ?_⟩
    dsimp only at rest
    split at rest
    · next haccepted => exact ⟨haccepted, rest⟩
    · cases rest

end Exchange

/-! ## Fields of documents -/

namespace Document

variable {α : Type} {fields : List (String × Document Float)} {name : String}
  {read : Document Float → Decoded α} {a : α}

theorem field_eq_ok :
    field fields name read = .ok a ↔ ∃ d, fields.lookup name = some d ∧ read d = .ok a := by
  cases h : fields.lookup name with
  | none => simp [field, h]
  | some d => simp [field, h]

theorem fieldD_eq_ok {fallback : α} :
    fieldD fields name read fallback = .ok a ↔
      (∃ d, fields.lookup name = some d ∧ read d = .ok a) ∨
        fields.lookup name = none ∧ a = fallback := by
  cases h : fields.lookup name with
  | none => simp [fieldD, h, eq_comm]
  | some d => simp [fieldD, h]

theorem asBool_eq_ok_iff {d : Document Float} {b : Bool} : asBool d = .ok b ↔ d = .bool b := by
  cases d <;> simp [asBool]

theorem asText_eq_ok_iff {d : Document Float} {t : String} : asText d = .ok t ↔ d = .text t := by
  cases d <;> simp [asText]

end Document

/-! ## What is said of a container -/

namespace Response

/-- A successful response whose body can be read as the description of a container, where `state`
are the fields under State. -/
structure Describes (r : Response) (state : List (String × Document Float)) : Prop where
  success : r.isSuccess = true
  decoded : ∃ d fields s, r.document = .ok d ∧ d.asFields ["State"] = .ok fields ∧
    fields.lookup "State" = some s ∧ s.asFields ["Status", "Running"] = .ok state
  status : ∀ s, state.lookup "Status" = some s → ∃ t, s = .text t

/-- A successful response that is taken to say whether a container runs. -/
def Tells (r : Response) (running : Bool) : Prop :=
  r.isSuccess = true ∧ ∃ word, r.value Client.decodeState = .ok (running, word)

theorem value_eq_ok {α : Type} {r : Response} {read : Document Float → Decoded α} {a : α} :
    r.value read = .ok a ↔ ∃ d, r.document = .ok d ∧ read d = .ok a := by
  simp only [value, bind_eq_ok, mapError_eq_ok]

theorem decodeState_eq_ok {d : Document Float} {running : Bool} {word : String} :
    Client.decodeState d = .ok (running, word) ↔ ∃ fields s state,
      d.asFields ["State"] = .ok fields ∧ fields.lookup "State" = some s ∧
      s.asFields ["Status", "Running"] = .ok state ∧
      Document.fieldD state "Status" Document.asText "" = .ok word ∧
      Document.fieldD state "Running" Document.asBool false = .ok running := by
  simp only [Client.decodeState, bind_eq_ok, pure_eq_ok, Document.field_eq_ok, Prod.mk.injEq]
  constructor
  · rintro ⟨fields, hfields, state, ⟨s, hs, hstate⟩, word', hword, running', hrunning, rfl, rfl⟩
    exact ⟨fields, s, state, hfields, hs, hstate, hword, hrunning⟩
  · rintro ⟨fields, s, state, hfields, hs, hstate, hword, hrunning⟩
    exact ⟨fields, hfields, state, ⟨s, hs, hstate⟩, word, hword, running, hrunning, rfl, rfl⟩

/-- What is not said to run is taken not to run. -/
theorem tells_iff {r : Response} {running : Bool} :
    r.Tells running ↔ ∃ state, r.Describes state ∧
      (state.lookup "Running" = some (.bool running) ∨
        state.lookup "Running" = none ∧ running = false) := by
  simp only [Tells, value_eq_ok, decodeState_eq_ok]
  constructor
  · rintro ⟨hsuccess, word, d, hd, fields, s, state, hfields, hs, hstate, hword, hrunning⟩
    refine ⟨state, ⟨hsuccess, ⟨d, fields, s, hd, hfields, hs, hstate⟩, ?_⟩, ?_⟩
    · intro status hstatus
      rcases Document.fieldD_eq_ok.1 hword with ⟨status', hlookup, htext⟩ | ⟨hnone, -⟩
      · rw [hstatus] at hlookup
        cases hlookup
        exact ⟨word, Document.asText_eq_ok_iff.1 htext⟩
      · rw [hstatus] at hnone
        cases hnone
    · rcases Document.fieldD_eq_ok.1 hrunning with ⟨b, hlookup, hbool⟩ | hmissing
      · rw [Document.asBool_eq_ok_iff.1 hbool] at hlookup
        exact .inl hlookup
      · exact .inr hmissing
  · rintro ⟨state, ⟨hsuccess, ⟨d, fields, s, hd, hfields, hs, hstate⟩, hstatus⟩, hrunning⟩
    have hword : ∃ word, Document.fieldD state "Status" Document.asText "" = .ok word := by
      cases hlookup : state.lookup "Status" with
      | none => exact ⟨"", Document.fieldD_eq_ok.2 (.inr ⟨hlookup, rfl⟩)⟩
      | some status =>
        obtain ⟨t, rfl⟩ := hstatus status hlookup
        exact ⟨t, Document.fieldD_eq_ok.2 (.inl ⟨_, hlookup, rfl⟩)⟩
    obtain ⟨word, hword⟩ := hword
    refine ⟨hsuccess, word, d, hd, fields, s, state, hfields, hs, hstate, hword,
      Document.fieldD_eq_ok.2 ?_⟩
    exact hrunning.imp_left fun hlookup => ⟨_, hlookup, rfl⟩

end Response

namespace Client

def inspection (id : String) : Request := .plain .get (containerPath id "/json")

def measurement (id : String) : Request :=
  { Request.plain .get (containerPath id "/stats") with query := [("stream", "false")] }

/-- What a daemon must bring for a container to count as gone: it does not know the container, it
describes it and does not say that it runs, or it says so and then does not know it any more. -/
inductive Evidence (id : String) : List Sent → Prop where
  | missing {r : Response} (unknown : r.status = 404) : Evidence id [(inspection id, .ok r)]
  | stopped {r : Response} {state : List (String × Document Float)} (described : r.Describes state)
      (idle : state.lookup "Running" = none ∨ state.lookup "Running" = some (.bool false)) :
      Evidence id [(inspection id, .ok r)]
  | vanished {r m : Response} {state : List (String × Document Float)}
      (described : r.Describes state) (running : state.lookup "Running" = some (.bool true))
      (unknown : m.status = 404) :
      Evidence id [(inspection id, .ok r), (measurement id, .ok m)]

variable {id : String} {log : List Sent} {result : Except String (ContainerStats Float)}

theorem evidence_inspected {r : Response} :
    Evidence id [(inspection id, .ok r)] ↔ r.status = 404 ∨ r.Tells false := by
  constructor
  · intro h
    cases h with
    | missing unknown => exact .inl unknown
    | stopped described idle =>
      refine .inr (Response.tells_iff.2 ⟨_, described, ?_⟩)
      exact idle.symm.imp_right fun hnone => ⟨hnone, rfl⟩
  · rintro (hunknown | htold)
    · exact .missing hunknown
    · obtain ⟨state, hdescribed, hstate⟩ := Response.tells_iff.1 htold
      exact .stopped hdescribed (hstate.symm.imp_left And.left)

theorem evidence_measured {r m : Response} :
    Evidence id [(inspection id, .ok r), (measurement id, .ok m)] ↔
      r.Tells true ∧ m.status = 404 := by
  constructor
  · intro h
    cases h with
    | vanished described running unknown =>
      exact ⟨Response.tells_iff.2 ⟨_, described, .inl running⟩, unknown⟩
  · rintro ⟨htold, hunknown⟩
    obtain ⟨state, hdescribed, hstate⟩ := Response.tells_iff.1 htold
    rcases hstate with hrunning | ⟨-, hfalse⟩
    · exact .vanished hdescribed hrunning hunknown
    · cases hfalse

/-- The exchange after a container was said to run. -/
def measuring (id word : String) : Exchange (ContainerStats Float) :=
  .expect (measurement id) [404] fun m =>
    if m.status = 404 then .done (.ok .missing)
    else
      .done ((m.value UsageSample.decode).map (fun sample =>
        { running := true
          cpuPercent := sample.cpuPercent
          memoryUsageMb := sample.memoryUsageMb
          state := word }))

/-- The exchange after the daemon answered about a container that it knows. -/
def describing (id : String) (r : Response) : Exchange (ContainerStats Float) :=
  .andThen (r.value decodeState) fun state =>
    if ¬state.1 then .done (.ok (.stopped state.2)) else measuring id state.2

theorem accepted_iff {r : Response} :
    (r.isSuccess || [404].contains r.status) = true ↔ r.isSuccess = true ∨ r.status = 404 := by
  simp

theorem gone_iff_of_not (running : ∀ s, result = .ok s → s.running = true)
    (none : ¬ Evidence id log) :
    (∃ s, result = .ok s ∧ s.running = false) ↔ Evidence id log := by
  refine iff_of_false ?_ none
  rintro ⟨s, hs, hidle⟩
  rw [running s hs] at hidle
  cases hidle

/-- A container that was said to run is reported as not running only if it is then not known. -/
theorem measuring_gone {word : String} {r : Response} (told : r.Tells true)
    (h : (measuring id word).Brings log result) :
    (∃ s, result = .ok s ∧ s.running = false) ↔ Evidence id ((inspection id, .ok r) :: log) := by
  rcases Exchange.brings_expect h with ⟨cause, rfl, rfl⟩ | ⟨m, rest, rfl, hmeasured⟩
  · exact gone_iff_of_not nofun nofun
  · by_cases hunknown : m.status = 404
    · rw [if_pos (accepted_iff.2 (.inr hunknown)), if_pos hunknown] at hmeasured
      obtain ⟨rfl, rfl⟩ := Exchange.brings_done.1 hmeasured
      exact iff_of_true ⟨_, rfl, rfl⟩ (evidence_measured.2 ⟨told, hunknown⟩)
    · rw [if_neg hunknown] at hmeasured
      split at hmeasured
      · obtain ⟨rfl, hresult⟩ := Exchange.brings_done.1 hmeasured
        refine gone_iff_of_not ?_ fun hevidence => hunknown (evidence_measured.1 hevidence).2
        rintro s rfl
        obtain ⟨sample, -, rfl⟩ := map_eq_ok.1 hresult.symm
        rfl
      · obtain ⟨rfl, rfl⟩ := hmeasured
        exact gone_iff_of_not nofun fun hevidence => hunknown (evidence_measured.1 hevidence).2

/-- A container that the daemon knows. -/
theorem describing_gone {r : Response} (success : r.isSuccess = true) (known : r.status ≠ 404)
    (h : (describing id r).Brings log result) :
    (∃ s, result = .ok s ∧ s.running = false) ↔ Evidence id ((inspection id, .ok r) :: log) := by
  rw [describing] at h
  cases hvalue : r.value decodeState with
  | error cause =>
    rw [hvalue] at h
    obtain ⟨rfl, rfl⟩ := Exchange.brings_done.1 h
    refine gone_iff_of_not nofun fun hevidence => ?_
    rcases evidence_inspected.1 hevidence with hunknown | ⟨-, word, htold⟩
    · exact known hunknown
    · rw [hvalue] at htold
      cases htold
  | ok told =>
    obtain ⟨running, word⟩ := told
    rw [hvalue] at h
    cases running with
    | true => exact measuring_gone ⟨success, word, hvalue⟩ h
    | false =>
      obtain ⟨rfl, rfl⟩ := Exchange.brings_done.1 h
      exact iff_of_true ⟨_, rfl, rfl⟩ (evidence_inspected.2 (.inr ⟨success, word, hvalue⟩))

/-- **When a container is reported as not running**: if and only if there is evidence of it. -/
theorem stats_gone_iff (h : (statsExchange id).Brings log result) :
    (∃ s, result = .ok s ∧ s.running = false) ↔ Evidence id log := by
  rcases Exchange.brings_expect h with ⟨cause, rfl, rfl⟩ | ⟨r, rest, rfl, hinspected⟩
  · exact gone_iff_of_not nofun nofun
  · by_cases hunknown : r.status = 404
    · rw [if_pos (accepted_iff.2 (.inr hunknown)), if_pos hunknown] at hinspected
      obtain ⟨rfl, rfl⟩ := Exchange.brings_done.1 hinspected
      exact iff_of_true ⟨_, rfl, rfl⟩ (evidence_inspected.2 (.inl hunknown))
    · rw [if_neg hunknown] at hinspected
      by_cases hsuccess : r.isSuccess = true
      · rw [if_pos (accepted_iff.2 (.inl hsuccess))] at hinspected
        exact describing_gone hsuccess hunknown hinspected
      · rw [if_neg fun h => (accepted_iff.1 h).elim hsuccess hunknown] at hinspected
        obtain ⟨rfl, rfl⟩ := hinspected
        refine gone_iff_of_not nofun fun hevidence => ?_
        exact (evidence_inspected.1 hevidence).elim hunknown fun htold => hsuccess htold.1

/-- As long as a response is awaited there is no evidence. -/
theorem not_evidence_of_waits (h : (statsExchange id).Waits log) : ¬ Evidence id log := by
  intro hevidence
  rcases Exchange.waits_expect h with rfl | ⟨r, rest, rfl, -, hwaits⟩
  · cases hevidence
  · split at hwaits
    · cases hwaits
    · next hknown =>
      cases hvalue : r.value decodeState with
      | error cause =>
        rw [hvalue] at hwaits
        cases hwaits
      | ok told =>
        obtain ⟨running, word⟩ := told
        rw [hvalue] at hwaits
        cases running with
        | false => cases hwaits
        | true =>
          rcases Exchange.waits_expect hwaits with rfl | ⟨m, rest, rfl, -, hwaits⟩
          · rcases evidence_inspected.1 hevidence with hunknown | ⟨-, word', htold⟩
            · exact hknown hunknown
            · rw [hvalue] at htold
              cases htold
          · split at hwaits <;> cases hwaits

end Client
end WorkspaceFleet
