import WorkspaceFleet.Proofs.Exchanging

/-!
# WorkspaceFleet.Proofs.Classifying

Every way in which sending a request can end, and what comes of it for an operation.

A request finds no free call in time, brings no response, or brings one with some status and some
body (`Sending`). `Operation.Accepts` says with which of these an operation goes on, from its own
table of statuses and of bodies that it reads, and `Client.awaited` which request it then sends.
`Course` is a run by these rules. `courses_exchange` shows for each operation that its exchange keeps
to them, whatever the daemon does, and `Client.perform_classified` says what a caller is told.
-/

namespace WorkspaceFleet

/-- How sending a request ends. -/
inductive Sending where
  /-- No call under way was over in time for another one. -/
  | crowded
  /-- No response came. -/
  | broken (cause : String)
  | answered (r : Response)

namespace Sending

def brings : Sending → Except String Response
  | .crowded => .error Client.crowded
  | .broken cause => .error cause
  | .answered r => .ok r

def response? : Sending → Option Response
  | .answered r => some r
  | _ => none

end Sending

/-- A request, and how sending it ended. -/
abbrev Dispatch := Request × Sending

def responses (log : List Dispatch) : List Response := log.filterMap (·.2.response?)

/-- Takes requests as the daemon does, and writes down each of them and how sending it ended. -/
def logging {σ : Type} (daemon : σ → Request → Sending × σ) (s : σ × List Dispatch) (q : Request) :
    Except String Response × (σ × List Dispatch) :=
  let (sending, next) := daemon s.1 q
  (sending.brings, next, s.2 ++ [(q, sending)])

/-! ## What an operation goes on with -/

namespace Operation

/-- The statuses that are as good as success. -/
def tolerated : Operation Float → List Nat
  | .start _ => [304]
  | .stop _ => [304, 404]
  | .remove _ => [404]
  | .stats _ => [404]
  | .create _ | .exec _ _ | .info => []

def Tolerates (op : Operation Float) (r : Response) : Prop :=
  (200 ≤ r.status ∧ r.status < 300) ∨ r.status ∈ op.tolerated

/-- What the operation reads of the response to the request after `k` others can be read. -/
def Legible : Operation Float → Nat → Response → Prop
  | .create _, _, r => ∃ id, r.value Client.decodeId = .ok id
  | .start _, _, _ | .stop _, _, _ | .remove _, _, _ => True
  | .exec _ _, 0, r => ∃ id, r.value Client.decodeId = .ok id
  | .exec _ _, 1, r => ∃ bytes, r.body = some bytes
  | .exec _ _, _, r => ∃ code, r.value Client.decodeExit = .ok code
  | .stats _, 0, r => r.status = 404 ∨ ∃ state, r.value Client.decodeState = .ok state
  | .stats _, _, r => r.status = 404 ∨ ∃ sample, r.value UsageSample.decode = .ok sample
  | .info, _, r => ∃ info, r.value DaemonInfo.decode = .ok info

def Accepts (op : Operation Float) (k : Nat) (sending : Sending) : Prop :=
  ∃ r, sending = .answered r ∧ op.Tolerates r ∧ op.Legible k r

/-- Why the operation ends with the request after `k` others, and what is then said of it. -/
inductive Fault (op : Operation Float) (k : Nat) : Sending → String → Prop where
  | crowded : Fault op k .crowded Client.crowded
  | broken (cause : String) : Fault op k (.broken cause) cause
  | refused {r : Response} (refused : ¬ op.Tolerates r) : Fault op k (.answered r) r.cause
  | illegible {r : Response} (tolerated : op.Tolerates r) (illegible : ¬ op.Legible k r) :
    Fault op k (.answered r) Response.undecodable

/-- Every entry is one to go on with, where `k` requests came before the first. -/
def AcceptsAll (op : Operation Float) (k : Nat) (log : List Dispatch) : Prop :=
  ∀ i d, log[i]? = some d → op.Accepts (k + i) d.2

variable {op : Operation Float} {k : Nat} {sending : Sending} {cause : String}

theorem Fault.not_accepts (fault : op.Fault k sending cause) : ¬ op.Accepts k sending := by
  rintro ⟨r, rfl, tolerated, legible⟩
  cases fault with
  | refused refused => exact refused tolerated
  | illegible _ illegible => exact illegible legible

theorem Fault.not_acceptsAll {earlier : List Dispatch} {last : Dispatch}
    (fault : op.Fault (k + earlier.length) last.2 cause) :
    ¬ op.AcceptsAll k (earlier ++ [last]) :=
  fun all => fault.not_accepts (all earlier.length last List.getElem?_concat_length)

theorem acceptsAll_nil : op.AcceptsAll k [] := by
  intro i d hd
  cases hd

theorem acceptsAll_cons {d : Dispatch} {log : List Dispatch} :
    op.AcceptsAll k (d :: log) ↔ op.Accepts k d.2 ∧ op.AcceptsAll (k + 1) log := by
  constructor
  · intro h
    refine ⟨h 0 d rfl, fun i e he => ?_⟩
    have := h (i + 1) e he
    rwa [show k + (i + 1) = k + 1 + i by omega] at this
  · rintro ⟨hd, hlog⟩ i e he
    cases i with
    | zero =>
      cases he
      exact hd
    | succ i =>
      have := hlog i e he
      rwa [show k + 1 + i = k + (i + 1) by omega] at this

end Operation

namespace Client

/-- The request that an operation sends after these responses; none if it has what it needs. -/
def awaited (c : Client) : Operation Float → List Response → Option Request
  | .create spec, [] => some {
      method := .post
      path := "/containers/create"
      query := (spec.name.map (fun n => ("name", n))).toList
      body := some (creation spec) }
  | .start id, [] => some (.plain .post (containerPath id "/start"))
  | .stop id, [] => some { Request.plain .post (containerPath id "/stop") with
      query := [("t", Text.Decimal.text c.stopGraceSecs)] }
  | .remove id, [] => some { Request.plain .delete (containerPath id "") with
      query := [("force", "true")] }
  | .exec id cmd, [] => some { Request.plain .post (containerPath id "/exec") with
      body := some (command cmd) }
  | .exec _ _, [created] => (created.value decodeId).toOption.map fun exec =>
      { Request.plain .post ("/exec/" ++ exec ++ "/start") with body := some commandStart }
  | .exec _ _, [created, _] => (created.value decodeId).toOption.map fun exec =>
      .plain .get ("/exec/" ++ exec ++ "/json")
  | .stats id, [] => some (inspection id)
  | .stats id, [inspected] =>
      if inspected.status = 404 then none
      else
        (inspected.value decodeState).toOption.bind fun state =>
          if state.1 then some (measurement id) else none
  | .info, [] => some (.plain .get "/info")
  | _, _ => none

/-! ## Courses -/

variable {σ α : Type} {c : Client} {op : Operation Float} {before : List Response}

/-- A run of an operation from the responses `before` to its end: the request that is due is sent, and
is the last one unless the operation goes on with how that ended. -/
inductive Course (c : Client) (op : Operation Float) :
    List Response → List Dispatch → Except String α → Prop where
  | done {before : List Response} {a : α} (complete : c.awaited op before = none) :
    Course c op before [] (.ok a)
  | gaveUp {before : List Response} {q : Request} {sending : Sending} {cause : String}
      (due : c.awaited op before = some q) (fault : op.Fault before.length sending cause) :
    Course c op before [(q, sending)] (.error cause)
  | wentOn {before : List Response} {q : Request} {r : Response} {log : List Dispatch}
      {result : Except String α} (due : c.awaited op before = some q)
      (tolerated : op.Tolerates r) (legible : op.Legible before.length r)
      (rest : Course c op (before ++ [r]) log result) :
    Course c op before ((q, .answered r) :: log) result

/-- The exchange takes such a course with every daemon. -/
structure Courses (c : Client) (op : Operation Float) (before : List Response) (ex : Exchange α) :
    Prop where
  run : ∀ {σ : Type} (daemon : σ → Request → Sending × σ) (s : σ) (logged : List Dispatch),
    ∃ log, (ex.run (logging daemon) (s, logged)).2.2 = logged ++ log ∧
      Course c op before log (ex.run (logging daemon) (s, logged)).1

theorem courses_done {a : α} (complete : c.awaited op before = none) :
    Courses c op before (.done (.ok a)) :=
  ⟨fun _ _ logged => ⟨[], (List.append_nil logged).symm, .done complete⟩⟩

theorem accepted_iff_tolerates {r : Response} :
    (r.isSuccess || op.tolerated.contains r.status) = true ↔ op.Tolerates r := by
  have hbelow : r.status ≤ 299 ↔ r.status < 300 := Nat.lt_succ_iff.symm
  simp [Response.isSuccess, Operation.Tolerates, hbelow]

/-- One request: the operation goes on if it tolerates the status and can read the body. -/
theorem courses_expect {q : Request} {next : Response → Exchange α}
    (due : c.awaited op before = some q)
    (illegible : ∀ r, op.Tolerates r → ¬ op.Legible before.length r →
      next r = .done (.error Response.undecodable))
    (legible : ∀ r, op.Tolerates r → op.Legible before.length r →
      Courses c op (before ++ [r]) (next r)) :
    Courses c op before (.expect q op.tolerated next) := by
  refine ⟨fun daemon s logged => ?_⟩
  rw [Exchange.expect, Exchange.run]
  cases hsending : daemon s q with
  | mk sending s' =>
    have hlogging : logging daemon (s, logged) q =
        (sending.brings, s', logged ++ [(q, sending)]) := by
      rw [logging, hsending]
    rw [hlogging]
    cases sending with
    | crowded => exact ⟨[(q, .crowded)], rfl, .gaveUp due .crowded⟩
    | broken cause => exact ⟨[(q, .broken cause)], rfl, .gaveUp due (.broken cause)⟩
    | answered r =>
      dsimp only [Sending.brings]
      by_cases htolerated : op.Tolerates r
      · rw [if_pos (accepted_iff_tolerates.2 htolerated)]
        by_cases hlegible : op.Legible before.length r
        · obtain ⟨log, hlog, hcourse⟩ :=
            (legible r htolerated hlegible).run daemon s' (logged ++ [(q, .answered r)])
          refine ⟨(q, .answered r) :: log, ?_, .wentOn due htolerated hlegible hcourse⟩
          rw [hlog, List.append_assoc]
          rfl
        · rw [illegible r htolerated hlegible]
          exact ⟨[(q, .answered r)], rfl, .gaveUp due (.illegible htolerated hlegible)⟩
      · rw [if_neg fun h => htolerated (accepted_iff_tolerates.1 h)]
        exact ⟨[(q, .answered r)], rfl, .gaveUp due (.refused htolerated)⟩

/-! ## Operations -/

theorem document_eq_error {r : Response} {cause : String} (h : r.document = .error cause) :
    cause = Response.undecodable := by
  rw [Response.document] at h
  split at h
  · cases h
    rfl
  · next s _ =>
    cases hparse : Json.parse s with
    | none =>
      rw [hparse] at h
      cases h
      rfl
    | some d =>
      rw [hparse] at h
      cases h

/-- There is one cause for which a body cannot be read. -/
theorem value_of_illegible {β : Type} {r : Response} {read : Document Float → Decoded β}
    (illegible : ¬ ∃ b, r.value read = .ok b) : r.value read = .error Response.undecodable := by
  cases hdocument : r.document with
  | error cause =>
    rw [Response.value, hdocument, document_eq_error hdocument]
    rfl
  | ok d =>
    cases hread : read d with
    | error e =>
      rw [Response.value, hdocument]
      show (read d).mapError _ = _
      rw [hread]
      rfl
    | ok b => exact absurd ⟨b, Response.value_eq_ok.2 ⟨d, hdocument, hread⟩⟩ illegible

theorem courses_create (spec : ContainerSpec Float) :
    Courses c (.create spec) [] (createExchange spec) := by
  refine courses_expect rfl (fun r _ illegible => ?_) fun r _ legible => ?_
  · rw [value_of_illegible illegible]
  · obtain ⟨id, hid⟩ := legible
    rw [hid]
    exact courses_done rfl

theorem courses_start (id : String) : Courses c (.start id) [] (startExchange id) :=
  courses_expect rfl (fun _ _ illegible => absurd trivial illegible) fun _ _ _ => courses_done rfl

theorem courses_stop (id : String) :
    Courses c (.stop id) [] (stopExchange c.stopGraceSecs id) :=
  courses_expect rfl (fun _ _ illegible => absurd trivial illegible) fun _ _ _ => courses_done rfl

theorem courses_remove (id : String) : Courses c (.remove id) [] (removeExchange id) :=
  courses_expect rfl (fun _ _ illegible => absurd trivial illegible) fun _ _ _ => courses_done rfl

theorem courses_exec (id : String) (cmd : List String) :
    Courses c (.exec id cmd) [] (execExchange id cmd) := by
  refine courses_expect rfl (fun created _ illegible => ?_) fun created _ legible => ?_
  · rw [value_of_illegible illegible]
    rfl
  obtain ⟨exec, hexec⟩ := legible
  have hdescribed : (created.value decodeId).toOption = some exec := by rw [hexec]; rfl
  have hstart : c.awaited (.exec id cmd) [created] = some
      { Request.plain .post ("/exec/" ++ exec ++ "/start") with body := some commandStart } := by
    rw [awaited, hdescribed]
    rfl
  rw [hexec]
  refine courses_expect hstart (fun started _ illegible => ?_) fun started _ legible => ?_
  · cases hbody : started.body with
    | none => rfl
    | some bytes => exact absurd ⟨bytes, hbody⟩ illegible
  obtain ⟨bytes, hbytes⟩ := legible
  have hinspect : c.awaited (.exec id cmd) [created, started] =
      some (.plain .get ("/exec/" ++ exec ++ "/json")) := by
    rw [awaited, hdescribed]
    rfl
  simp only [hbytes]
  refine courses_expect hinspect (fun inspected _ illegible => ?_) fun inspected _ legible => ?_
  · rw [value_of_illegible illegible]
    rfl
  · obtain ⟨code, hcode⟩ := legible
    rw [hcode]
    exact courses_done rfl

theorem courses_stats (id : String) : Courses c (.stats id) [] (statsExchange id) := by
  refine courses_expect rfl (fun inspected _ illegible => ?_) fun inspected _ legible => ?_
  · rw [if_neg fun h => illegible (.inl h), value_of_illegible fun h => illegible (.inr h)]
    rfl
  by_cases hunknown : inspected.status = 404
  · rw [if_pos hunknown]
    exact courses_done (by rw [List.nil_append, awaited, if_pos hunknown])
  obtain ⟨state, hstate⟩ := legible.resolve_left hunknown
  have hdue : c.awaited (.stats id) [inspected] =
      if state.1 then some (measurement id) else none := by
    rw [awaited, if_neg hunknown, hstate]
    rfl
  rw [if_neg hunknown, hstate, Exchange.andThen]
  split
  · next hidle => exact courses_done (hdue.trans (if_neg hidle))
  next hrunning =>
  refine courses_expect (hdue.trans (if_pos (not_not.1 hrunning)))
    (fun measured _ illegible => ?_) fun measured _ legible => ?_
  · rw [if_neg fun h => illegible (.inl h), value_of_illegible fun h => illegible (.inr h)]
    rfl
  · split
    · exact courses_done rfl
    · next hknown =>
      obtain ⟨sample, hsample⟩ := legible.resolve_left hknown
      rw [hsample]
      exact courses_done rfl

theorem courses_info : Courses c .info [] infoExchange := by
  refine courses_expect rfl (fun r _ illegible => ?_) fun r _ legible => ?_
  · rw [value_of_illegible illegible]
  · obtain ⟨info, hinfo⟩ := legible
    rw [hinfo]
    exact courses_done rfl

/-- **Every operation keeps to its course**, whatever becomes of its requests. -/
theorem courses_exchange (c : Client) (op : Operation Float) :
    Courses c op [] (c.exchange op) := by
  cases op with
  | create spec => exact courses_create spec
  | start id => exact courses_start id
  | stop id => exact courses_stop id
  | remove id => exact courses_remove id
  | exec id cmd => exact courses_exec id cmd
  | stats id => exact courses_stats id
  | info => exact courses_info

/-! ## What is told -/

namespace Course

variable {log : List Dispatch} {result : Except String α}

/-- Each request that was sent was due after the responses before it. -/
theorem due (course : Course c op before log result) {i : Nat} {d : Dispatch}
    (hd : log[i]? = some d) : c.awaited op (before ++ responses (log.take i)) = some d.1 := by
  induction course generalizing i with
  | done => cases hd
  | gaveUp due =>
    cases i with
    | zero =>
      cases hd
      rw [List.take_zero, responses, List.filterMap_nil, List.append_nil]
      exact due
    | succ i => cases hd
  | @wentOn before q r log result due _ _ _ ih =>
    cases i with
    | zero =>
      cases hd
      rw [List.take_zero, responses, List.filterMap_nil, List.append_nil]
      exact due
    | succ i =>
      have := ih hd
      rwa [List.append_assoc] at this

/-- It ends well after requests that all went well, and no other is due; or the last request, and no
other, is at fault. -/
theorem ends (course : Course c op before log result) :
    (∃ a, result = .ok a ∧ op.AcceptsAll before.length log ∧
      c.awaited op (before ++ responses log) = none) ∨
    ∃ earlier last cause, log = earlier ++ [last] ∧ op.AcceptsAll before.length earlier ∧
      op.Fault (before.length + earlier.length) last.2 cause ∧ result = .error cause := by
  induction course with
  | done complete =>
    refine .inl ⟨_, rfl, Operation.acceptsAll_nil, ?_⟩
    rwa [responses, List.filterMap_nil, List.append_nil]
  | gaveUp _ fault =>
    exact .inr ⟨[], _, _, rfl, Operation.acceptsAll_nil, fault, rfl⟩
  | @wentOn before q r log result _ tolerated legible _ ih =>
    rw [List.length_append, List.length_singleton] at ih
    have haccepts : op.Accepts before.length (.answered r) := ⟨r, rfl, tolerated, legible⟩
    rcases ih with ⟨a, hresult, hlog, hcomplete⟩ |
      ⟨earlier, last, cause, rfl, hearlier, hfault, hresult⟩
    · refine .inl ⟨a, hresult, Operation.acceptsAll_cons.2 ⟨haccepts, hlog⟩, ?_⟩
      rw [List.append_assoc] at hcomplete
      exact hcomplete
    · refine .inr ⟨(q, .answered r) :: earlier, last, cause, rfl,
        Operation.acceptsAll_cons.2 ⟨haccepts, hearlier⟩, ?_, hresult⟩
      rwa [List.length_cons, show before.length + (earlier.length + 1) =
        before.length + 1 + earlier.length by omega]

end Course

/-- **Whatever a daemon brings, a caller is told of it in one of two ways.** Where every request that
was sent was accepted there is an answer, and no request was left out; otherwise the last request that
was sent, and none before it, is at fault, and the server is said to be unavailable for that cause. -/
theorem perform_classified (c : Client) (op : Operation Float)
    (daemon : σ → Request → Sending × σ) (s : σ) :
    let run := c.perform (logging daemon) op (s, [])
    let log := run.2.2
    ((∃ answer, run.1 = .ok answer) ↔ op.AcceptsAll 0 log) ∧
    ((∃ answer, run.1 = .ok answer) → c.awaited op (responses log) = none) ∧
    (¬ op.AcceptsAll 0 log → ∃ earlier last cause, log = earlier ++ [last] ∧
      op.AcceptsAll 0 earlier ∧ op.Fault earlier.length last.2 cause ∧
      run.1 = .error (.unavailable c.serverId cause)) ∧
    ∀ i d, log[i]? = some d → c.awaited op (responses (log.take i)) = some d.1 := by
  intro run log
  obtain ⟨sent, hsent, course⟩ := (courses_exchange c op).run daemon s []
  have hlog : log = sent := hsent.trans (List.nil_append sent)
  have hrun : run.1 = ((c.exchange op).run (logging daemon) (s, [])).1.mapError
      (.unavailable c.serverId) := rfl
  rw [hlog, hrun]
  rcases course.ends with ⟨a, hresult, haccepted, hcomplete⟩ |
    ⟨earlier, last, cause, rfl, hearlier, hfault, hresult⟩
  case inl =>
    rw [hresult]
    exact ⟨iff_of_true ⟨a, rfl⟩ haccepted, fun _ => hcomplete,
      fun refused => absurd haccepted refused, fun i d hd => course.due hd⟩
  case inr =>
    rw [List.length_nil] at hearlier hfault
    have hrefused := hfault.not_acceptsAll
    rw [Nat.zero_add] at hfault
    rw [hresult]
    exact ⟨iff_of_false nofun hrefused, nofun,
      fun _ => ⟨earlier, last, cause, rfl, hearlier, hfault, rfl⟩, fun i d hd => course.due hd⟩

/-- Every operation has its time if the longest of them, a stop, has. -/
theorem timeLimit_inRange (short : c.callTimeout.secs + c.stopGraceSecs < word64)
    (op : Operation Float) : (c.timeLimit op).InRange := by
  cases op with
  | stop id =>
    show (c.callTimeout.nanos + c.stopGraceSecs * Duration.second) / Duration.second < word64
    rw [Nat.add_mul_div_right _ _ (by decide)]
    exact short
  | _ => exact Nat.lt_of_le_of_lt (Nat.le_add_right _ _) short

/-! ## Two runs -/

namespace ClassifiedRun

def client : Client := ⟨"srv-1", "http://daemon", 4, .ofSecs 10, 10⟩

/-- Brings one thing after the other. -/
def scripted : List Sending → Request → Sending × List Sending
  | [], _ => (.broken "", [])
  | sending :: rest, _ => (sending, rest)

def answer (status : Nat) (body : String) : Sending :=
  .answered ⟨status, some (Text.Utf8.encode body)⟩

def probe : Operation Float := .exec "c" ["true"]

/-- The command is described, but there is no turn for its start. -/
def described : List Sending := [answer 201 "\x7b\"Id\": \"e\"\x7d", .crowded, answer 200 ""]

def commanded : Except BackendError ExecResult × (List Sending × List Dispatch) :=
  client.perform (logging scripted) probe (described, [])

/-- The container runs, and is gone when it is to be measured. -/
def vanished : List Sending :=
  [answer 200 "\x7b\"State\": \x7b\"Running\": true\x7d\x7d", answer 404 "no such container"]

def measured : Except BackendError (ContainerStats Float) × (List Sending × List Dispatch) :=
  client.perform (logging scripted) (.stats "c") (vanished, [])

end ClassifiedRun

open ClassifiedRun in
/-- Of the three requests of a command the second has no turn, so the third is not sent; and a status
that is a failure for a command is an answer about a container. -/
theorem perform_classified_crowded :
    ¬ probe.AcceptsAll 0 commanded.2.2 ∧ commanded.2.2.length = 2 ∧
    commanded.1 = .error (.unavailable "srv-1" crowded) ∧
    (Operation.stats "c").AcceptsAll 0 measured.2.2 ∧ measured.2.2.length = 2 ∧
    (∃ answer, measured.1 = .ok answer) := by
  have hcommanded := perform_classified client probe scripted described
  have hmeasured := perform_classified client (.stats "c") scripted vanished
  have hcrowded : commanded.1 = .error (.unavailable "srv-1" crowded) := by decide +kernel
  have hmissing : measured.1.isOk = true := by decide +kernel
  have hanswer : ∃ answer, measured.1 = .ok answer := by
    cases h : measured.1 with
    | error e =>
      rw [h] at hmissing
      cases hmissing
    | ok answer => exact ⟨answer, rfl⟩
  refine ⟨fun all => ?_, by decide +kernel, hcrowded, hmeasured.1.1 hanswer, by decide +kernel,
    hanswer⟩
  obtain ⟨answer, hanswer⟩ := hcommanded.1.2 all
  cases hcrowded.symm.trans hanswer

end Client
end WorkspaceFleet
