import WorkspaceFleet.Simulation.World

/-!
# WorkspaceFleet.Simulation.Scheduler

How work proceeds in a simulated fleet.

A `Plan` is work to be done, a `Strand` is work under way. The strand goes on as far as it can, then the
tasks have their turns, and when nothing can run any more the clock moves to the next time at which
something can.
-/

namespace WorkspaceFleet
namespace Simulation

inductive CheckProgress where
  | concluded (finding : Finding)
  | crashed
  | waiting (state : CheckState)

inductive Plan (ρ : Type) where
  | instant (step : World → ρ × World)
  /-- It waits for daemons; possibly it is abandoned after a number of milliseconds, with a result for
  that. -/
  | activity (work : Activity Float Unit ρ) (limit : Option (Nat × ρ))
  | round (kind : RoundKind) (finish : Option RoundSummary → ρ)
  /-- The monitor's loops, for a number of milliseconds. -/
  | loops (ms : Nat) (stopped abandon : Bool) (result : ρ)
  | sleep (ms : Nat) (result : ρ)
  | join (parts : List (Plan ρ)) (combine : List ρ → ρ)

inductive Strand (ρ : Type) where
  | finished (result : ρ)
  /-- It waits for an answer, and is abandoned at a time. -/
  | calling (op : Operation Float) (call : PendingCall) (limit : Option (Nat × ρ))
      (abandon : Fleet Float Unit → Fleet Float Unit)
      (next : Except BackendError op.Answer → Activity Float Unit ρ)
  | round (id : Nat) (finish : Option RoundSummary → ρ)
  /-- Loops that are told to end at a time, if they have not been told. -/
  | loops (group : Nat) (tasks : List Nat) (until? : Option Nat) (signal : Signal) (result : ρ)
  | sleeping (until_ : Nat) (result : ρ)
  | join (parts : List (Strand ρ)) (combine : List ρ → ρ)

variable {ρ : Type}

namespace World

/-! ## Checks -/

/-- Takes a check as far as it goes without waiting. -/
def driveCheck (w : World) : Check Float Finding → CheckProgress × World
  | .conclude f => (.concluded f, w)
  | .ask serverId op limit next =>
    match w.beginCall serverId op with
    | (.error e, w) => driveCheck w (next (.failed e))
    | (.ok call, w) =>
      if call.readyAt ≤ w.now then
        match w.endCall call op with
        | (none, w) => (.crashed, w)
        | (some (.ok a), w) => driveCheck w (next (.answered a))
        | (some (.error e), w) => driveCheck w (next (.failed e))
      else if limit.millis = 0 then driveCheck w (next .timedOut)
      else (.waiting (.asking op call (w.now + limit.millis) next), w)

def resumeCheck (w : World) (op : Operation Float) (call : PendingCall) (limitAt : Nat)
    (next : Reply op.Answer → Check Float Finding) : CheckProgress × World :=
  if call.readyAt ≤ w.now then
    match w.endCall call op with
    | (none, w) => (.crashed, w)
    | (some (.ok a), w) => driveCheck w (next (.answered a))
    | (some (.error e), w) => driveCheck w (next (.failed e))
  else if limitAt ≤ w.now then driveCheck w (next .timedOut)
  else (.waiting (.asking op call limitAt next), w)

def noteCheck (id round : Nat) (key : String) : CheckProgress × World → World
  | (.concluded f, w) => w.endCheck id round key (some f)
  | (.crashed, w) => w.endCheck id round key none
  | (.waiting state, w) => w.await id (.check round key state)

def turnCheck (w : World) (id round : Nat) (key : String) (state : CheckState) : World :=
  match state with
  | .queued c =>
    if 0 < w.permits then
      let w := { w with
        permits := w.permits - 1
        tasks := put w.tasks id (.check round key (.admitted c)) }
      noteCheck id round key (w.driveCheck c)
    else { w with permitQueue := w.permitQueue ++ [id] }
  | .admitted c => noteCheck id round key (w.driveCheck c)
  | .asking op call limitAt next => noteCheck id round key (w.resumeCheck op call limitAt next)

/-! ## Loops -/

def period (w : World) : RoundKind → Nat
  | .servers => w.monitor.serverInterval.millis
  | .workspaces => w.monitor.workspaceInterval.millis

def turnIdle (w : World) (id : Nat) (kind : RoundKind) (group : Nat) (t : Ticker) : World :=
  let signal := (w.signals.lookup group).getD .run
  if signal = .stop then { w with tasks := drop w.tasks id }
  else if t.next ≤ w.now then
    let (round, w) := w.beginRound kind (some id)
    let t := t.fire w.now
    if w.roundOver round then
      let w := (w.endRound round).2
      { w with tasks := put w.tasks id (.loop kind group (some t) none) }.wake id
    else w.await id (.loop kind group (some t) (some round))
  else if signal = .abandoned then { w with tasks := drop w.tasks id }
  else w.await id (.loop kind group (some t) none)

/-- The turn of a loop. A loop whose rounds have no time between them does not come about. -/
def turnLoop (w : World) (id : Nat) (kind : RoundKind) (group : Nat) (ticker : Option Ticker)
    (round : Option Nat) : World :=
  match ticker, round with
  | none, _ =>
    if w.period kind = 0 then { w with tasks := drop w.tasks id }
    else w.turnIdle id kind group { next := w.now, period := w.period kind }
  | some t, none => w.turnIdle id kind group t
  | some t, some r => if w.roundOver r then (w.endRound r).2.turnIdle id kind group t else w

def turnTask (w : World) (id : Nat) : World :=
  match w.tasks.lookup id with
  | none => w
  | some (.check round key state) => w.turnCheck id round key state
  | some (.loop kind group ticker round) => w.turnLoop id kind group ticker round

/-- Lets tasks have their turns until none can go on; `n` limits their number. -/
def drain : Nat → World → World
  | 0, w => w
  | n + 1, w =>
    match w.ready with
    | [] => w
    | id :: rest => drain n ({ w with ready := rest }.turnTask id)

def taskTimer? (w : World) : Task → Option Nat
  | .check _ _ (.asking _ call limitAt _) => some (min call.readyAt limitAt)
  | .check _ _ _ => none
  | .loop _ _ (some t) none => some t.next
  | .loop _ _ _ (some r) => (w.rounds.lookup r).map (·.deadline)
  | .loop _ _ none none => none

/-! ## Strands -/

def driveActivity (limit : Option (Nat × ρ)) (w : World) :
    Activity Float Unit ρ → Strand ρ × World
  | .done r => (.finished r, w)
  | .atomic write next => driveActivity limit { w with fleet := write w.fleet } (next w.fleet)
  | .call serverId op abandon next =>
    match w.beginCall serverId op with
    | (.error e, w) => driveActivity limit w (next (.error e))
    | (.ok call, w) =>
      if call.readyAt ≤ w.now then
        match w.endCall call op with
        | (some answer, w) => driveActivity limit w (next answer)
        | (none, w) => driveActivity limit w (next (.error (.unavailable serverId "")))
      else
        match limit with
        | some (t, r) =>
          if t ≤ w.now then (.finished r, { w with fleet := abandon w.fleet })
          else (.calling op call limit abandon next, w)
        | none => (.calling op call limit abandon next, w)

def resumeActivity (w : World) (op : Operation Float) (call : PendingCall)
    (limit : Option (Nat × ρ)) (abandon : Fleet Float Unit → Fleet Float Unit)
    (next : Except BackendError op.Answer → Activity Float Unit ρ) : Strand ρ × World :=
  if call.readyAt ≤ w.now then
    match w.endCall call op with
    | (some answer, w) => driveActivity limit w (next answer)
    | (none, w) => driveActivity limit w (next (.error (.unavailable call.serverId "")))
  else
    match limit with
    | some (t, r) =>
      if t ≤ w.now then (.finished r, { w with fleet := abandon w.fleet })
      else (.calling op call limit abandon next, w)
    | none => (.calling op call limit abandon next, w)

/-- Ends a round that nothing more is expected of. -/
def driveRound (w : World) (id : Nat) (finish : Option RoundSummary → ρ) : Strand ρ × World :=
  if w.roundOver id then
    let (summary, w) := w.endRound id
    (.finished (finish summary), w)
  else (.round id finish, w)

/-- Tells loops to end when it is time, and waits for them. -/
def driveLoops (w : World) (group : Nat) (tasks : List Nat) (until? : Option Nat) (signal : Signal)
    (result : ρ) : Strand ρ × World :=
  match until? with
  | some t =>
    if t ≤ w.now then
      let w := tasks.foldl wake { w with signals := put w.signals group signal }
      (.loops group tasks none signal result, w)
    else (.loops group tasks until? signal result, w)
  | none =>
    if tasks.any (fun id => (w.tasks.lookup id).isSome) then
      (.loops group tasks none signal result, w)
    else (.finished result, { w with signals := drop w.signals group })

def results? (parts : List (Strand ρ)) : Option (List ρ) :=
  parts.mapM (fun
    | .finished r => some r
    | _ => none)

def joined (parts : List (Strand ρ)) (combine : List ρ → ρ) : Strand ρ :=
  match results? parts with
  | some rs => .finished (combine rs)
  | none => .join parts combine

mutual

def start (w : World) : Plan ρ → Strand ρ × World
  | .instant step =>
    let (r, w) := step w
    (.finished r, w)
  | .activity work limit =>
    driveActivity (limit.map (fun l => (w.now + l.1, l.2))) w work
  | .round kind finish =>
    let (id, w) := w.beginRound kind none
    w.driveRound id finish
  | .loops ms stopped abandon result =>
    let group := w.fresh
    let w := { w with
      fresh := w.fresh + 1
      signals := put w.signals w.fresh (if stopped then .stop else .run) }
    let (a, w) := w.addTask (.loop .servers group none none)
    let (b, w) := w.addTask (.loop .workspaces group none none)
    w.driveLoops group [a, b] (some (w.now + ms)) (if abandon && !stopped then .abandoned else .stop)
      result
  | .sleep ms result => if ms = 0 then (.finished result, w) else (.sleeping (w.now + ms) result, w)
  | .join parts combine =>
    let (parts, w) := startAll w parts
    (joined parts combine, w)

def startAll (w : World) : List (Plan ρ) → List (Strand ρ) × World
  | [] => ([], w)
  | p :: rest =>
    let (s, w) := start w p
    let (ss, w) := startAll w rest
    (s :: ss, w)

end

mutual

def resume (w : World) : Strand ρ → Strand ρ × World
  | .finished r => (.finished r, w)
  | .calling op call limit abandon next => w.resumeActivity op call limit abandon next
  | .round id finish => w.driveRound id finish
  | .loops group tasks until? signal result => w.driveLoops group tasks until? signal result
  | .sleeping t result => if t ≤ w.now then (.finished result, w) else (.sleeping t result, w)
  | .join parts combine =>
    let (parts, w) := resumeAll w parts
    (joined parts combine, w)

def resumeAll (w : World) : List (Strand ρ) → List (Strand ρ) × World
  | [] => ([], w)
  | s :: rest =>
    let (s, w) := resume w s
    let (ss, w) := resumeAll w rest
    (s :: ss, w)

end

mutual

def timers (w : World) : Strand ρ → List Nat
  | .finished _ => []
  | .calling _ call limit _ _ => call.readyAt :: (limit.map (·.1)).toList
  | .round id _ => ((w.rounds.lookup id).map (·.deadline)).toList
  | .loops _ _ until? _ _ => until?.toList
  | .sleeping t _ => [t]
  | .join parts _ => timersAll w parts

def timersAll (w : World) : List (Strand ρ) → List Nat
  | [] => []
  | s :: rest => timers w s ++ timersAll w rest

end

/-- Moves the clock, and lets the tasks that waited for that time have their turns. -/
def advanceTo (w : World) (t : Nat) : World :=
  let w := { w with now := max w.now t }
  let due := w.tasks.filterMap (fun e =>
    match w.taskTimer? e.2 with
    | some t => if t ≤ w.now then some (t, e.1) else none
    | none => none)
  (due.mergeSort (fun a b => decide (a.1 ≤ b.1))).foldl (fun w e => w.wake e.2) w

/-- Goes on until the strand is finished: tasks, strand and clock in turn. Without a result when nothing
can ever go on, or after `n` turns. -/
def finish : Nat → World → Strand ρ → Option ρ × World
  | 0, w, _ => (none, w)
  | n + 1, w, s =>
    match s with
    | .finished r => (some r, w)
    | s =>
      if w.ready.isEmpty then
        let times := timers w s ++ w.tasks.filterMap (fun e => w.taskTimer? e.2)
        match times.min? with
        | none => (none, w)
        | some t =>
          let (s, w) := (w.advanceTo t).resume s
          finish n w s
      else
        let (s, w) := (drain (n + 1) w).resume s
        finish n w s

/-- More turns than any run takes whose times are given in milliseconds. -/
def turnLimit : Nat := 1000000000000

def carryOut (w : World) (p : Plan ρ) : Option ρ × World :=
  let (s, w) := w.start p
  finish turnLimit w s

end World
end Simulation
end WorkspaceFleet
