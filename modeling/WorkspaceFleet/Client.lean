import WorkspaceFleet.Backend.Encoding
import WorkspaceFleet.Certificate.Bundle
import WorkspaceFleet.Client.Address
import WorkspaceFleet.Client.Config
import WorkspaceFleet.Client.Exchange
import WorkspaceFleet.Client.Frames
import WorkspaceFleet.Client.Sample

/-!
# WorkspaceFleet.Client

The client of one daemon, over the HTTP interface of container engines.

`Client.connect` makes one and refuses what is misconfigured; nothing is sent then. `Client.exchange` is
the exchange that each operation takes: which requests it sends, which statuses it tolerates, and how the
answer is read from the responses. Whatever goes wrong in it is reported as the daemon's failure.

Each operation has its time (`Client.timeLimit`), which must be in the range of a span. It is
where the seconds of the two settings it is made of add up to a 64-bit word.
-/

namespace WorkspaceFleet

structure Client where
  serverId : String
  baseUrl : String
  /-- The calls that may be under way at the same time. -/
  permits : Nat
  callTimeout : Duration
  stopGraceSecs : Nat
  deriving DecidableEq, Repr

namespace Client

open Document

def connect (files : Files) (config : ClientConfig) (s : Server Float) : Except BackendError Client := do
  if s.host = "" then
    throw (.configuration ("server " ++ s.serverId ++ " has no host"))
  if config.maxConcurrentPerServer = 0 then
    throw (.configuration "max_concurrent_per_server must be at least 1")
  match s.transport.files? with
  | none => pure ()
  | some where_ => (← CertificateBundle.load files where_).validate
  return {
    serverId := s.serverId
    baseUrl := s.baseUrl
    permits := config.maxConcurrentPerServer
    callTimeout := config.callTimeout
    stopGraceSecs := config.stopGraceSecs }

def debugText (c : Client) : String :=
  "DockerClient \x7b server_id: " ++ Text.quoted c.serverId ++ ", base_url: " ++
    Text.quoted c.baseUrl ++ ", .. \x7d"

def address (q : Request) : Address := (Address.read q.path).withQuery q.query

def sendFailure (c : Client) (q : Request) : String :=
  "error sending request for url (" ++ c.baseUrl ++ (address q).text ++ ")"

def crowded : String := "too many concurrent calls"

/-! ## Bodies -/

/-- A number of cores in units of a billionth, rounded half away from zero, as a signed word. -/
def nanoCpus (cores : Float) : Int := (cores * 1e9).round.toInt64.toInt

/-- Mebibytes in bytes, as a signed word. -/
def memoryBytes (mb : Nat) : Int := (Int64.ofNat (mb * (1024 * 1024))).toInt

def creation (spec : ContainerSpec Float) : Document Float :=
  let env := (spec.env.entries.map (fun e => e.1 ++ "=" ++ e.2)).mergeSort
    (fun a b => decide (a ≤ b))
  .record (
    [("Image", .text spec.image)] ++
    (if spec.cmd.isEmpty then [] else [("Cmd", .list (spec.cmd.map .text))]) ++
    [("Env", .list (env.map .text)), ("Labels", table .text spec.labels)] ++
    (spec.workingDir.map (fun d => ("WorkingDir", Document.text d))).toList ++
    [("HostConfig", .record [("NanoCpus", .int (nanoCpus spec.cpuCores)),
      ("Memory", .int (memoryBytes spec.memoryMb))])])

def command (cmd : List String) : Document Float :=
  .record [("AttachStdout", .bool true), ("AttachStderr", .bool true), ("Tty", .bool false),
    ("Cmd", .list (cmd.map .text))]

def commandStart : Document Float := .record [("Detach", .bool false), ("Tty", .bool false)]

/-! ## Answers -/

def decodeId (d : Document Float) : Decoded String := do
  field (← d.asFields ["Id"]) "Id" asText

def asWord64 : Document Float → Decoded Int
  | .int n => if fitsSigned64 n then .ok n else .error .mismatch
  | _ => .error .mismatch

/-- The exit code of a command, if it has ended. -/
def decodeExit (d : Document Float) : Decoded (Option Int) := do
  field? (← d.asFields ["ExitCode"]) "ExitCode" asWord64

def decodeState (d : Document Float) : Decoded (Bool × String) := do
  let state ← field (← d.asFields ["State"]) "State" (asFields ["Status", "Running"])
  let word ← fieldD state "Status" asText ""
  return (← fieldD state "Running" asBool false, word)

/-! ## Operations -/

def containerPath (id : String) (rest : String) : String := "/containers/" ++ id ++ rest

def createExchange (spec : ContainerSpec Float) : Exchange String :=
  let request := {
    method := .post
    path := "/containers/create"
    query := (spec.name.map (fun n => ("name", n))).toList
    body := some (creation spec) }
  .expect request [] fun r => .done (r.value decodeId)

/-- Starts a container; one that runs already is fine. -/
def startExchange (id : String) : Exchange Unit :=
  .expect (.plain .post (containerPath id "/start")) [304] fun _ => .done (.ok ())

/-- Stops a container; one that does not run or is not there is fine. -/
def stopExchange (grace : Nat) (id : String) : Exchange Unit :=
  let request := { Request.plain .post (containerPath id "/stop") with
    query := [("t", Text.Decimal.text grace)] }
  .expect request [304, 404] fun _ => .done (.ok ())

/-- Removes a container; one that is not there is fine. -/
def removeExchange (id : String) : Exchange Unit :=
  let request := { Request.plain .delete (containerPath id "") with query := [("force", "true")] }
  .expect request [404] fun _ => .done (.ok ())

/-- Runs a command: it is described, started and, once its output has come, inspected. -/
def execExchange (id : String) (cmd : List String) : Exchange ExecResult :=
  let create := { Request.plain .post (containerPath id "/exec") with body := some (command cmd) }
  .expect create [] fun created =>
    .andThen (created.value decodeId) fun exec =>
      let start := { Request.plain .post ("/exec/" ++ exec ++ "/start") with
        body := some commandStart }
      .expect start [] fun started =>
        match started.body with
        | none => .done (.error Response.undecodable)
        | some bytes =>
          .expect (.plain .get ("/exec/" ++ exec ++ "/json")) [] fun inspected =>
            .done ((inspected.value decodeExit).map (fun code =>
              { exitCode := code.getD (-1), output := Frames.text bytes }))

/-- Says how a container fares. It is inspected first, and measured only if it runs; one that is not there
is missing. -/
def statsExchange (id : String) : Exchange (ContainerStats Float) :=
  .expect (.plain .get (containerPath id "/json")) [404] fun inspected =>
    if inspected.status = 404 then .done (.ok .missing)
    else
      .andThen (inspected.value decodeState) fun state =>
        if ¬state.1 then .done (.ok (.stopped state.2))
        else
          let measure := { Request.plain .get (containerPath id "/stats") with
            query := [("stream", "false")] }
          .expect measure [404] fun measured =>
            if measured.status = 404 then .done (.ok .missing)
            else
              .done ((measured.value UsageSample.decode).map (fun sample =>
                { running := true
                  cpuPercent := sample.cpuPercent
                  memoryUsageMb := sample.memoryUsageMb
                  state := state.2 }))

def infoExchange : Exchange DaemonInfo :=
  .expect (.plain .get "/info") [] fun r => .done (r.value DaemonInfo.decode)

def exchange (c : Client) : (op : Operation Float) → Exchange op.Answer
  | .create spec => createExchange spec
  | .start id => startExchange id
  | .stop id => stopExchange c.stopGraceSecs id
  | .remove id => removeExchange id
  | .exec id cmd => execExchange id cmd
  | .stats id => statsExchange id
  | .info => infoExchange

/-- How long a request of the operation may take. A container may take its grace to stop, and the
daemon answers after it. -/
def timeLimit (c : Client) : Operation Float → Duration
  | .stop _ => c.callTimeout + .ofSecs c.stopGraceSecs
  | _ => c.callTimeout

/-- Performs an operation; `take` sends a request, and gives up on it after the operation's time. -/
def perform {σ : Type} (c : Client) (take : σ → Request → Except String Response × σ)
    (op : Operation Float) (s : σ) : Except BackendError op.Answer × σ :=
  let (result, s) := (c.exchange op).run take s
  (result.mapError (.unavailable c.serverId), s)

end Client

abbrev ClientPool := Table Client

namespace ClientPool

/-- Makes the client of a server and puts it in place of an earlier one. -/
def addServer (files : Files) (config : ClientConfig) (pool : ClientPool) (s : Server Float) :
    Except BackendError ClientPool := do
  return pool.insert s.serverId (← Client.connect files config s)

/-- The clients of several servers; the first that is misconfigured is the error. -/
def ofServers (files : Files) (config : ClientConfig) (servers : List (Server Float)) :
    Except BackendError ClientPool :=
  servers.foldlM (addServer files config) ∅

def client (pool : ClientPool) (id : String) : Except BackendError Client :=
  (pool.get? id).elim (.error (.noClient id)) .ok

end ClientPool
end WorkspaceFleet
