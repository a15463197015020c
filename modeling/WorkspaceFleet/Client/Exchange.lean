import WorkspaceFleet.Backend
import WorkspaceFleet.Document.Json
import WorkspaceFleet.Text.Blank
import WorkspaceFleet.Text.Utf8

/-!
# WorkspaceFleet.Client.Exchange

Exchanges with a daemon: requests, what they bring, and programs that send requests one after the other
until they come to an answer or to the cause of a failure.

`Exchange.run` plays such a program against anything that takes requests. A request that brings no
response ends it with the cause, so nothing is sent after a failure.
-/

namespace WorkspaceFleet

inductive Method where
  | get
  | post
  | delete
  deriving DecidableEq, Repr

def Method.word : Method → String
  | .get => "GET"
  | .post => "POST"
  | .delete => "DELETE"

structure Request where
  method : Method
  /-- Where it goes, as it is said; it is encoded when it is sent. -/
  path : String
  query : List (String × String)
  body : Option (Document Float)

def Request.plain (method : Method) (path : String) : Request :=
  { method, path, query := [], body := none }

structure Response where
  status : Nat
  /-- The bytes that came with it; none if they broke off. -/
  body : Option (List UInt8)

namespace Response

def isSuccess (r : Response) : Bool := 200 ≤ r.status && r.status ≤ 299

def undecodable : String := "error decoding response body"

def document (r : Response) : Except String (Document Float) :=
  match r.body.bind Text.Utf8.decode? with
  | none => .error undecodable
  | some s => (Json.parse s).elim (.error undecodable) .ok

def value {α : Type} (read : Document Float → Decoded α) (r : Response) : Except String α := do
  (read (← r.document)).mapError (fun _ => undecodable)

def phrase (status : Nat) : String :=
  match status with
  | 100 => "Continue"
  | 101 => "Switching Protocols"
  | 102 => "Processing"
  | 103 => "Early Hints"
  | 200 => "OK"
  | 201 => "Created"
  | 202 => "Accepted"
  | 203 => "Non Authoritative Information"
  | 204 => "No Content"
  | 205 => "Reset Content"
  | 206 => "Partial Content"
  | 207 => "Multi-Status"
  | 208 => "Already Reported"
  | 226 => "IM Used"
  | 300 => "Multiple Choices"
  | 301 => "Moved Permanently"
  | 302 => "Found"
  | 303 => "See Other"
  | 304 => "Not Modified"
  | 305 => "Use Proxy"
  | 307 => "Temporary Redirect"
  | 308 => "Permanent Redirect"
  | 400 => "Bad Request"
  | 401 => "Unauthorized"
  | 402 => "Payment Required"
  | 403 => "Forbidden"
  | 404 => "Not Found"
  | 405 => "Method Not Allowed"
  | 406 => "Not Acceptable"
  | 407 => "Proxy Authentication Required"
  | 408 => "Request Timeout"
  | 409 => "Conflict"
  | 410 => "Gone"
  | 411 => "Length Required"
  | 412 => "Precondition Failed"
  | 413 => "Payload Too Large"
  | 414 => "URI Too Long"
  | 415 => "Unsupported Media Type"
  | 416 => "Range Not Satisfiable"
  | 417 => "Expectation Failed"
  | 418 => "I'm a teapot"
  | 421 => "Misdirected Request"
  | 422 => "Unprocessable Entity"
  | 423 => "Locked"
  | 424 => "Failed Dependency"
  | 425 => "Too Early"
  | 426 => "Upgrade Required"
  | 428 => "Precondition Required"
  | 429 => "Too Many Requests"
  | 431 => "Request Header Fields Too Large"
  | 451 => "Unavailable For Legal Reasons"
  | 500 => "Internal Server Error"
  | 501 => "Not Implemented"
  | 502 => "Bad Gateway"
  | 503 => "Service Unavailable"
  | 504 => "Gateway Timeout"
  | 505 => "HTTP Version Not Supported"
  | 506 => "Variant Also Negotiates"
  | 507 => "Insufficient Storage"
  | 508 => "Loop Detected"
  | 510 => "Not Extended"
  | 511 => "Network Authentication Required"
  | _ => "<unknown status code>"

def message? (d : Document Float) : Option String :=
  match Json.sortFields d with
  | .record fields =>
    match fields.lookup "message" with
    | some (.text s) => some s
    | _ => none
  | _ => none

/-- The cause of a failure that a status stands for: the status, its phrase and what the daemon has to say,
or else the whole body. A body that broke off says nothing. -/
def cause (r : Response) : String :=
  let body := (r.body.map Text.Utf8.decode).getD ""
  let message := ((Json.parse body).bind message?).getD body
  "HTTP " ++ Text.Decimal.text r.status ++ " " ++ phrase r.status ++ ": " ++ Text.trim message

end Response

/-- A program that sends requests and comes to an answer of type `α`, or to the cause of a failure. -/
inductive Exchange (α : Type) where
  | done (result : Except String α)
  | send (request : Request) (next : Response → Exchange α)

namespace Exchange

variable {α β σ : Type}

def andThen (r : Except String β) (next : β → Exchange α) : Exchange α :=
  match r with
  | .ok b => next b
  | .error e => .done (.error e)

/-- Sends a request and goes on where it succeeded or brought a status that is tolerated. -/
def expect (request : Request) (tolerated : List Nat) (next : Response → Exchange α) : Exchange α :=
  .send request fun r =>
    if r.isSuccess || tolerated.contains r.status then next r else .done (.error r.cause)

/-- Plays an exchange. What takes the requests has a state, and brings a response to each or the cause why
there is none. -/
def run (take : σ → Request → Except String Response × σ) : Exchange α → σ → Except String α × σ
  | .done r, s => (r, s)
  | .send q next, s =>
    match take s q with
    | (.ok r, s) => run take (next r) s
    | (.error e, s) => (.error e, s)

end Exchange
end WorkspaceFleet
