import Remittance.Audit.Session
import Remittance.Service.Exchange
import Remittance.Service.Notice

/-!
# The web service

The service answers web requests: it tells its health, clears the instruction in a posted body,
lists the latest audit events, and describes itself.  It keeps no accounts and no balances.  All
that one request leaves behind for the next is the audit session, in which the event of every
cleared instruction, whether it became a transaction or a failure, is recorded after the answer.
An answer that cannot be sent leaves nothing behind: one with a lone surrogate or with a number that
is not finite (`Service.obstacle?`), or a transaction with a balance that grew beyond the digits
that are written.
-/

namespace Remittance

open Audit Text

/-- The version that the service tells. -/
def version : String := "0.1.0"

/-- The title in the description of the service. -/
def title : String := "payinstruct API"

/-- What the description of the service says about it. -/
def summary : String :=
  "Interprets DEBIT/CREDIT payment instructions against supplied accounts"

/-- The service: the day that it takes for today, and its audit session. -/
structure Service where
  today : Day
  session : Session

namespace Service

/-- The service on a day, with nothing recorded. -/
def start (today : Day) : Service :=
  ⟨today, .start Trail.standardCapacity⟩

/-- Takes another day for today. -/
def setToday (s : Service) (today : Day) : Service :=
  { s with today }

/-- Turns the recording of audit events on or off. -/
def setRecording (s : Service) (on : Bool) : Service :=
  { s with session := { s.session with enabled := on } }

/-- Records an event in the audit session. -/
def keep (s : Service) (e : Event) : Service :=
  { s with session := (s.session.record .trail e).1 }

/-- The number of events that are listed when no limit is given. -/
def standardLimit : Int := 50

/-- The limit in a query. -/
def readLimit : Option String → Checked Int
  | none => .ok standardLimit
  | some text =>
    .under (.field "query") (.under (.field "limit") (Json.checkAtLeast 1 (.string text)))

/-- The answer in the place of one whose notice cannot be sent.  The integers in a notice have all
been read, so that none of them has too many digits. -/
def obstacle? (standIns : StandIns) (notice : Json) : Option Response :=
  if notice.isFinite then (standIns.firstRun? notice.written).map .unsendable
  else some (.unwritable .notFinite)

/-- Clears the instruction in a checked request.  A transaction that cannot be written is not
recorded, and neither is a failure whose notice cannot be sent. -/
def postRequest (s : Service) (standIns : StandIns) (request : Request) : Service × Response :=
  match (clear request s.today).outcome with
  | .ok t =>
    if t.isWritable then (s.keep (.ofTransaction request.text t), .transaction t)
    else (s, .unwritable .tooManyDigits)
  | .error (.failure f) =>
    match obstacle? standIns f.notice with
    | some obstacle => (s, obstacle)
    | none => (s.keep (.ofFailure request.text f), .failure f)
  | .error (.violations found) => (s, .unprocessable found)
  | .error (.fault f) => (s, .broken f)

/-- The answer to a payload that is not of the schema. -/
def reject (payload : Payload) (found : List Violation) : Response :=
  (obstacle? payload.standIns (Violation.noticeOfAll payload.value found)).getD
    (.unprocessable (found.map (·.under (.field "body"))))

/-- Answers a posted instruction. -/
def post (s : Service) (body : Body) : Service × Response :=
  match body.payload with
  | .error (.unprocessable found) => (s, .unprocessable found)
  | .error .unreadable => (s, .unreadable)
  | .error (.unwritable fault) => (s, .unwritable fault)
  | .ok payload =>
    match Request.check .web payload.value with
    | .error found => (s, reject payload found)
    | .ok request => s.postRequest payload.standIns request

/-- Answers with the latest audit events. -/
def listEvents (s : Service) (limit : Option String) : Response :=
  match readLimit limit with
  | .ok n => .events (s.session.trail.recent (some n))
  | .error found => .unprocessable found

/-- Answers a web request. -/
def handle (s : Service) (request : WebRequest) : Service × Response :=
  match Route.ofPath? request.target.path with
  | none => (s, Response.notFound.sent request.method)
  | some route =>
    if route.answersTo request.method then
      match route with
      | .health => (s, .healthy)
      | .events => (s, s.listEvents (request.target.parameter? "limit"))
      | .instructions => s.post request.body
      | .description => (s, Response.description.sent request.method)
      | .page _ => (s, Response.page.sent request.method)
    else (s, Response.notAllowed.sent request.method)

/-- What the service is given. -/
inductive Input where
  /-- Another day for today. -/
  | today (day : Day)
  /-- The switch of the recording. -/
  | recording (on : Bool)
  | request (r : WebRequest)

/-- Takes one input; only a web request is answered. -/
def step (s : Service) : Input → Service × Option Response
  | .today day => (s.setToday day, none)
  | .recording on => (s.setRecording on, none)
  | .request r =>
    let (s', response) := s.handle r
    (s', some response)

/-- Takes the inputs of a list one after the other. -/
def run (s : Service) : List Input → Service × List (Option Response)
  | [] => (s, [])
  | input :: later =>
    let (s', response) := s.step input
    let (s'', responses) := s'.run later
    (s'', response :: responses)

end Service

end Remittance
