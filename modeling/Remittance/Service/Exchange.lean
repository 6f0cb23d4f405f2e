import Remittance.Audit.Event
import Remittance.Json.Reader
import Remittance.Json.Writer
import Remittance.Schema.Request
import Remittance.Service.Target

/-!
# Web requests and their answers

A web request has a method, a target and a body.  The path of the target leads to one of the routes,
each of which answers to some methods.  `Body.payload` is the JSON value that a body holds, with the
stand-ins of the lone surrogates in it.  `Response` is what the service may answer, with its status.
-/

namespace Remittance

open Audit Text

/-- The method of a web request, as far as the service tells them apart. -/
inductive Method where
  | get
  | head
  | post
  | other
deriving DecidableEq

/-- The method with the given name, in any letter case. -/
def Method.ofName (name : String) : Method :=
  let upper := Text.upper name
  if upper = "GET" then .get
  else if upper = "HEAD" then .head
  else if upper = "POST" then .post
  else .other

/-- The pages about the service. -/
inductive Page where
  | manual
  /-- Where the manual comes back to after a sign-in. -/
  | signIn
  | reference
deriving DecidableEq

/-- The places that the service knows. -/
inductive Route where
  | health
  | instructions
  | events
  /-- The description of the service for other programs. -/
  | description
  | page (p : Page)
deriving DecidableEq

namespace Route

/-- The path of a route. -/
def path : Route → String
  | .health => "/health"
  | .instructions => "/payment-instructions"
  | .events => "/audit-events"
  | .description => "/openapi.json"
  | .page .manual => "/docs"
  | .page .signIn => "/docs/oauth2-redirect"
  | .page .reference => "/redoc"

/-- All routes. -/
def all : List Route :=
  [.health, .instructions, .events, .description, .page .manual, .page .signIn, .page .reference]

/-- The route of a path; slashes at the end of a path do not matter, and neither does one line break
before them. -/
def ofPath? (path : String) : Option Route :=
  let trimmed := String.ofList (path.toList.reverse.dropWhile (· == '/')).reverse
  all.find? fun route => trimmed == route.path || trimmed == route.path ++ "\n"

/-- Whether a route answers to a method. -/
def answersTo : Route → Method → Bool
  | .health, method => method = .get
  | .instructions, method => method = .post
  | .events, method => method = .get
  | .description, method => method = .get || method = .head
  | .page _, method => method = .get || method = .head

end Route

/-- The body of a web request. -/
inductive Body where
  /-- A value that is sent as JSON; null is sent as no body at all. -/
  | value (payload : Json)
  /-- A text that may or may not be JSON. -/
  | text (content : String)

/-- A web request. -/
structure WebRequest where
  method : Method
  target : Target
  body : Body

/-- The answer to a web request. -/
inductive Response where
  | healthy
  | transaction (t : Transaction)
  | failure (f : Failure)
  | events (es : List Event)
  | description
  /-- A page for readers, which is no JSON. -/
  | page
  /-- The request is not of the schema. -/
  | unprocessable (found : List Violation)
  /-- The body cannot be read. -/
  | unreadable
  /-- A number would have to be written in JSON that cannot be: to send the body, to say what is
  wrong with it, or to report a balance. -/
  | unwritable (fault : WriteFault)
  /-- Lone surrogates would have to be sent. -/
  | unsendable (found : LoneSurrogates)
  | notFound
  | notAllowed
  /-- The answer to a method that asks for no body. -/
  | bodiless (status : Nat)
  /-- A condition of the settlement was not met. -/
  | broken (f : Fault)

namespace Response

/-- The status of an answer. -/
def status : Response → Nat
  | .healthy => 200
  | .transaction _ => 200
  | .events _ => 200
  | .description => 200
  | .page => 200
  | .failure _ => 400
  | .unreadable => 400
  | .notFound => 404
  | .notAllowed => 405
  | .unprocessable _ => 422
  | .unwritable _ => 500
  | .unsendable _ => 500
  | .bodiless status => status
  | .broken _ => 500

/-- The detail of an answer that has nothing else to say. -/
def detail : Response → String
  | .unreadable => "There was an error parsing the body"
  | .unwritable fault => fault.message
  | .unsendable found => found.message
  | .notFound => "Not Found"
  | .notAllowed => "Method Not Allowed"
  | .broken _ => "Internal Server Error"
  | _ => ""

/-- The number of the audit events in an answer that lists them. -/
def count? : Response → Option Nat
  | .events es => some es.length
  | _ => none

/-- An answer as it is sent for a method. -/
def sent (r : Response) : Method → Response
  | .head => .bodiless r.status
  | _ => r

end Response

/-- Why the body of a web request holds no payload. -/
inductive BodyError where
  /-- The request is not of the schema. -/
  | unprocessable (found : List Violation)
  /-- The body cannot be read. -/
  | unreadable
  /-- The body cannot be sent. -/
  | unwritable (fault : WriteFault)

/-- What the body of a web request holds. -/
structure Payload where
  value : Json
  /-- The stand-ins for the lone surrogates in it. -/
  standIns : StandIns

/-- A text without the byte order mark that it may start with. -/
def dropByteOrderMark (content : String) : String :=
  match content.toList with
  | '\ufeff' :: rest => String.ofList rest
  | _ => content

/-- The text of a body that was sent as text.  Its bytes are read anew, because a text that starts
with zeros is taken for one of the wider encodings. -/
def bodyText? (standIns : StandIns) (content : String) : Option String :=
  let sent := Text.bytes content.toList
  ((Encoding.detect sent).decode? standIns sent).map dropByteOrderMark

/-- Stand-ins that a body holds neither as they are nor by escapes. -/
def standInsFor (content : String) : StandIns :=
  let text := ((bodyText? .none content).getD "").toList
  .apartFrom (text ++ Json.escapedChars text)

/-- The violation of a request without a body. -/
def noBody : List Violation :=
  [⟨[.field "body"], .missing⟩]

/-- The payload in the body of a web request. -/
def Body.payload : Body → Except BodyError Payload
  | .value .null => .error (.unprocessable noBody)
  | .value payload =>
    match payload.writeFault? with
    | some fault => .error (.unwritable fault)
    | none => .ok ⟨payload, .none⟩
  | .text content =>
    if content.isEmpty then .error (.unprocessable noBody)
    else
      let standIns := standInsFor content
      match (bodyText? standIns content).map (Json.readWith standIns) with
      | some (.ok payload) => .ok ⟨payload, standIns⟩
      | some (.error (.malformed offset)) =>
        .error (.unprocessable [⟨[.field "body", .index offset], .malformedJson⟩])
      | _ => .error .unreadable

end Remittance
