import Remittance.Audit.Trail

/-!
# Audit sessions

A session is a trail together with the switch that turns recording on and off.  `Session.step` takes
one step of work with it.  `Session.offer` may fail, because an event can be meant for another trail,
which turns it away.  Recording is contained: if the event cannot be kept, that is noted in the
journal and nothing else changes, and while the switch is off nothing is kept and nothing is noted.
-/

namespace Remittance.Audit

/-- Where an event is to be kept. -/
inductive Target where
  /-- The trail of the session. -/
  | trail
  /-- Another trail, which keeps no event and says why. -/
  | failing (reason : String)
deriving DecidableEq

/-- Why a broken trail does not keep an event. -/
def brokenReason : String :=
  "RuntimeError: trail is broken"

/-- A broken trail. -/
def Target.broken : Target :=
  .failing brokenReason

/-- The trail of a session once its target has been given an event, or why the target fails. -/
def Target.append (trail : Trail) (e : Event) : Target → Except String Trail
  | .trail => .ok (trail.append e)
  | .failing reason => .error reason

/-- A trail and whether events are recorded. -/
structure Session where
  trail : Trail
  enabled : Bool

/-- One step of work with a session. -/
inductive Action where
  /-- Ask for the number of events. -/
  | size
  | clear
  /-- Ask for the latest events. -/
  | recent (limit : Option Int)
  /-- Turn recording on or off. -/
  | enable (on : Bool)
  /-- Clear a payload on a day and record what becomes of it. -/
  | process (payload : Json) (today : Day) (target : Target)
  /-- Record the event of whichever of the two is given. -/
  | record (text : String) (transaction : Option Transaction) (failure : Option Failure)
      (target : Target)

/-- Why a step fails. -/
inductive ActionError where
  /-- The payload could not be processed. -/
  | refused (r : Refusal)
  /-- Both a transaction and a failure are given, or neither is. -/
  | notExactlyOne
deriving DecidableEq

/-- The message about a step with both a transaction and a failure or with neither. -/
def notExactlyOneMessage : String :=
  "Exactly one of result or error is required"

/-- Why there is no trail of a capacity. -/
inductive CapacityError where
  | negative
  /-- The capacity is no signed integer of 64 bits. -/
  | outOfRange
deriving DecidableEq

/-- The message of an error. -/
def CapacityError.message : CapacityError → String
  | .negative => "maxlen must be non-negative"
  | .outOfRange => "Python int too large to convert to C ssize_t"

/-- Capacities are below this size. -/
def capacityLimit : Nat := Nat.pow 2 63

/-- The answer to a step. -/
inductive Answer where
  | size (n : Nat)
  | events (es : List Event)
  | switched (on : Bool)
  /-- The event of the step, the number of events after it and the records of the recording. -/
  | recorded (event : Event) (size : Nat) (records : List Record)
  | failed (e : ActionError)

namespace Session

/-- A session with an empty trail, in which events are recorded. -/
def start (capacity : Nat) : Session :=
  ⟨.empty capacity, true⟩

/-- The session with a trail of the given capacity.  A capacity out of range is not even judged by
its sign. -/
def ofCapacity : (capacity : Int) → Except CapacityError Session
  | .ofNat capacity =>
    if capacity < capacityLimit then .ok (start capacity) else .error .outOfRange
  | .negSucc below => .error (if below < capacityLimit then .negative else .outOfRange)

/-- Gives an event to a target, and notes that it was kept. -/
def offer (s : Session) (target : Target) (e : Event) : Journaled String Session := do
  let trail ← ⟨[], target.append s.trail e⟩
  .write e.kept
  pure { s with trail }

/-- Records an event.  If that fails, the session stays as it was and the reason is noted. -/
def record (s : Session) (target : Target) (e : Event) : Session × List Record :=
  if s.enabled then
    let offered := s.offer target e
    match offered.outcome with
    | .ok s' => (s', offered.records)
    | .error reason => (s, offered.records ++ [e.lost reason])
  else (s, [])

/-- Records an event and answers with it. -/
def recordAndAnswer (s : Session) (target : Target) (e : Event) : Session × Answer :=
  let (s', records) := s.record target e
  (s', .recorded e s'.trail.size records)

/-- The text of the instruction as a payload gives it, with its ends untrimmed. -/
def givenText : Json → String
  | .object members => match Json.member? "instruction" members with
    | some (.string s) => s
    | _ => ""
  | _ => ""

/-- The event of a cleared instruction; a payload that was refused for another reason than a failure
has none. -/
def eventOf (text : String) : Except Refusal Transaction → Except ActionError Event
  | .ok t => .ok (.ofTransaction text t)
  | .error (.failure f) => .ok (.ofFailure text f)
  | .error r => .error (.refused r)

/-- Takes one step. -/
def step (s : Session) : Action → Session × Answer
  | .size => (s, .size s.trail.size)
  | .clear => ({ s with trail := s.trail.clear }, .size 0)
  | .recent limit => (s, .events (s.trail.recent limit))
  | .enable on => ({ s with enabled := on }, .switched on)
  | .process payload today target =>
    match eventOf (givenText payload) (clearPayload payload today).outcome with
    | .ok e => s.recordAndAnswer target e
    | .error e => (s, .failed e)
  | .record text transaction failure target =>
    match Event.build? text transaction failure with
    | some e => s.recordAndAnswer target e
    | none => (s, .failed .notExactlyOne)

/-- Takes the steps of a list one after the other. -/
def run (s : Session) : List Action → Session × List Answer
  | [] => (s, [])
  | action :: later =>
    let (s', answer) := s.step action
    let (s'', answers) := s'.run later
    (s'', answer :: answers)

end Session

end Remittance.Audit
