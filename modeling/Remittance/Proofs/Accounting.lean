import Remittance.Proofs.Posting
import Remittance.Proofs.TrailHistory

/-!
# The audit events of a service

The service keeps an event for every posted instruction that it answers with a status code while
recording is on, and for nothing else.  An `Exchange` is an input with what was answered to it,
`Event.AgreesWith` says how an event and an answer fit together, and `Exchange.MakeAll` that a list of
events is the one of a list of exchanges.  `Service.HasMade` is the invariant: one input adds the
event of its exchange, if there is one (`Service.HasMade.step`), and a run adds those of its exchanges
in order (`Service.HasMade.run`).

A body that cannot be read is answered with the status 400 too, but there is no instruction that an
event could be about, and none is made (`postedUndecodable_unrecorded`).  Nor is an event made of a
transaction or a failure that cannot be sent, which has neither of the two statuses.
-/

namespace Remittance

open Audit

/-! ## Events and answers -/

/-- The kind of the events with a status code. -/
def Audit.EventKind.ofCode (code : String) : EventKind :=
  if code = StatusCode.transactionSuccessful.code then .executed
  else if code = StatusCode.transactionPending.code then .scheduled
  else .failed

/-- The event says of the accounts and of the outcome what the answer says. -/
def Response.Tells (response : Response) (e : Event) : Prop :=
  match response with
  | .transaction t =>
    e.debit = some t.debit ∧ e.credit = some t.credit ∧
      e.details = .transaction t.amount t.currency t.executeBy
  | .failure f =>
    e.debit = f.context.debit ∧ e.credit = f.context.credit ∧ e.details = .failure f.message
  | _ => False

/-- The event is about a posted body and the answer to it. -/
structure Audit.Event.AgreesWith (e : Event) (body : Body) (response : Response) : Prop where
  code : response.code? = some e.code
  kind : e.kind = .ofCode e.code
  tells : response.Tells e
  /-- The text is that of the instruction in the body, with its ends trimmed. -/
  text : ∃ p, body.payload = .ok p ∧
    p.value.HasField "instruction" fun value => value.GivesText e.text

lemma agreesWith_ofTransaction {body : Body} {p : Payload} {request : Request} {today : Day}
    {t : Transaction} (hbody : body.payload = .ok p)
    (hcheck : Request.check .web p.value = .ok request)
    (hclear : (clear request today).outcome = .ok t) :
    (Event.ofTransaction request.text t).AgreesWith body (.transaction t) := by
  refine ⟨rfl, ?_, ⟨rfl, rfl, rfl⟩, p, hbody, (Request.check_eq_ok_iff_describes.mp hcheck).text⟩
  obtain ⟨order, _, rfl⟩ := outcome_eq_ok_iff.mp hclear
  rcases Transaction.code_ofOrder order request.involved today with hcode | hcode
  · simp only [Event.ofTransaction, EventKind.ofCode, if_pos hcode]
  · have hne : StatusCode.transactionPending.code ≠ StatusCode.transactionSuccessful.code := by
      decide
    simp only [Event.ofTransaction, EventKind.ofCode, hcode, if_neg hne, if_true]

lemma ofCode_of_mem_failures {code : StatusCode} (h : code ∈ StatusCode.failures) :
    EventKind.ofCode code.code = .failed := by
  revert code
  decide

lemma agreesWith_ofFailure {body : Body} {p : Payload} {request : Request} {today : Day}
    {f : Failure} (hbody : body.payload = .ok p)
    (hcheck : Request.check .web p.value = .ok request)
    (hclear : (clear request today).outcome = .error (.failure f)) :
    (Event.ofFailure request.text f).AgreesWith body (.failure f) := by
  obtain ⟨r, _, hf⟩ := outcome_eq_error_iff.mp hclear
  cases hf
  have hconsistent : (request.failure r).IsConsistent := Failure.isConsistent_ofRejection r _ _
  refine ⟨rfl, (ofCode_of_mem_failures hconsistent.code).symm, ⟨rfl, rfl, ?_⟩, p, hbody,
    (Request.check_eq_ok_iff_describes.mp hcheck).text⟩
  rw [Event.ofFailure, hconsistent.reason]

/-! ## Exchanges -/

/-- An input, what was answered to it, and whether events were recorded at the time. -/
structure Exchange where
  recording : Bool
  input : Service.Input
  response : Option Response

namespace Exchange

/-- Events are recorded, and an instruction was posted and answered with the status 200, or with the
status 400 and a status code. -/
def isCounted (x : Exchange) : Bool :=
  match x.input, x.response with
  | .request r, some response =>
    x.recording && decide r.PostsInstruction &&
      (response.status == 200 || response.status == 400 && response.code?.isSome)
  | _, _ => false

/-- The event is the one of the exchange. -/
def Makes (x : Exchange) (e : Event) : Prop :=
  match x.input, x.response with
  | .request r, some response => e.AgreesWith r.body response
  | _, _ => False

/-- The events are those of the counted exchanges, one for each of them and in their order. -/
def MakeAll (xs : List Exchange) (made : List Event) : Prop :=
  List.Forall₂ Makes (xs.filter (·.isCounted)) made

lemma makeAll_append {xs ys : List Exchange} {made later : List Event} (hxs : MakeAll xs made)
    (hys : MakeAll ys later) : MakeAll (xs ++ ys) (made ++ later) := by
  rw [MakeAll, List.filter_append]
  exact List.rel_append hxs hys

lemma makeAll_singleton {x : Exchange} {e : Event} (hx : x.isCounted = true) (h : x.Makes e) :
    MakeAll [x] [e] := by
  rw [MakeAll, List.filter_cons, hx]
  exact .cons h .nil

lemma makeAll_nil {x : Exchange} (hx : x.isCounted = false) : MakeAll [x] [] := by
  rw [MakeAll, List.filter_cons, hx]
  exact .nil

end Exchange

namespace Service

/-- Whether events are recorded after an input. -/
def Input.switch (recording : Bool) : Input → Bool
  | .recording on => on
  | _ => recording

/-- The exchanges of a run, given its inputs and answers. -/
def exchanges : (recording : Bool) → List Input → List (Option Response) → List Exchange
  | recording, input :: inputs, response :: responses =>
    ⟨recording, input, response⟩ :: exchanges (input.switch recording) inputs responses
  | _, _, _ => []

/-- The session is as it is left by a history in which these events were made. -/
def HasMade (s : Service) (recording : Bool) (made : List Event) : Prop :=
  ∃ changes, s.session.Remembers Trail.standardCapacity changes ∧
    Change.switchAfter true changes = recording ∧ recordedSinceClear changes = made

namespace HasMade

variable {s : Service} {recording : Bool} {made : List Event}

lemma setRecording (h : s.HasMade recording made) (on : Bool) :
    (s.setRecording on).HasMade on made := by
  obtain ⟨changes, hremembers, _, rfl⟩ := h
  refine ⟨changes ++ [Change.enable on], hremembers.apply (.enable on), ?_,
    recordedSinceClear_enable on⟩
  rw [Change.switchAfter_concat]
  rfl

lemma keep (h : s.HasMade recording made) (e : Event) :
    (s.keep e).HasMade recording (made ++ if recording then [e] else []) := by
  obtain ⟨changes, hremembers, rfl, rfl⟩ := h
  refine ⟨changes ++ [Change.record e], hremembers.apply (.record e), ?_,
    recordedSinceClear_record e⟩
  rw [Change.switchAfter_concat]
  rfl

/-- A posted instruction adds its event if recording is on. -/
lemma posted (h : s.HasMade recording made) {r : WebRequest} (hpost : r.PostsInstruction)
    {e : Event} {response : Response} (hagrees : e.AgreesWith r.body response)
    (hstatus : response.status = 200 ∨ response.status = 400) :
    ∃ new, (s.keep e).HasMade recording (made ++ new) ∧
      Exchange.MakeAll [⟨recording, .request r, some response⟩] new := by
  refine ⟨_, h.keep e, ?_⟩
  have hcounted : (Exchange.mk recording (.request r) (some response)).isCounted = recording := by
    rcases hstatus with hstatus | hstatus <;>
      simp [Exchange.isCounted, hpost, hstatus, hagrees.code]
  cases recording with
  | true => exact Exchange.makeAll_singleton hcounted hagrees
  | false => exact Exchange.makeAll_nil hcounted

/-- Nothing else adds an event. -/
lemma unchanged (h : s.HasMade recording made) {x : Exchange} (hx : x.isCounted = false) :
    ∃ new, s.HasMade recording (made ++ new) ∧ Exchange.MakeAll [x] new :=
  ⟨[], by rwa [List.append_nil], Exchange.makeAll_nil hx⟩

/-- An input adds the event of its exchange, if there is one. -/
theorem step (h : s.HasMade recording made) (input : Input) :
    ∃ new, (s.step input).1.HasMade (input.switch recording) (made ++ new) ∧
      Exchange.MakeAll [⟨recording, input, (s.step input).2⟩] new := by
  cases input with
  | today day =>
    have hday : (s.setToday day).HasMade recording made := h
    exact hday.unchanged rfl
  | recording on => exact (h.setRecording on).unchanged rfl
  | request r =>
    rw [step_request]
    have hhandled := s.handled_handle r
    generalize s.handle r = out at hhandled
    cases hhandled with
    | other hpost response => exact h.unchanged (by simp [Exchange.isCounted, hpost])
    | posted hpost hposted =>
      cases hposted with
      | settled hbody hcheck hclear =>
        exact h.posted hpost (agreesWith_ofTransaction hbody hcheck hclear) (.inl rfl)
      | failed hbody hcheck hclear =>
        exact h.posted hpost (agreesWith_ofFailure hbody hcheck hclear) (.inr rfl)
      | other hsilent =>
        exact h.unchanged (by simp [Exchange.isCounted, hsilent.code, hsilent.status])

/-- A run adds the events of its exchanges, in their order. -/
theorem run (h : s.HasMade recording made) (inputs : List Input) :
    ∃ new, (s.run inputs).1.HasMade (inputs.foldl Input.switch recording) (made ++ new) ∧
      Exchange.MakeAll (exchanges recording inputs (s.run inputs).2) new := by
  induction inputs generalizing s recording made with
  | nil => exact ⟨[], by rwa [List.append_nil], .nil⟩
  | cons input later ih =>
    obtain ⟨first, hstep, hfirst⟩ := h.step input
    obtain ⟨rest, hrun, hrest⟩ := ih hstep
    refine ⟨first ++ rest, ?_, ?_⟩
    · rw [← List.append_assoc]
      exact hrun
    · rw [Service.run, exchanges, ← List.singleton_append]
      exact Exchange.makeAll_append hfirst hrest

end HasMade

end Service

/-! ## Listings -/

end Remittance
