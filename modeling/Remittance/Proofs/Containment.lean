import Mathlib.Data.List.ReduceOption
import Mathlib.Data.Option.NAry
import Remittance.Proofs.Outcomes
import Remittance.Proofs.TrailHistory

/-!
# Recording is contained

The work of an action is to clear a payload, or to take an outcome that it is given, and to build
the event of it.  The event then goes to a target.  Building may fail, and so may the target.  In
the first case there is nothing to record, and the action fails (`Session.Takes.failed`).  In the
second the error is noted and goes no further: the action is answered with its event, and the
session is as it was (`Session.Records.lost`).  `Session.takes_step` says so of one action and
`Session.takesAll_run` of a run.

Nothing flows back from a recording to the work.  `Session.done` pairs each piece of work of a run
with what came of it, and that is the same in all sessions and for all targets (`Session.done_eq`).
So recordings can be taken out of a run, turned off or sent to targets that fail, and the work that
remains is not affected.

Trails are bounded: what an event adds to a full one is told by `Trail.Gains`.
-/

namespace Remittance.Audit

/-! ## Adding to a trail -/

/-- The event was added behind those that were held.  A full trail drops its oldest event for it;
where there is room for none at all, that is the new event itself. -/
structure Trail.Gains (before : Trail) (e : Event) (after : Trail) : Prop where
  capacity : after.capacity = before.capacity
  room : before.size < before.capacity → after.events = before.events ++ [e]
  full : before.size = before.capacity → after.events = (before.events ++ [e]).tail

lemma Trail.gains_append (t : Trail) (e : Event) : t.Gains e (t.append e) := by
  have hlength : (t.events ++ [e]).length = t.size + 1 := List.length_append
  refine ⟨rfl, fun hroom => ?_, fun hfull => ?_⟩
  · change lastItems t.capacity (t.events ++ [e]) = _
    rw [lastItems, hlength, Nat.sub_eq_zero_of_le hroom, List.drop_zero]
  · change lastItems t.capacity (t.events ++ [e]) = _
    rw [lastItems, hlength, hfull, Nat.add_sub_cancel_left, List.drop_one]

/-! ## Recording an event -/

namespace Session

/-- What the recording of an event leaves: nothing new while it is turned off, the event and one
information if the target takes the event, and one error alone if the target fails.  There is no
other way in which it ends. -/
inductive Records (s : Session) (e : Event) (target : Target) : Session × List Record → Prop
  | off (hoff : s.enabled = false) : Records s e target (s, [])
  | kept {trail : Trail} (hon : s.enabled = true) (happend : target.append s.trail e = .ok trail)
      (hgains : s.trail.Gains e trail) (hlevel : e.kept.level = .info) :
      Records s e target ({ s with trail }, [e.kept])
  | lost {reason : String} (hon : s.enabled = true)
      (happend : target.append s.trail e = .error reason)
      (hlevel : (e.lost reason).level = .error) :
      Records s e target (s, [e.lost reason])

lemma records_record (s : Session) (e : Event) (target : Target) :
    s.Records e target (s.record target e) := by
  cases hswitch : s.enabled with
  | false =>
    rw [record, if_neg (by rw [hswitch]; exact Bool.false_ne_true)]
    exact .off hswitch
  | true =>
    rw [record, if_pos hswitch]
    cases target with
    | trail => exact .kept hswitch rfl (s.trail.gains_append e) rfl
    | failing reason => exact .lost hswitch rfl rfl

end Session

/-! ## Work -/

/-- What an action does before its event is recorded. -/
inductive Work where
  | process (payload : Json) (today : Day)
  | build (text : String) (transaction : Option Transaction) (failure : Option Failure)

namespace Work

/-- The action that does the work and sends its event to a target. -/
def sentTo (target : Target) : Work → Action
  | .process payload today => .process payload today target
  | .build text transaction failure => .record text transaction failure target

/-- The event of the work, or why there is none. -/
def outcome : Work → Except ActionError Event
  | .process payload today =>
    Session.eventOf (Session.givenText payload) (clearPayload payload today).outcome
  | .build text transaction failure =>
    match Event.build? text transaction failure with
    | some e => .ok e
    | none => .error .notExactlyOne

/-- What comes of a piece of work.  A payload that conforms has the event of what its clearing comes
to, and any other has none; of two outcomes exactly one must be given. -/
inductive Yields : Work → Except ActionError Event → Prop
  | transaction {payload : Json} {today : Day} {t : Transaction} (hconforms : payload.Conforms)
      (houtcome : (clearPayload payload today).outcome = .ok t) :
      Yields (.process payload today) (.ok (.ofTransaction (Session.givenText payload) t))
  | failure {payload : Json} {today : Day} {f : Failure} (hconforms : payload.Conforms)
      (houtcome : (clearPayload payload today).outcome = .error (.failure f)) :
      Yields (.process payload today) (.ok (.ofFailure (Session.givenText payload) f))
  | violations {payload : Json} {today : Day} {found : List Violation}
      (hconforms : ¬payload.Conforms)
      (houtcome : (clearPayload payload today).outcome = .error (.violations found)) :
      Yields (.process payload today) (.error (.refused (.violations found)))
  | givenTransaction {text : String} {t : Transaction} :
      Yields (.build text (some t) none) (.ok (.ofTransaction text t))
  | givenFailure {text : String} {f : Failure} :
      Yields (.build text none (some f)) (.ok (.ofFailure text f))
  | notExactlyOne {text : String} {transaction : Option Transaction} {failure : Option Failure}
      (hgiven : transaction.isSome = failure.isSome) :
      Yields (.build text transaction failure) (.error .notExactlyOne)

lemma yields_outcome (w : Work) : w.Yields w.outcome := by
  cases w with
  | process payload today =>
    have hcomes := comesTo_clearPayload payload today
    rw [outcome]
    cases houtcome : (clearPayload payload today).outcome with
    | ok t =>
      rw [houtcome] at hcomes
      exact .transaction hcomes.1 houtcome
    | error refusal =>
      rw [houtcome] at hcomes
      cases refusal with
      | violations found => exact .violations hcomes.1 houtcome
      | failure f => exact .failure hcomes.1 houtcome
      -- No clearing ends in a fault, so that a payload that conforms has an event.
      | fault f => exact hcomes.elim
  | build text transaction failure =>
    cases transaction with
    | none =>
      cases failure with
      | none => exact .notExactlyOne rfl
      | some f => exact .givenFailure
    | some t =>
      cases failure with
      | none => exact .givenTransaction
      | some f => exact .notExactlyOne rfl

end Work

/-- Nothing but its outcome comes of a piece of work. -/
lemma Work.Yields.eq_outcome {w : Work} {outcome : Except ActionError Event}
    (h : w.Yields outcome) : outcome = w.outcome := by
  cases h with
  | transaction _ houtcome => rw [Work.outcome, houtcome]; rfl
  | failure _ houtcome => rw [Work.outcome, houtcome]; rfl
  | violations _ houtcome => rw [Work.outcome, houtcome]; rfl
  | givenTransaction => rfl
  | givenFailure => rfl
  | @notExactlyOne _ transaction failure hgiven =>
    cases transaction with
    | none =>
      cases failure with
      | none => rfl
      | some f => cases hgiven
    | some t =>
      cases failure with
      | none => cases hgiven
      | some f => rfl

lemma Work.existsUnique_yields (w : Work) : ∃! outcome, w.Yields outcome :=
  ⟨w.outcome, w.yields_outcome, fun _ h => h.eq_outcome⟩

/-! ## Steps and runs -/

namespace Session

/-- What an action leaves of a session, and how it is answered.  An action that has work to do is
answered with the event, whatever became of the recording, and fails only if there is no event; then
nothing is recorded. -/
inductive Takes (s : Session) : Action → Session × Answer → Prop
  | size : Takes s .size (s, .size s.trail.size)
  | recent {limit : Option Int} : Takes s (.recent limit) (s, .events (s.trail.recent limit))
  | clear : Takes s .clear ({ s with trail := .empty s.trail.capacity }, .size 0)
  | enable {on : Bool} : Takes s (.enable on) ({ s with enabled := on }, .switched on)
  | recorded {w : Work} {target : Target} {e : Event} {after : Session} {records : List Record}
      (hyields : w.Yields (.ok e)) (hrecords : s.Records e target (after, records)) :
      Takes s (w.sentTo target) (after, .recorded e after.trail.size records)
  | failed {w : Work} {target : Target} {error : ActionError} (hyields : w.Yields (.error error)) :
      Takes s (w.sentTo target) (s, .failed error)

/-- Each action of a list is taken by the session that the one before it left. -/
inductive TakesAll : Session → List Action → Session × List Answer → Prop
  | nil (s : Session) : TakesAll s [] (s, [])
  | cons {s s' s'' : Session} {action : Action} {answer : Answer} {later : List Action}
      {answers : List Answer} (hfirst : s.Takes action (s', answer))
      (hlater : TakesAll s' later (s'', answers)) :
      TakesAll s (action :: later) (s'', answer :: answers)

lemma step_sentTo (s : Session) (w : Work) (target : Target) :
    s.step (w.sentTo target) =
      match w.outcome with
      | .ok e => s.recordAndAnswer target e
      | .error error => (s, .failed error) := by
  cases w with
  | process payload today => rfl
  | build text transaction failure =>
    rw [Work.sentTo, step, Work.outcome]
    cases Event.build? text transaction failure <;> rfl

lemma takes_sentTo (s : Session) (w : Work) (target : Target) :
    s.Takes (w.sentTo target) (s.step (w.sentTo target)) := by
  have hyields := w.yields_outcome
  rw [step_sentTo]
  cases houtcome : w.outcome with
  | ok e =>
    rw [houtcome] at hyields
    exact .recorded hyields (s.records_record e target)
  | error error =>
    rw [houtcome] at hyields
    exact .failed hyields

theorem takes_step (s : Session) (action : Action) : s.Takes action (s.step action) := by
  cases action with
  | size => exact .size
  | clear => exact .clear
  | recent limit => exact .recent
  | enable on => exact .enable
  | process payload today target => exact s.takes_sentTo (.process payload today) target
  | record text transaction failure target =>
    exact s.takes_sentTo (.build text transaction failure) target

theorem takesAll_run (s : Session) (actions : List Action) :
    s.TakesAll actions (s.run actions) := by
  induction actions generalizing s with
  | nil => exact .nil s
  | cons action later ih => exact .cons (s.takes_step action) (ih _)

end Session

/-! ## Work and what comes of it -/

/-- The work of an action, wherever its event goes. -/
def Action.work? : Action → Option Work
  | .process payload today _ => some (.process payload today)
  | .record text transaction failure _ => some (.build text transaction failure)
  | _ => none

/-- What an answer says of the work: the event that was built, or why there is none. -/
def Answer.outcome? : Answer → Option (Except ActionError Event)
  | .recorded e _ _ => some (.ok e)
  | .failed error => some (.error error)
  | _ => none

/-- The work of an action with what came of it. -/
def Action.done? (action : Action) (answer : Answer) : Option (Work × Except ActionError Event) :=
  Option.map₂ Prod.mk action.work? answer.outcome?

namespace Session

/-- The work of a run, in its order, each piece with what came of it. -/
def done (s : Session) (actions : List Action) : List (Work × Except ActionError Event) :=
  (List.zipWith Action.done? actions (s.run actions).2).reduceOption

lemma done?_step_sentTo (s : Session) (w : Work) (target : Target) :
    (w.sentTo target).done? (s.step (w.sentTo target)).2 = some (w, w.outcome) := by
  have hwork : (w.sentTo target).work? = some w := by cases w <;> rfl
  rw [Action.done?, hwork, step_sentTo]
  cases w.outcome <;> rfl

/-- Neither the session nor the target has a part in what comes of the work. -/
lemma done?_step (s : Session) (action : Action) :
    action.done? (s.step action).2 = action.work?.map fun w => (w, w.outcome) := by
  cases action with
  | size => rfl
  | clear => rfl
  | recent limit => rfl
  | enable on => rfl
  | process payload today target => exact s.done?_step_sentTo (.process payload today) target
  | record text transaction failure target =>
    exact s.done?_step_sentTo (.build text transaction failure) target

/-- What came of the work of a run is seen from the work alone. -/
lemma done_eq (s : Session) (actions : List Action) :
    s.done actions = (actions.filterMap Action.work?).map fun w => (w, w.outcome) := by
  induction actions generalizing s with
  | nil => rfl
  | cons action later ih =>
    -- The later actions find another session, with or without the event of the first one.
    have hlater := ih (s.step action).1
    rw [done] at hlater ⊢
    rw [run, List.zipWith_cons_cons, done?_step, List.filterMap_cons]
    cases action.work? with
    | none => exact hlater
    | some w => exact congrArg (_ :: ·) hlater

/-- Every action of a run is taken as it should be, and each piece of work has one outcome.  If
recordings are taken out of the run, turned off or broken, the work that remains comes to the same:
whatever else the second run does, wherever its events go and in whatever session it begins, each
piece of its work has the outcome that it has in the first run. -/
theorem run_contained (s : Session) (actions : List Action) :
    s.TakesAll actions (s.run actions) ∧
      (∀ w : Work, ∃! outcome, w.Yields outcome) ∧
      ∀ (s' : Session) (actions' : List Action),
        (actions'.filterMap Action.work?).Sublist (actions.filterMap Action.work?) →
        (s'.done actions').Sublist (s.done actions) := by
  refine ⟨s.takesAll_run actions, Work.existsUnique_yields, fun s' actions' hwork => ?_⟩
  rw [done_eq, done_eq]
  exact hwork.map _

end Session

/-- A misspelt instruction. -/
def misspelt : Work :=
  .process (.object [("accounts", .array []), ("instruction", .string "SEND 5 USD")])
    ⟨2026, 1, 1, by decide⟩

/-- An event of no outcome. -/
def unfounded : Work :=
  .build "DEBIT 5 USD" none none

/-- An event of a transaction. -/
def carriedOut : Work :=
  .build "DEBIT 5 USD" (some ⟨"DEBIT", 5, "USD", "a", "b", none, .successful, "AP00", []⟩) none

/-- Work whose events are all meant for the trail. -/
def threeRecordings : List Action :=
  [misspelt.sentTo .trail, unfounded.sentTo .trail, carriedOut.sentTo .trail]

/-- The first recording is broken, the second one is left out, and the third one is turned off. -/
def meddledRecordings : List Action :=
  [misspelt.sentTo .broken, .enable false, carriedOut.sentTo .trail]

/-- The one run fills a trail with room for one event, and the other one leaves its trail empty. -/
theorem run_contained_meddled :
    (meddledRecordings.filterMap Action.work?).Sublist
        (threeRecordings.filterMap Action.work?) ∧
      ((Session.start 5).done meddledRecordings).Sublist
        ((Session.start 1).done threeRecordings) ∧
      ((Session.start 5).run meddledRecordings).1.trail.size = 0 ∧
      ((Session.start 1).run threeRecordings).1.trail.size = 1 := by
  have hwork : [misspelt, carriedOut].Sublist [misspelt, unfounded, carriedOut] :=
    .cons_cons _ (.cons _ (.refl _))
  obtain ⟨_, _, hdone⟩ := Session.run_contained (Session.start 1) threeRecordings
  exact ⟨hwork, hdone (Session.start 5) meddledRecordings hwork, by decide +kernel,
    by decide +kernel⟩

end Remittance.Audit
