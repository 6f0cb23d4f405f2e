import Mathlib.Data.List.DropRight
import Mathlib.Tactic.Common
import Remittance.Audit.Session

/-!
# What a trail keeps of its history

A trail drops its oldest events one at a time, whenever a new one comes.  `LastOf` says without any
reference to that process which events it ends up with, and `Trail.KeepsLatest` what it shows of
them.  The history itself is a list of `Change`s, of which `recordedSinceClear` picks the events
that count: those recorded while the switch was on, and after everything was last forgotten.

One change preserves what is kept (`Session.Remembers.apply`); histories of any length follow by an
induction that takes off the last change (`Session.remembers_applyAll`).
-/

namespace Remittance.Audit

/-! ## The last items of a list -/

/-- The items are the last `n` of a list, or all of them if there are fewer. -/
def LastOf {α : Type} (n : Nat) (items all : List α) : Prop :=
  items <:+ all ∧ items.length = min n all.length

namespace LastOf

variable {α : Type} {m n : Nat} {items held all : List α}

lemma nil (n : Nat) : LastOf n ([] : List α) [] :=
  ⟨List.suffix_refl [], by simp⟩

lemma lastItems (n : Nat) (all : List α) : LastOf n (Trail.lastItems n all) all := by
  refine ⟨List.drop_suffix _ all, ?_⟩
  rw [Trail.lastItems, List.length_drop]
  omega

/-- The last of the last items are the last ones of all. -/
lemma trans (hitems : LastOf m items held) (hheld : LastOf n held all) :
    LastOf (min m n) items all := by
  refine ⟨hitems.1.trans hheld.1, ?_⟩
  rw [hitems.2, hheld.2, Nat.min_assoc]

/-- To keep the last items it is enough to add the new item to those that were kept before. -/
lemma concat (h : LastOf n held all) (item : α) :
    LastOf n (Trail.lastItems n (held ++ [item])) (all ++ [item]) := by
  obtain ⟨⟨front, rfl⟩, hlength⟩ := h
  obtain ⟨hsuffix, hlast⟩ := lastItems n (held ++ [item])
  refine ⟨?_, ?_⟩
  · rw [List.append_assoc]
    exact hsuffix.trans (List.suffix_append front _)
  · rw [hlast]
    simp only [List.length_append, List.length_singleton] at hlength ⊢
    omega

end LastOf

/-! ## Histories -/

/-- A step that changes what is kept, or whether anything is. -/
inductive Change where
  | record (e : Event)
  | clear
  /-- Turn recording on or off. -/
  | enable (on : Bool)
deriving DecidableEq

namespace Change

/-- The event of a change. -/
def event? : Change → Option Event
  | .record e => some e
  | _ => none

/-- The switch after a change, given the one before it. -/
def switch (on : Bool) : Change → Bool
  | .enable on' => on'
  | _ => on

/-- The switch after some changes. -/
def switchAfter (on : Bool) (changes : List Change) : Bool :=
  changes.foldl switch on

/-- The changes, each with the switch as it found it. -/
def withSwitch : (on : Bool) → List Change → List (Bool × Change)
  | _, [] => []
  | on, change :: later => (on, change) :: withSwitch (change.switch on) later

end Change

/-- The events that were recorded while the switch was on and since all events were last forgotten,
in their order.  The switch is on at first. -/
def recordedSinceClear (changes : List Change) : List Event :=
  ((Change.withSwitch true changes).rtakeWhile fun (_, change) => change ≠ .clear).filterMap
    fun (on, change) => if on then change.event? else none

example (e f g : Event) :
    recordedSinceClear [.record e, .clear, .record f, .enable false, .record g] = [f] :=
  rfl

section Recorded

variable {changes : List Change}

lemma Change.switchAfter_concat (on : Bool) (changes : List Change) (change : Change) :
    switchAfter on (changes ++ [change]) = change.switch (switchAfter on changes) := by
  rw [switchAfter, switchAfter, List.foldl_concat]

lemma Change.withSwitch_concat (on : Bool) (changes : List Change) (change : Change) :
    withSwitch on (changes ++ [change]) =
      withSwitch on changes ++ [(switchAfter on changes, change)] := by
  induction changes generalizing on with
  | nil => rfl
  | cons first later ih =>
    rw [List.cons_append, withSwitch, ih, withSwitch, List.cons_append]
    rfl

lemma recordedSinceClear_clear : recordedSinceClear (changes ++ [.clear]) = [] := by
  rw [recordedSinceClear, Change.withSwitch_concat, List.rtakeWhile_concat, if_neg (by simp)]
  rfl

lemma recordedSinceClear_enable (on : Bool) :
    recordedSinceClear (changes ++ [.enable on]) = recordedSinceClear changes := by
  rw [recordedSinceClear, Change.withSwitch_concat, List.rtakeWhile_concat, if_pos (by simp),
    List.filterMap_append, recordedSinceClear]
  simp [Change.event?]

lemma recordedSinceClear_record (e : Event) :
    recordedSinceClear (changes ++ [.record e]) =
      recordedSinceClear changes ++ if Change.switchAfter true changes then [e] else [] := by
  rw [recordedSinceClear, Change.withSwitch_concat, List.rtakeWhile_concat, if_pos (by simp),
    List.filterMap_append, recordedSinceClear]
  cases Change.switchAfter true changes <;> rfl

end Recorded

/-! ## Sessions and their history -/

namespace Session

/-- The session after a change. -/
def apply (s : Session) : Change → Session
  | .record e => (s.record .trail e).1
  | .clear => (s.step .clear).1
  | .enable on => (s.step (.enable on)).1

/-- The session after some changes, one after the other. -/
def applyAll (s : Session) (changes : List Change) : Session :=
  changes.foldl apply s

lemma record_trail_of_enabled {s : Session} (h : s.enabled = true) (e : Event) :
    (s.record .trail e).1 = { s with trail := s.trail.append e } := by
  rw [record, if_pos h]
  rfl

lemma record_of_disabled {s : Session} (h : s.enabled = false) (target : Target) (e : Event) :
    (s.record target e).1 = s := by
  have hoff : ¬ s.enabled = true := by rw [h]; exact Bool.false_ne_true
  unfold record
  rw [if_neg hoff]

/-- The session is as the changes of a history leave one of the given capacity. -/
structure Remembers (s : Session) (capacity : Nat) (changes : List Change) : Prop where
  room : s.trail.capacity = capacity
  enabled : s.enabled = Change.switchAfter true changes
  events : LastOf capacity s.trail.events (recordedSinceClear changes)

lemma Remembers.apply {s : Session} {capacity : Nat} {changes : List Change}
    (h : s.Remembers capacity changes) (change : Change) :
    (s.apply change).Remembers capacity (changes ++ [change]) := by
  obtain ⟨hroom, henabled, hevents⟩ := h
  cases change with
  | clear =>
    refine ⟨hroom, ?_, ?_⟩
    · rw [Change.switchAfter_concat]
      exact henabled
    · rw [recordedSinceClear_clear]
      exact .nil capacity
  | enable on =>
    refine ⟨hroom, ?_, ?_⟩
    · rw [Change.switchAfter_concat]
      rfl
    · rw [recordedSinceClear_enable]
      exact hevents
  | record e =>
    rw [Session.apply]
    cases hon : Change.switchAfter true changes with
    | true =>
      rw [record_trail_of_enabled (henabled.trans hon)]
      refine ⟨hroom, ?_, ?_⟩
      · rw [Change.switchAfter_concat]
        exact henabled
      · rw [recordedSinceClear_record, hon, if_pos rfl]
        subst hroom
        exact hevents.concat e
    | false =>
      rw [record_of_disabled (henabled.trans hon)]
      refine ⟨hroom, ?_, ?_⟩
      · rw [Change.switchAfter_concat]
        exact henabled
      · rw [recordedSinceClear_record, hon, if_neg Bool.false_ne_true, List.append_nil]
        exact hevents

/-- The induction takes off the last change, because a trail forgets at its front. -/
lemma remembers_applyAll (capacity : Nat) (changes : List Change) :
    ((start capacity).applyAll changes).Remembers capacity changes := by
  induction changes using List.reverseRecOn with
  | nil => exact ⟨rfl, rfl, .nil capacity⟩
  | append_singleton earlier change ih =>
    rw [applyAll, List.foldl_concat]
    exact ih.apply change

end Session

/-! ## What a trail shows -/

/-- What is listed of the events that are held: all of them without a limit or with the limit zero,
as many of the last ones as a positive limit says, and all but as many of the first ones as a
negative limit says. -/
def IsListing (limit : Option Int) (held listed : List Event) : Prop :=
  match limit with
  | none => listed = held
  | some limit =>
    (limit = 0 → listed = held) ∧
      (0 < limit → LastOf limit.toNat listed held) ∧
      (limit < 0 → ∃ front, held = front ++ listed ∧
        front.length = min (-limit).toNat held.length)

lemma Trail.isListing_recent (t : Trail) (limit : Option Int) :
    IsListing limit t.events (t.recent limit) := by
  cases limit with
  | none => rfl
  | some limit =>
    refine ⟨fun hzero => ?_, fun hpos => ?_, fun hneg => ?_⟩
    · rw [recent, if_pos hzero]
    · rw [recent, if_neg (Int.ne_of_gt hpos), if_pos hpos]
      exact .lastItems limit.toNat t.events
    · rw [recent, if_neg (Int.ne_of_lt hneg), if_neg (Int.lt_asymm hneg)]
      refine ⟨t.events.take (-limit).toNat, ?_, ?_⟩
      · rw [List.take_append_drop]
      · rw [List.length_take]

/-- The trail holds the last of the recorded events that there is room for, tells their number, and
lists them as asked. -/
structure Trail.KeepsLatest (t : Trail) (capacity : Nat) (recorded : List Event) : Prop where
  held : LastOf capacity t.events recorded
  size : t.size = min capacity recorded.length
  recent : ∀ limit, IsListing limit t.events (t.recent limit)

lemma Session.Remembers.keepsLatest {s : Session} {capacity : Nat} {changes : List Change}
    (h : s.Remembers capacity changes) :
    s.trail.KeepsLatest capacity (recordedSinceClear changes) where
  held := h.events
  size := h.events.2
  recent := s.trail.isListing_recent

/-- However events are recorded, forgotten and left out, a trail keeps the latest of those that
count. -/
theorem trail_keepsLatest (capacity : Nat) (changes : List Change) :
    ((Session.start capacity).applyAll changes).trail.KeepsLatest capacity
      (recordedSinceClear changes) :=
  (Session.remembers_applyAll capacity changes).keepsLatest

end Remittance.Audit
