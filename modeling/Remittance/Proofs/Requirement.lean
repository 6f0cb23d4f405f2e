import Mathlib.Tactic.Common
import Remittance.Rejection

/-!
# Requirements

A `Requirement` is a condition together with the status code of the rejection when it is not met.
The stages that turn instructions down check lists of them in order and stop at the first that is not
met.  `Decides rs result` says this of a result, and `decides_bind` puts the requirement of one more
check in front.
-/

namespace Remittance

/-- A value of two computations in a row comes from a value of the first. -/
lemma bind_eq_ok_iff {ε α β : Type} {x : Except ε α} {f : α → Except ε β} {b : β} :
    (x >>= f) = .ok b ↔ ∃ a, x = .ok a ∧ f a = .ok b := by
  cases x with
  | error e => exact ⟨fun h => (nomatch h), fun ⟨_, h, _⟩ => (nomatch h)⟩
  | ok a =>
    constructor
    · intro h
      exact ⟨a, rfl, h⟩
    · rintro ⟨a', ha, h⟩
      cases ha
      exact h

/-- An error of two computations in a row comes from the first of them, or from the second after a
value of the first. -/
lemma bind_eq_error_iff {ε α β : Type} {x : Except ε α} {f : α → Except ε β} {e : ε} :
    (x >>= f) = .error e ↔ x = .error e ∨ ∃ a, x = .ok a ∧ f a = .error e := by
  cases x with
  | error e' =>
    constructor
    · intro h
      cases h
      exact .inl rfl
    · rintro (h | ⟨_, h, _⟩)
      · cases h
        rfl
      · cases h
  | ok a =>
    constructor
    · intro h
      exact .inr ⟨a, rfl, h⟩
    · rintro (h | ⟨a', ha, h⟩)
      · cases h
      · cases ha
        exact h

/-- A condition and the status code of the rejection when it is not met. -/
structure Requirement where
  met : Prop
  code : StatusCode

namespace Requirement

/-- All requirements of a list are met. -/
def AllMet (rs : List Requirement) : Prop :=
  ∀ r ∈ rs, r.met

/-- The code belongs to the first requirement of a list that is not met. -/
def FirstUnmet (rs : List Requirement) (code : StatusCode) : Prop :=
  ∃ before r after, rs = before ++ r :: after ∧ AllMet before ∧ ¬ r.met ∧ r.code = code

/-! ## Lists of requirements -/

lemma allMet_append {rs ss : List Requirement} : AllMet (rs ++ ss) ↔ AllMet rs ∧ AllMet ss :=
  List.forall_mem_append

lemma allMet_cons {r : Requirement} {rs : List Requirement} :
    AllMet (r :: rs) ↔ r.met ∧ AllMet rs :=
  List.forall_mem_cons

lemma allMet_singleton {r : Requirement} : AllMet [r] ↔ r.met :=
  List.forall_mem_singleton

lemma not_firstUnmet_nil {code : StatusCode} : ¬ FirstUnmet [] code := by
  rintro ⟨before, r, after, heq, _⟩
  exact List.append_ne_nil_of_right_ne_nil before (List.cons_ne_nil r after) heq.symm

/-- The first requirement decides, unless it is met and leaves the decision to the later ones. -/
lemma firstUnmet_cons {r : Requirement} {rs : List Requirement} {code : StatusCode} :
    FirstUnmet (r :: rs) code ↔ (¬ r.met ∧ r.code = code) ∨ (r.met ∧ FirstUnmet rs code) := by
  constructor
  · rintro ⟨before, s, after, heq, hbefore, hs, hcode⟩
    cases before with
    | nil =>
      obtain ⟨rfl, _⟩ := List.cons.inj heq
      exact .inl ⟨hs, hcode⟩
    | cons b before =>
      obtain ⟨rfl, rfl⟩ := List.cons.inj heq
      obtain ⟨hb, hbefore⟩ := allMet_cons.mp hbefore
      exact .inr ⟨hb, before, s, after, rfl, hbefore, hs, hcode⟩
  · rintro (⟨hr, hcode⟩ | ⟨hr, before, s, after, rfl, hbefore, hs, hcode⟩)
    · exact ⟨[], r, rs, rfl, List.forall_mem_nil _, hr, hcode⟩
    · exact ⟨r :: before, s, after, rfl, allMet_cons.mpr ⟨hr, hbefore⟩, hs, hcode⟩

lemma firstUnmet_singleton {r : Requirement} {code : StatusCode} :
    FirstUnmet [r] code ↔ ¬ r.met ∧ r.code = code := by
  rw [firstUnmet_cons]
  exact or_iff_left fun h => not_firstUnmet_nil h.2

/-- Later requirements do not matter once one is not met. -/
lemma FirstUnmet.append {rs : List Requirement} {code : StatusCode} (h : FirstUnmet rs code)
    (ss : List Requirement) : FirstUnmet (rs ++ ss) code := by
  obtain ⟨before, r, after, rfl, hbefore, hr, hcode⟩ := h
  refine ⟨before, r, after ++ ss, ?_, hbefore, hr, hcode⟩
  rw [List.append_assoc, List.cons_append]

/-- Requirements that are met leave the decision to the later ones. -/
lemma FirstUnmet.after {rs ss : List Requirement} {code : StatusCode} (h : FirstUnmet ss code)
    (hrs : AllMet rs) : FirstUnmet (rs ++ ss) code := by
  obtain ⟨before, r, after, rfl, hbefore, hr, hcode⟩ := h
  refine ⟨rs ++ before, r, after, ?_, allMet_append.mpr ⟨hrs, hbefore⟩, hr, hcode⟩
  rw [List.append_assoc]

lemma FirstUnmet.code_mem {rs : List Requirement} {code : StatusCode} (h : FirstUnmet rs code) :
    code ∈ rs.map Requirement.code := by
  obtain ⟨before, r, after, rfl, _, _, rfl⟩ := h
  exact List.mem_map_of_mem (List.mem_append_right before List.mem_cons_self)

/-- Requirements that are met leave the decision to the later ones, and to nothing else. -/
lemma FirstUnmet.of_append {rs ss : List Requirement} {code : StatusCode}
    (h : FirstUnmet (rs ++ ss) code) (hrs : AllMet rs) : FirstUnmet ss code := by
  induction rs with
  | nil => exact h
  | cons r rs ih =>
    obtain ⟨hr, hrs⟩ := allMet_cons.mp hrs
    rcases firstUnmet_cons.mp h with ⟨hunmet, _⟩ | ⟨_, h⟩
    · exact absurd hr hunmet
    · exact ih h hrs

/-- Once the earlier requirements are met, a code that no later requirement has belongs to its own
requirement. -/
lemma firstUnmet_append_cons_iff {rs ss : List Requirement} {r : Requirement} (hrs : AllMet rs)
    (hss : r.code ∉ ss.map Requirement.code) :
    FirstUnmet (rs ++ r :: ss) r.code ↔ ¬ r.met := by
  constructor
  · intro h
    rcases firstUnmet_cons.mp (h.of_append hrs) with ⟨hr, _⟩ | ⟨_, h⟩
    · exact hr
    · exact absurd h.code_mem hss
  · intro hr
    exact ⟨rs, r, ss, rfl, hrs, hr, rfl⟩

lemma FirstUnmet.not_allMet {rs : List Requirement} {code : StatusCode} (h : FirstUnmet rs code) :
    ¬ AllMet rs := by
  obtain ⟨before, r, after, rfl, _, hr, _⟩ := h
  exact fun hall => hr (allMet_cons.mp (allMet_append.mp hall).2).1

/-- Only one code can be the first. -/
lemma FirstUnmet.unique {rs : List Requirement} {code code' : StatusCode}
    (h : FirstUnmet rs code) (h' : FirstUnmet rs code') : code = code' := by
  induction rs with
  | nil => exact absurd h not_firstUnmet_nil
  | cons r rs ih =>
    rcases firstUnmet_cons.mp h with ⟨hr, rfl⟩ | ⟨hr, h⟩
    · rcases firstUnmet_cons.mp h' with ⟨_, hcode⟩ | ⟨hr', _⟩
      · exact hcode
      · exact absurd hr' hr
    · rcases firstUnmet_cons.mp h' with ⟨hr', _⟩ | ⟨_, h'⟩
      · exact absurd hr hr'
      · exact ih h h'

/-! ## Results -/

/-- The result is one of a stage with these requirements: there is a value if all are met, and
otherwise the rejection has the code of the first that is not. -/
def Decides {α : Type} (rs : List Requirement) : Except Rejection α → Prop
  | .ok _ => AllMet rs
  | .error r => FirstUnmet rs r.code

lemma Decides.allMet {α : Type} {rs : List Requirement} {x : Except Rejection α} {a : α}
    (h : Decides rs x) (hx : x = .ok a) : AllMet rs := by
  rw [hx] at h
  exact h

lemma Decides.firstUnmet {α : Type} {rs : List Requirement} {x : Except Rejection α}
    {r : Rejection} (h : Decides rs x) (hx : x = .error r) : FirstUnmet rs r.code := by
  rw [hx] at h
  exact h

/-- There is a value if all requirements are met. -/
lemma Decides.exists_ok {α : Type} {rs : List Requirement} {x : Except Rejection α}
    (h : Decides rs x) (hmet : AllMet rs) : ∃ a, x = .ok a := by
  cases x with
  | ok a => exact ⟨a, rfl⟩
  | error r => exact absurd hmet (FirstUnmet.not_allMet h)

lemma Decides.exists_error {α : Type} {rs : List Requirement} {x : Except Rejection α}
    (h : Decides rs x) {code : StatusCode} (hunmet : FirstUnmet rs code) :
    ∃ r, x = .error r ∧ r.code = code := by
  cases x with
  | ok a => exact absurd h hunmet.not_allMet
  | error r => exact ⟨r, rfl, FirstUnmet.unique h hunmet⟩

/-- A requirement that is met anyway can be left out. -/
lemma Decides.of_cons {α : Type} {r : Requirement} {rs : List Requirement}
    {x : Except Rejection α} (h : Decides (r :: rs) x) (hr : r.met) : Decides rs x := by
  cases x with
  | ok a => exact (allMet_cons.mp h).2
  | error e =>
    rcases firstUnmet_cons.mp h with ⟨hunmet, _⟩ | ⟨_, hlater⟩
    · exact absurd hr hunmet
    · exact hlater

lemma decides_ok {α : Type} (a : α) : Decides [] (.ok a) :=
  List.forall_mem_nil _

lemma decides_ite {α : Type} {p : Prop} [Decidable p] (a : α) (r : Rejection) :
    Decides [⟨p, r.code⟩] (if p then .ok a else .error r) := by
  by_cases hp : p
  · rw [if_pos hp]
    exact allMet_singleton.mpr hp
  · rw [if_neg hp]
    exact firstUnmet_singleton.mpr ⟨hp, rfl⟩

/-- A guard requires that its condition for the rejection is not met. -/
lemma decides_guard {α : Type} {p : Prop} [Decidable p] (r : Rejection) {rs : List Requirement}
    {x : Except Rejection α} (hx : ¬ p → Decides rs x) :
    Decides (⟨¬ p, r.code⟩ :: rs) (if p then .error r else x) := by
  by_cases hp : p
  · rw [if_pos hp]
    exact firstUnmet_cons.mpr (.inl ⟨not_not.mpr hp, rfl⟩)
  · rw [if_neg hp]
    have hrs := hx hp
    cases x with
    | error r => exact firstUnmet_cons.mpr (.inr ⟨hp, hrs⟩)
    | ok a => exact allMet_cons.mpr ⟨hp, hrs⟩

lemma decides_unless {α : Type} {p : Prop} [Decidable p] (r : Rejection) {rs : List Requirement}
    {x : Except Rejection α} (hx : p → Decides rs x) :
    Decides (⟨p, r.code⟩ :: rs) (if ¬ p then .error r else x) := by
  have h : Decides (⟨¬ ¬ p, r.code⟩ :: rs) (if ¬ p then .error r else x) :=
    decides_guard r fun hp => hx (not_not.mp hp)
  rwa [not_not] at h

/-- The requirements of two stages in a row: those of the second come after those of the first. -/
lemma decides_append {α β : Type} {rs ss : List Requirement} {x : Except Rejection α}
    {f : α → Except Rejection β} (hx : Decides rs x) (hf : ∀ a, x = .ok a → Decides ss (f a)) :
    Decides (rs ++ ss) (x >>= f) := by
  cases x with
  | error e => exact FirstUnmet.append hx ss
  | ok a =>
    have hfa := hf a rfl
    change Decides (rs ++ ss) (f a)
    cases h : f a with
    | error e =>
      rw [h] at hfa
      exact FirstUnmet.after hfa hx
    | ok b =>
      rw [h] at hfa
      exact allMet_append.mpr ⟨hx, hfa⟩

/-- A check in front of a stage puts its requirement in front. -/
lemma decides_bind {α β : Type} {r : Requirement} {rs : List Requirement} {x : Except Rejection α}
    {f : α → Except Rejection β} (hx : Decides [r] x) (hf : ∀ a, x = .ok a → Decides rs (f a)) :
    Decides (r :: rs) (x >>= f) :=
  decides_append hx hf

/-- A check of every item of a list requires its condition of all of them. -/
lemma decides_mapM {α β : Type} (p : α → Prop) (code : StatusCode) {f : α → Except Rejection β}
    (hf : ∀ a, Decides [⟨p a, code⟩] (f a)) (as : List α) :
    Decides [⟨∀ a ∈ as, p a, code⟩] (as.mapM f) := by
  induction as with
  | nil => exact allMet_singleton.mpr (List.forall_mem_nil p)
  | cons a as ih =>
    rw [List.mapM_cons]
    have ha := hf a
    cases hfa : f a with
    | error r =>
      rw [hfa] at ha
      obtain ⟨hpa, hcode⟩ := firstUnmet_singleton.mp ha
      exact firstUnmet_singleton.mpr ⟨fun hall => hpa (List.forall_mem_cons.mp hall).1, hcode⟩
    | ok b =>
      rw [hfa] at ha
      cases has : as.mapM f with
      | error r =>
        rw [has] at ih
        obtain ⟨hpas, hcode⟩ := firstUnmet_singleton.mp ih
        exact firstUnmet_singleton.mpr ⟨fun hall => hpas (List.forall_mem_cons.mp hall).2, hcode⟩
      | ok bs =>
        rw [has] at ih
        exact allMet_singleton.mpr
          (List.forall_mem_cons.mpr ⟨allMet_singleton.mp ha, allMet_singleton.mp ih⟩)

end Requirement

end Remittance
