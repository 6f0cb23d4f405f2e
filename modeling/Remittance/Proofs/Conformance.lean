import Remittance.Proofs.Acceptance
import Remittance.Proofs.Rounding

/-!
# Payloads of the schema

`Json.DescribesRequest` is the schema of requests as a relation between payloads and requests.  It
says for each field what the payload has to hold there and which value that gives, and does not
mention the checks, their order or their violations.  A payload `Conforms` if it describes a request.

`Request.check_eq_ok_iff_describes` says that the check of a payload gives exactly the request that
the payload describes.  A payload that does not conform is therefore refused, and the refusal names
at least one violation (`Request.check_ne_error_nil`).
-/

namespace Remittance

namespace Json

/-! ## The schema -/

/-- The payload is an object with a field of which the condition holds. -/
def HasField (payload : Json) (name : String) (p : Json → Prop) : Prop :=
  ∃ members value, payload = .object members ∧ member? name members = some value ∧ p value

lemma HasField.imp {payload : Json} {name : String} {p q : Json → Prop}
    (h : payload.HasField name p) (hpq : ∀ value, p value → q value) : payload.HasField name q := by
  obtain ⟨members, value, hmembers, hvalue, hp⟩ := h
  exact ⟨members, value, hmembers, hvalue, hpq value hp⟩

/-- A field gives a property of its value that does not mention the value. -/
lemma HasField.elim {payload : Json} {name : String} {p : Json → Prop} {q : Prop}
    (h : payload.HasField name p) (hpq : ∀ value, p value → q) : q := by
  obtain ⟨_, value, _, _, hp⟩ := h
  exact hpq value hp

/-- The value is a string that gives the text, which is not empty, once its ends are trimmed. -/
def GivesText (value : Json) (text : String) : Prop :=
  ∃ s, value = .string s ∧ text = Text.trim s ∧ text ≠ ""

/-- The value is a string, with lone surrogates or without, that gives the currency once its ends are
trimmed and it is put in upper case. -/
def GivesCurrency (value : Json) (currency : String) : Prop :=
  ∃ s, (value = .string s ∨ value = .brokenString s) ∧ currency = Text.upper (Text.trim s)

/-- What counts as an integer: an integer, a truth value, a floating-point number without a fraction
below a certain size, and the text of an integer. -/
inductive CountsAs : Json → Int → Prop
  | integer (n : Int) : CountsAs (.integer n) n
  | yes : CountsAs (.bool true) 1
  | no : CountsAs (.bool false) 0
  | float {negative : Bool} {x : Numeral.Magnitude} {n : Int}
    (hvalue : Numeral.signFactor negative * x.value = n) (hsize : n.natAbs < floatIntegerLimit) :
    CountsAs (.float (.finite negative x)) n
  | text {s : String} {n : Int} (hread : Numeral.readFieldInteger s = .ok n) :
    CountsAs (.string s) n

/-- The payload is of the schema of accounts and describes this one. -/
structure DescribesAccount (payload : Json) (a : Account) : Prop where
  id : payload.HasField "id" fun value => value.GivesText a.id
  balance : payload.HasField "balance" fun value => value.CountsAs a.balance
  balance_nonneg : 0 ≤ a.balance
  currency : payload.HasField "currency" fun value => value.GivesCurrency a.currency

/-- The payload is of the schema of requests and describes this one. -/
structure DescribesRequest (payload : Json) (r : Request) : Prop where
  accounts : payload.HasField "accounts" fun value =>
    ∃ items, value = .array items ∧ List.Forall₂ DescribesAccount items r.accounts
  text : payload.HasField "instruction" fun value => value.GivesText r.text

/-- The payload is of the schema of requests. -/
def Conforms (payload : Json) : Prop :=
  ∃ r, payload.DescribesRequest r

/-! ## Checks of values -/

lemma checkTrimmed_eq_ok_iff {value : Json} {text : String} :
    checkTrimmed value = .ok text ↔ value.GivesText text := by
  constructor
  · intro h
    cases value
    case string s =>
      rw [checkTrimmed] at h
      split at h
      · cases h
      next hne =>
        cases h
        exact ⟨s, rfl, rfl, fun hempty => hne (String.isEmpty_iff.mpr hempty)⟩
    all_goals cases h
  · rintro ⟨s, rfl, rfl, hne⟩
    exact if_neg fun hempty => hne (String.isEmpty_iff.mp hempty)

lemma checkCurrency_eq_ok_iff {value : Json} {currency : String} :
    checkCurrency value = .ok currency ↔ value.GivesCurrency currency := by
  constructor
  · intro h
    cases value
    case string s => exact ⟨s, .inl rfl, (Except.ok.inj h).symm⟩
    case brokenString s => exact ⟨s, .inr rfl, (Except.ok.inj h).symm⟩
    all_goals cases h
  · rintro ⟨s, rfl | rfl, rfl⟩ <;> rfl

lemma checkIntegerText_eq_ok_iff {s : String} {n : Int} :
    checkIntegerText s = .ok n ↔ Numeral.readFieldInteger s = .ok n := by
  rw [checkIntegerText]
  rcases Numeral.readFieldInteger s with (_ | _) | m
  · exact ⟨fun h => (nomatch h), fun h => (nomatch h)⟩
  · exact ⟨fun h => (nomatch h), fun h => (nomatch h)⟩
  · simp

lemma checkInteger_eq_ok_iff {value : Json} {n : Int} :
    checkInteger value = .ok n ↔ value.CountsAs n := by
  constructor
  · intro h
    cases value
    case integer m =>
      cases h
      exact .integer n
    case bool b =>
      cases b <;> cases h
      · exact .no
      · exact .yes
    case float x =>
      cases x
      case finite negative x =>
        rw [checkInteger] at h
        split at h
        · cases h
        split at h
        next m hm =>
          split at h
          next hsize =>
            cases h
            exact .float (Numeral.Binary64.toInt?_finite_eq_some_iff.mp hm) hsize
          · cases h
        · cases h
      all_goals cases h
    case string s => exact .text (checkIntegerText_eq_ok_iff.mp h)
    all_goals cases h
  · intro h
    cases h with
    | integer n => rfl
    | yes => rfl
    | no => rfl
    | float hvalue hsize =>
      have hint := Numeral.Binary64.toInt?_finite_eq_some_iff.mpr hvalue
      rw [checkInteger, hint]
      exact if_pos hsize
    | text hread => exact checkIntegerText_eq_ok_iff.mpr hread

lemma checkRecord_eq_ok_iff {intake : Intake} {record : String} {payload : Json}
    {members : List (String × Json)} :
    payload.checkRecord intake record = .ok members ↔ payload = .object members := by
  constructor
  · intro h
    cases payload
    case object members' => rw [Except.ok.inj h]
    all_goals cases intake <;> cases h
  · rintro rfl
    rfl

/-- A field of an object passes its check if there is one whose value does. -/
lemma checkField_eq_ok_iff_hasField {α : Type} {name : String} {check : Json → Checked α}
    {members : List (String × Json)} {a : α} :
    checkField name check members = .ok a ↔
      HasField (.object members) name fun value => check value = .ok a := by
  rw [checkField_eq_ok_iff]
  constructor
  · rintro ⟨value, hvalue, h⟩
    exact ⟨members, value, rfl, hvalue, h⟩
  · rintro ⟨_, value, hmembers, hvalue, h⟩
    cases hmembers
    exact ⟨value, hvalue, h⟩

end Json

/-! ## Checks of records -/

lemma Account.check_eq_ok_iff_describes {intake : Intake} {payload : Json} {a : Account} :
    check intake payload = .ok a ↔ payload.DescribesAccount a := by
  simp only [check_eq_ok_iff, Json.checkRecord_eq_ok_iff, Json.checkField_eq_ok_iff_hasField,
    Json.checkTrimmed_eq_ok_iff, Json.checkAtLeast_eq_ok_iff, Json.checkInteger_eq_ok_iff,
    Json.checkCurrency_eq_ok_iff]
  constructor
  · rintro ⟨members, rfl, hid, ⟨members', value, hmembers, hvalue, hbalance, hnonneg⟩, hcurrency⟩
    exact ⟨hid, ⟨members', value, hmembers, hvalue, hbalance⟩, hnonneg, hcurrency⟩
  · rintro ⟨hid, ⟨members, value, rfl, hvalue, hbalance⟩, hnonneg, hcurrency⟩
    exact ⟨members, rfl, hid, ⟨members, value, rfl, hvalue, hbalance, hnonneg⟩, hcurrency⟩

/-- The check of a payload gives the request that the payload describes. -/
theorem Request.check_eq_ok_iff_describes {intake : Intake} {payload : Json} {r : Request} :
    check intake payload = .ok r ↔ payload.DescribesRequest r := by
  simp only [check_eq_ok_iff, Json.checkRecord_eq_ok_iff, Json.checkField_eq_ok_iff_hasField,
    Json.checkTrimmed_eq_ok_iff, Json.checkList_eq_ok_iff, Account.check_eq_ok_iff_describes]
  constructor
  · rintro ⟨members, rfl, haccounts, htext⟩
    exact ⟨haccounts, htext⟩
  · rintro ⟨⟨members, value, rfl, hvalue, haccounts⟩, htext⟩
    exact ⟨members, rfl, ⟨members, value, rfl, hvalue, haccounts⟩, htext⟩

/-- A payload is refused exactly if it does not conform. -/
lemma Request.exists_check_eq_error_iff {intake : Intake} {payload : Json} :
    (∃ found, check intake payload = .error found) ↔ ¬payload.Conforms := by
  cases h : check intake payload with
  | error found =>
    refine iff_of_true ⟨found, rfl⟩ ?_
    rintro ⟨r, hr⟩
    rw [check_eq_ok_iff_describes.mpr hr] at h
    cases h
  | ok r =>
    refine iff_of_false (fun ⟨_, h⟩ => (nomatch h)) (not_not.mpr ⟨r, ?_⟩)
    exact check_eq_ok_iff_describes.mp h

/-! ## Violations are named -/

namespace Checked

lemma fail_ne_error_nil {α : Type} (cause : Cause) : (fail cause : Checked α) ≠ .error [] :=
  fun h => (nomatch h)

lemma under_ne_error_nil {α : Type} {step : Step} {c : Checked α} (h : c ≠ .error []) :
    under step c ≠ .error [] := by
  cases c with
  | ok a => exact fun h => (nomatch h)
  | error found =>
    intro hnil
    have hmap : found.map (·.under step) = [] := Except.error.inj hnil
    exact h (congrArg Except.error (List.map_eq_nil_iff.mp hmap))

lemma both_ne_error_nil {α β : Type} {a : Checked α} {b : Checked β} (ha : a ≠ .error [])
    (hb : b ≠ .error []) : both a b ≠ .error [] := by
  intro hnil
  cases a with
  | ok x =>
    cases b with
    | ok y => cases hnil
    | error found => exact hb (congrArg Except.error (Except.error.inj hnil))
  | error found =>
    cases b with
    | ok y => exact ha (congrArg Except.error (Except.error.inj hnil))
    | error later =>
      have happend : found ++ later = [] := Except.error.inj hnil
      exact ha (congrArg Except.error (List.append_eq_nil_iff.mp happend).1)

lemma bind_ne_error_nil {α β : Type} {x : Checked α} {f : α → Checked β} (hx : x ≠ .error [])
    (hf : ∀ a, f a ≠ .error []) : (x >>= f) ≠ .error [] := by
  intro hnil
  rcases bind_eq_error_iff.mp hnil with h | ⟨a, _, h⟩
  · exact hx h
  · exact hf a h

lemma items_ne_error_nil {α : Type} {check : Json → Checked α} (h : ∀ v, check v ≠ .error [])
    (payloads : List Json) : ∀ first, items check first payloads ≠ .error [] := by
  induction payloads with
  | nil => exact fun _ h => (nomatch h)
  | cons payload later ih =>
    intro first hnil
    have hitem : under (.index first) (check payload) ≠ .error [] := under_ne_error_nil (h payload)
    have hboth := both_ne_error_nil hitem (ih (first + 1))
    rw [items] at hnil
    cases hpair : both (under (.index first) (check payload)) (items check (first + 1) later) with
    | ok pair =>
      rw [hpair] at hnil
      cases hnil
    | error found =>
      rw [hpair] at hnil hboth
      exact hboth (congrArg Except.error (Except.error.inj hnil))

end Checked

namespace Json

lemma checkField_ne_error_nil {α : Type} {check : Json → Checked α} (h : ∀ v, check v ≠ .error [])
    (name : String) (members : List (String × Json)) :
    checkField name check members ≠ .error [] := by
  refine Checked.under_ne_error_nil ?_
  split
  · exact h _
  · exact Checked.fail_ne_error_nil _

lemma checkTrimmed_ne_error_nil (value : Json) : checkTrimmed value ≠ .error [] := by
  cases value
  case string s =>
    rw [checkTrimmed]
    split <;> exact fun h => (nomatch h)
  all_goals exact fun h => (nomatch h)

lemma checkCurrency_ne_error_nil (value : Json) : checkCurrency value ≠ .error [] := by
  cases value <;> exact fun h => (nomatch h)

lemma checkInteger_ne_error_nil (value : Json) : checkInteger value ≠ .error [] := by
  intro h
  cases value
  case float x =>
    rw [checkInteger] at h
    split at h
    · cases h
    split at h
    · split at h <;> cases h
    · cases h
  case string s =>
    rw [checkInteger, checkIntegerText] at h
    split at h <;> cases h
  all_goals cases h

lemma checkAtLeast_ne_error_nil (least : Int) (value : Json) :
    checkAtLeast least value ≠ .error [] := by
  intro h
  rw [checkAtLeast] at h
  split at h
  · split at h <;> cases h
  next found hfound =>
    cases h
    exact checkInteger_ne_error_nil value hfound

lemma checkList_ne_error_nil {α : Type} {check : Json → Checked α} (h : ∀ v, check v ≠ .error [])
    (value : Json) : checkList check value ≠ .error [] := by
  cases value
  case array items => exact Checked.items_ne_error_nil h items 0
  all_goals exact Checked.fail_ne_error_nil _

lemma checkRecord_ne_error_nil (intake : Intake) (record : String) (value : Json) :
    checkRecord intake record value ≠ .error [] := by
  cases value
  case object members => exact fun h => (nomatch h)
  all_goals cases intake <;> exact fun h => (nomatch h)

end Json

lemma Account.check_ne_error_nil (intake : Intake) (payload : Json) :
    check intake payload ≠ .error [] := by
  refine Checked.bind_ne_error_nil (Json.checkRecord_ne_error_nil _ _ _) fun members => ?_
  refine Checked.bind_ne_error_nil ?_ fun _ h => (nomatch h)
  exact Checked.both_ne_error_nil (Json.checkField_ne_error_nil Json.checkTrimmed_ne_error_nil _ _)
    (Checked.both_ne_error_nil
      (Json.checkField_ne_error_nil (Json.checkAtLeast_ne_error_nil 0) _ _)
      (Json.checkField_ne_error_nil Json.checkCurrency_ne_error_nil _ _))

/-- A payload is never refused without a violation. -/
theorem Request.check_ne_error_nil (intake : Intake) (payload : Json) :
    check intake payload ≠ .error [] := by
  refine Checked.bind_ne_error_nil (Json.checkRecord_ne_error_nil _ _ _) fun members => ?_
  refine Checked.bind_ne_error_nil ?_ fun _ h => (nomatch h)
  exact Checked.both_ne_error_nil
    (Json.checkField_ne_error_nil (Json.checkList_ne_error_nil (Account.check_ne_error_nil intake))
      _ _)
    (Json.checkField_ne_error_nil Json.checkTrimmed_ne_error_nil _ _)

end Remittance
