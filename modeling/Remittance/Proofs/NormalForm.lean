import Remittance.Proofs.Outcomes
import Remittance.Proofs.WordRuns

/-!
# Accepted requests are in normal form

The check of a payload does more than to look at it: it trims texts and puts currencies in upper
case.  Everything after it compares these texts as they are.  `Request.IsNormal` says what they have
become: each is its own trimmed form, and each currency its own upper-case form.

The two steps do not get in each other's way, which is not clear from the start, because upper case
may make several characters of one.  None of them is ever blank (`Text.isTrimmable_of_mem_upperChar`),
and none is missing, so that a trimmed text stays trimmed (`Text.trim_upper`).

A normal request is the one that its own values describe.  So the accepted requests are the normal
ones (`Request.accepted_iff_isNormal`), and it makes no difference whether the clearing is given a
payload, the request that it was checked into, or the values of that request as another payload
(`clearPayload_normalizes`).
-/

namespace Remittance

/-! ## Upper case puts no blanks at the ends -/

namespace Text

lemma upperCode_ne_nil (code : Nat) : upperCode code ≠ [] := by
  have hexpansions : ∀ item ∈ upperExpansions, item.2 ≠ [] := by decide +kernel
  rcases upperCode_cases code with ⟨x, _, hcode⟩ | ⟨item, hitem, hcode⟩ | hself
  · rw [hcode]
    exact List.cons_ne_nil _ _
  · rw [hcode]
    exact hexpansions item hitem
  · rw [hself]
    exact List.cons_ne_nil _ _

lemma upperChar_ne_nil (c : Char) : upperChar c ≠ [] :=
  fun h => upperCode_ne_nil c.toNat (List.map_eq_nil_iff.mp h)

/-- The code points of the trimmable characters. -/
def blankCodes : List Nat :=
  List.range' 0x09 5 ++ List.range' 0x1c 5 ++ [0x85, 0xa0, 0x1680] ++ List.range' 0x2000 11 ++
    [0x2028, 0x2029, 0x202f, 0x205f, 0x3000]

lemma toNat_mem_blankCodes {c : Char} (h : isTrimmable c = true) : c.toNat ∈ blankCodes := by
  have hcode : ∀ {c d : Char}, c ≤ d → c.toNat ≤ d.toNat := fun hle => hle
  simp only [isTrimmable, isWhiteSpace, isSpaceSeparator, isLayoutControl, Bool.or_eq_true,
    Bool.and_eq_true, beq_iff_eq, decide_eq_true_eq, or_assoc] at h
  rcases h with rfl | rfl | rfl | hrange | rfl | rfl | rfl | hrange | rfl | rfl | rfl | hrange
  all_goals try decide
  -- What is left are the three ranges.
  all_goals
    have hfirst := hcode hrange.1
    have hlast := hcode hrange.2
    simp only [Char.reduceToNat] at hfirst hlast
    simp only [blankCodes, List.mem_append, List.mem_range'_1]
    omega

/-- No form of a code point is a blank. -/
lemma isTrimmable_of_mem_formCodes {code : Nat} (h : code ∈ formCodes) :
    isTrimmable (Char.ofNat code) = false := by
  have hblank : code ∉ blankCodes := notMem_of_mask (by decide +kernel) h
  rcases toNat_ofNat_or code with hback | hzero
  · by_contra htrimmable
    have hmem := toNat_mem_blankCodes (Bool.of_not_eq_false htrimmable)
    rw [hback] at hmem
    exact hblank hmem
  · rw [hzero]
    decide

/-- The upper-case form of a character that stays holds only characters that stay. -/
lemma isTrimmable_of_mem_upperChar {c d : Char} (hc : isTrimmable c = false)
    (hd : d ∈ upperChar c) : isTrimmable d = false := by
  obtain ⟨code, hcode, rfl⟩ := List.mem_map.mp hd
  rcases mem_upperCode hcode with hform | hself
  · exact isTrimmable_of_mem_formCodes hform
  · rw [hself, List.mem_singleton] at hcode
    rwa [hcode, Char.ofNat_toNat]

/-- To put something else in the place of every character, but never nothing, leaves the ends clear
if what takes the place of a character that stays does stay. -/
lemma trimWith_flatMap {blank : Char → Bool} {f : Char → List Char} (hne : ∀ c, f c ≠ [])
    (hstays : ∀ {c d}, blank c = false → d ∈ f c → blank d = false) {cs : List Char}
    (h : trimWith blank cs = cs) : trimWith blank (cs.flatMap f) = cs.flatMap f := by
  obtain ⟨hfirst, hlast⟩ := trimWith_eq_self_iff.mp h
  refine trimWith_eq_of_ends (fun d hd => ?_) (fun d hd => ?_)
  · cases cs with
    | nil => cases hd
    | cons c later =>
      rw [List.flatMap_cons, List.head?_append_of_ne_nil _ (hne c)] at hd
      exact hstays (hfirst c rfl) (List.mem_of_mem_head? hd)
  · rcases List.eq_nil_or_concat' cs with rfl | ⟨front, c, rfl⟩
    · cases hd
    · rw [List.flatMap_append, List.flatMap_singleton,
        List.getLast?_append_of_ne_nil _ (hne c)] at hd
      exact hstays (hlast c (by simp)) (List.mem_of_mem_getLast? hd)

/-- A text with nothing to trim has nothing to trim in upper case. -/
theorem trim_upper {s : String} (h : trim s = s) : trim (upper s) = upper s := by
  rw [trim_eq_self_iff] at h ⊢
  rw [upper, String.toList_ofList]
  exact trimWith_flatMap upperChar_ne_nil isTrimmable_of_mem_upperChar h

end Text

/-! ## Normal form -/

/-- The id of the account is trimmed and not empty, its balance is not negative, and its currency is
trimmed and in upper case. -/
structure Account.IsNormal (a : Account) : Prop where
  id_ne_empty : a.id ≠ ""
  trim_id : Text.trim a.id = a.id
  balance_nonneg : 0 ≤ a.balance
  trim_currency : Text.trim a.currency = a.currency
  upper_currency : Text.upper a.currency = a.currency

/-- The accounts of the request are normal, and its text is trimmed and not empty. -/
structure Request.IsNormal (r : Request) : Prop where
  accounts : ∀ a ∈ r.accounts, a.IsNormal
  text_ne_empty : r.text ≠ ""
  trim_text : Text.trim r.text = r.text

namespace Json

/-- The payload repeats the values of an account.  A currency may have lone surrogates, and repeats
them. -/
structure RestatesAccount (payload : Json) (a : Account) : Prop where
  id : payload.HasField "id" fun value => value = .string a.id
  balance : payload.HasField "balance" fun value => value = .integer a.balance
  currency : payload.HasField "currency" fun value =>
    value = .string a.currency ∨ value = .brokenString a.currency

/-- The payload repeats the values of a request. -/
structure RestatesRequest (payload : Json) (r : Request) : Prop where
  accounts : payload.HasField "accounts" fun value =>
    ∃ items, value = .array items ∧ List.Forall₂ RestatesAccount items r.accounts
  text : payload.HasField "instruction" fun value => value = .string r.text

/-! ## What is described is normal -/

lemma GivesText.trim_eq {value : Json} {text : String} (h : value.GivesText text) :
    Text.trim text = text := by
  obtain ⟨s, _, rfl, _⟩ := h
  exact Text.trim_trim s

lemma GivesText.ne_empty {value : Json} {text : String} (h : value.GivesText text) : text ≠ "" := by
  obtain ⟨_, _, _, hne⟩ := h
  exact hne

lemma GivesCurrency.trim_eq {value : Json} {currency : String} (h : value.GivesCurrency currency) :
    Text.trim currency = currency := by
  obtain ⟨s, _, rfl⟩ := h
  exact Text.trim_upper (Text.trim_trim s)

lemma GivesCurrency.upper_eq {value : Json} {currency : String}
    (h : value.GivesCurrency currency) : Text.upper currency = currency := by
  obtain ⟨s, _, rfl⟩ := h
  exact Text.upper_upper _

lemma DescribesAccount.isNormal {payload : Json} {a : Account} (h : payload.DescribesAccount a) :
    a.IsNormal where
  id_ne_empty := h.id.elim fun _ => GivesText.ne_empty
  trim_id := h.id.elim fun _ => GivesText.trim_eq
  balance_nonneg := h.balance_nonneg
  trim_currency := h.currency.elim fun _ => GivesCurrency.trim_eq
  upper_currency := h.currency.elim fun _ => GivesCurrency.upper_eq

lemma DescribesRequest.isNormal {payload : Json} {r : Request} (h : payload.DescribesRequest r) :
    r.IsNormal where
  accounts := by
    refine h.accounts.elim fun value hvalue => ?_
    obtain ⟨items, _, hitems⟩ := hvalue
    exact forall_mem_of_forall₂ (fun _ _ hitem => hitem.isNormal) hitems
  text_ne_empty := h.text.elim fun _ => GivesText.ne_empty
  trim_text := h.text.elim fun _ => GivesText.trim_eq

/-! ## Normal values describe themselves -/

lemma givesText_self {text : String} (htrim : Text.trim text = text) (hne : text ≠ "") :
    (string text).GivesText text :=
  ⟨text, rfl, htrim.symm, hne⟩

lemma givesCurrency_self {value : Json} {currency : String}
    (hvalue : value = .string currency ∨ value = .brokenString currency)
    (htrim : Text.trim currency = currency) (hupper : Text.upper currency = currency) :
    value.GivesCurrency currency :=
  ⟨currency, hvalue, by rw [htrim, hupper]⟩

lemma RestatesAccount.describes {payload : Json} {a : Account} (h : payload.RestatesAccount a)
    (ha : a.IsNormal) : payload.DescribesAccount a where
  id := h.id.imp fun _ hvalue => hvalue ▸ givesText_self ha.trim_id ha.id_ne_empty
  balance := h.balance.imp fun _ hvalue => hvalue ▸ .integer a.balance
  balance_nonneg := ha.balance_nonneg
  currency := h.currency.imp fun _ hvalue =>
    givesCurrency_self hvalue ha.trim_currency ha.upper_currency

lemma RestatesRequest.describes {payload : Json} {r : Request} (h : payload.RestatesRequest r)
    (hr : r.IsNormal) : payload.DescribesRequest r where
  accounts := by
    refine h.accounts.imp fun value hvalue => ?_
    obtain ⟨items, rfl, hitems⟩ := hvalue
    have hnormal := forall₂_and_right.mpr ⟨hitems, hr.accounts⟩
    exact ⟨items, rfl, hnormal.imp fun _ _ ⟨hitem, ha⟩ => hitem.describes ha⟩
  text := h.text.imp fun _ hvalue => hvalue ▸ givesText_self hr.trim_text hr.text_ne_empty

/-- The payload of a request repeats its values. -/
lemma restatesRequest_payload (r : Request) : r.payload.RestatesRequest r where
  accounts := by
    refine ⟨_, _, rfl, rfl, _, rfl, ?_⟩
    rw [List.forall₂_map_left_iff, List.forall₂_same]
    intro a _
    exact ⟨⟨_, _, rfl, rfl, rfl⟩, ⟨_, _, rfl, rfl, rfl⟩, ⟨_, _, rfl, rfl, .inl rfl⟩⟩
  text := ⟨_, _, rfl, rfl, rfl⟩

end Json

/-! ## Requests -/

lemma Request.IsNormal.check_payload {r : Request} (h : r.IsNormal) (intake : Intake) :
    check intake r.payload = .ok r :=
  check_eq_ok_iff_describes.mpr ((Json.restatesRequest_payload r).describes h)

/-- The requests that payloads are checked into are those in normal form. -/
theorem Request.accepted_iff_isNormal {r : Request} : r.Accepted ↔ r.IsNormal := by
  constructor
  · rintro ⟨intake, payload, hcheck⟩
    exact (check_eq_ok_iff_describes.mp hcheck).isNormal
  · intro h
    exact ⟨.direct, r.payload, h.check_payload .direct⟩

/-- A payload is checked into a request in normal form.  The values of that request are checked into
it again, and the payload, the request and its values are all cleared alike. -/
theorem clearPayload_normalizes {intake : Intake} {payload : Json} {request : Request}
    (h : Request.check intake payload = .ok request) :
    request.IsNormal ∧
      (∀ today, clearPayload payload today = clear request today) ∧
      request.payload.RestatesRequest request ∧
      ∀ values : Json, values.RestatesRequest request →
        (∀ intake', Request.check intake' values = .ok request) ∧
        ∀ today, clearPayload values today = clear request today := by
  have hdescribes := Request.check_eq_ok_iff_describes.mp h
  refine ⟨hdescribes.isNormal, clearPayload_of_describes hdescribes,
    Json.restatesRequest_payload request, fun values hvalues => ?_⟩
  have hagain : values.DescribesRequest request := hvalues.describes hdescribes.isNormal
  exact ⟨fun _ => Request.check_eq_ok_iff_describes.mpr hagain, clearPayload_of_describes hagain⟩

/-- A payload with blanks of all kinds at the ends, with an id that is written twice, with balances
that are a text and a truth value, and with a currency that upper case makes longer. -/
def untidy : Json :=
  .object [
    ("instruction", .string "\u2028 credit 5 usd to account b for debit from account a\x1c"),
    ("accounts", .array [
      .object [("id", .string "\x1fc\u3000d"), ("balance", .integer 0),
        ("currency", .brokenString "\u0085ŉ\ue000ß\u00a0")],
      .object [("id", .string "c"), ("balance", .bool true), ("currency", .string "usd"),
        ("id", .string "b ")],
      .object [("id", .string " a"), ("balance", .string " +0_07.00\n"),
        ("currency", .string "Usd\t")]])]

/-- The request that `untidy` is checked into. -/
def tidied : Request where
  accounts := [⟨"c\u3000d", 0, "ʼN\ue000SS"⟩, ⟨"b", 1, "USD"⟩, ⟨"a", 7, "USD"⟩]
  text := "credit 5 usd to account b for debit from account a"

theorem clearPayload_normalizes_untidy :
    Request.check .web untidy = .ok tidied ∧ tidied.IsNormal ∧
      (∀ today, clearPayload untidy today = clear tidied today) ∧
      tidied.payload.RestatesRequest tidied ∧
      ∀ values : Json, values.RestatesRequest tidied →
        (∀ intake', Request.check intake' values = .ok tidied) ∧
        ∀ today, clearPayload values today = clear tidied today := by
  have hcheck : Request.check .web untidy = .ok tidied := by decide +kernel
  exact ⟨hcheck, clearPayload_normalizes hcheck⟩

end Remittance
