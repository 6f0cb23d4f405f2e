import Mathlib.Algebra.Group.Nat.Defs
import Remittance.Proofs.Requirement
import Remittance.Screening

/-!
# What the screening requires

For each stage between the reading of a sentence and the settlement, the list of its requirements in
the order in which they are checked, the proof that they decide its result, and what its value is.

The screening of an instruction judges it and tells the judgement.  `Instruction.judge` is the
judgement alone, which is what the requirements decide; `Instruction.screen_eq` puts the two
together.

`Account.withEither` are the accounts that a stage works on.  Their ids are checked a second time,
after those of the instruction; `decides_screenAccounts` keeps that requirement in its place.
-/

namespace Remittance

open Requirement

/-! ## Integers that are written -/

namespace Numeral

lemma isWritable_iff {n : Int} : isWritable n = true ↔ n.natAbs < 10 ^ digitLimit := by
  rw [isWritable, decide_eq_true_iff]
  exact Nat.length_toDigits_le_iff (by decide) (by decide)

lemma isWritable_eq_false_iff {n : Int} :
    isWritable n = false ↔ 10 ^ digitLimit ≤ n.natAbs := by
  rw [← Bool.not_eq_true, isWritable_iff, Nat.not_lt]

end Numeral

/-! ## Telling a judgement -/

section Tell

variable {α β : Type} {x : Except Rejection α} {r : Rejection}

lemma tell_ok (a : α) : tell (.ok a) = .ok a :=
  rfl

lemma tell_error (r : Rejection) : tell (.error r : Except Rejection α) = .error r.told :=
  rfl

/-- Judgements in a row may each be told as they are made. -/
lemma tell_bind (x : Except Rejection α) (f : α → Except Rejection β) :
    tell (x >>= f) = tell x >>= fun a => tell (f a) := by
  cases x <;> rfl

lemma told_of_isTellable (h : r.isTellable = true) : r.told = .rejected r :=
  if_pos h

lemma told_of_not_isTellable (h : r.isTellable = false) : r.told = .fault .tooManyDigits := by
  rw [Rejection.told, h, if_neg Bool.false_ne_true]

lemma tell_eq_ok_iff {a : α} : tell x = .ok a ↔ x = .ok a := by
  cases x with
  | ok b => rw [tell_ok, Except.ok.injEq, Except.ok.injEq]
  | error r => exact ⟨fun h => (nomatch h), fun h => (nomatch h)⟩

lemma tell_eq_rejected_iff :
    tell x = .error (.rejected r) ↔ x = .error r ∧ r.isTellable = true := by
  cases x with
  | ok a => exact ⟨fun h => (nomatch h), fun h => (nomatch h.1)⟩
  | error s =>
    rw [tell_error, Except.error.injEq, Except.error.injEq]
    cases hs : s.isTellable with
    | true =>
      rw [told_of_isTellable hs, StageError.rejected.injEq]
      exact ⟨fun h => ⟨h, h ▸ hs⟩, And.left⟩
    | false =>
      rw [told_of_not_isTellable hs]
      refine ⟨fun h => (nomatch h), ?_⟩
      rintro ⟨rfl, hr⟩
      rw [hs] at hr
      cases hr

lemma tell_eq_fault_iff {f : Fault} :
    tell x = .error (.fault f) ↔
      f = .tooManyDigits ∧ ∃ r, x = .error r ∧ r.isTellable = false := by
  cases x with
  | ok a => exact ⟨fun h => (nomatch h), fun ⟨_, _, h, _⟩ => (nomatch h)⟩
  | error s =>
    rw [tell_error, Except.error.injEq]
    cases hs : s.isTellable with
    | true =>
      rw [told_of_isTellable hs]
      refine ⟨fun h => (nomatch h), ?_⟩
      rintro ⟨_, r, hr, hfalse⟩
      rw [← Except.error.inj hr, hs] at hfalse
      cases hfalse
    | false =>
      rw [told_of_not_isTellable hs, StageError.fault.injEq]
      exact ⟨fun h => ⟨h.symm, s, rfl, hs⟩, fun h => h.1.symm⟩

end Tell

/-! ## Picking the accounts -/

/-- The accounts with one of two ids, in the order in which they were supplied. -/
def Account.withEither (debit credit : String) (accounts : List Account) : List Account :=
  accounts.filter fun a => a.id == debit || a.id == credit

@[simp] lemma Account.mem_withEither {debit credit : String} {accounts : List Account}
    {a : Account} :
    a ∈ withEither debit credit accounts ↔ a ∈ accounts ∧ (a.id = debit ∨ a.id = credit) := by
  rw [withEither, List.mem_filter, Bool.or_eq_true, beq_iff_eq, beq_iff_eq]

/-- An account with one of the two ids is among the accounts supplied if it is among those. -/
lemma Account.exists_mem_withEither {debit credit id : String} {accounts : List Account}
    (hid : id = debit ∨ id = credit) :
    (∃ a ∈ withEither debit credit accounts, a.id = id) ↔ ∃ a ∈ accounts, a.id = id := by
  constructor
  · rintro ⟨a, ha, haid⟩
    exact ⟨a, (mem_withEither.mp ha).1, haid⟩
  · rintro ⟨a, ha, rfl⟩
    exact ⟨a, mem_withEither.mpr ⟨ha, hid⟩, rfl⟩

/-- What is required of the accounts supplied: one with the debit id and one with the credit id. -/
def accountRequirements (accounts : List Account) (debit credit : String) : List Requirement :=
  [⟨∃ a ∈ accounts, a.id = debit, .accountNotFound⟩,
    ⟨∃ a ∈ accounts, a.id = credit, .accountNotFound⟩]

section Resolve

variable {α δ : Type} (accounts : List Account) (i : Instruction α δ)

lemma any_withEither {debit credit id : String} (hid : id = debit ∨ id = credit) :
    (Account.withEither debit credit accounts).any (·.id == id) = true ↔
      ∃ a ∈ accounts, a.id = id := by
  rw [List.any_eq_true, ← Account.exists_mem_withEither hid]
  simp only [beq_iff_eq]

lemma resolve_eq :
    resolve accounts i =
      if ¬ ∃ a ∈ accounts, a.id = i.debit then
        .error (.accountNotFound i.debit accounts.length)
      else if ¬ ∃ a ∈ accounts, a.id = i.credit then
        .error (.accountNotFound i.credit accounts.length)
      else .ok (Account.withEither i.debit i.credit accounts) := by
  have hdebit := any_withEither accounts (.inl rfl : i.debit = i.debit ∨ i.debit = i.credit)
  have hcredit := any_withEither accounts (.inr rfl : i.credit = i.debit ∨ i.credit = i.credit)
  change (if (!(Account.withEither i.debit i.credit accounts).any (·.id == i.debit)) = true then _
    else if (!(Account.withEither i.debit i.credit accounts).any (·.id == i.credit)) = true then _
    else _) = _
  simp only [Bool.not_eq_true', ← Bool.not_eq_true, hdebit, hcredit]
  rfl

theorem decides_resolve :
    Decides (accountRequirements accounts i.debit i.credit) (resolve accounts i) := by
  rw [resolve_eq]
  exact decides_unless (.accountNotFound _ _) fun _ =>
    decides_unless (.accountNotFound _ _) fun _ => decides_ok _

lemma resolve_eq_ok_iff {involved : List Account} :
    resolve accounts i = .ok involved ↔
      (∃ a ∈ accounts, a.id = i.debit) ∧ (∃ a ∈ accounts, a.id = i.credit) ∧
        involved = Account.withEither i.debit i.credit accounts := by
  rw [resolve_eq]
  by_cases hdebit : ∃ a ∈ accounts, a.id = i.debit
  · rw [if_neg (not_not.mpr hdebit)]
    by_cases hcredit : ∃ a ∈ accounts, a.id = i.credit
    · rw [if_neg (not_not.mpr hcredit), Except.ok.injEq]
      exact ⟨fun h => ⟨hdebit, hcredit, h.symm⟩, fun h => h.2.2.symm⟩
    · rw [if_pos hcredit]
      exact ⟨fun h => (nomatch h), fun h => absurd h.2.1 hcredit⟩
  · rw [if_pos hdebit]
    exact ⟨fun h => (nomatch h), fun h => absurd h.1 hdebit⟩

end Resolve

/-! ## Single values -/

/-- Every character of the text may stand in an account id. -/
def IsAccountId (id : String) : Prop :=
  ∀ c ∈ id.toList, isIdCharacter c = true

/-- Accounts with one of two ids have an id that passes if both of these do. -/
lemma isAccountId_of_mem_withEither {debit credit : String} (hdebit : IsAccountId debit)
    (hcredit : IsAccountId credit) {accounts : List Account} {a : Account}
    (ha : a ∈ Account.withEither debit credit accounts) : IsAccountId a.id := by
  rcases (Account.mem_withEither.mp ha).2 with hid | hid
  · rw [hid]
    exact hdebit
  · rw [hid]
    exact hcredit

lemma decides_screenId (id : String) :
    Decides [⟨IsAccountId id, .invalidAccountId⟩] (screenId id) := by
  have h : Decides [⟨id.toList.all isIdCharacter = true, .invalidAccountId⟩] (screenId id) :=
    decides_ite id (.invalidAccountId id)
  rwa [List.all_eq_true] at h

lemma screenId_eq_ok_iff {id s : String} : screenId id = .ok s ↔ IsAccountId id ∧ s = id := by
  rw [screenId, IsAccountId, ← List.all_eq_true]
  by_cases h : id.toList.all isIdCharacter = true
  · rw [if_pos h, Except.ok.injEq]
    exact ⟨fun heq => ⟨h, heq.symm⟩, fun heq => heq.2.symm⟩
  · rw [if_neg h]
    exact ⟨fun heq => (nomatch heq), fun heq => absurd heq.1 h⟩

lemma positive?_eq_some_iff {amount : Scalar} {n : Int} :
    amount.positive? = some n ↔ amount = .whole n ∧ 1 ≤ n := by
  unfold Scalar.positive?
  constructor
  · intro h
    split at h
    · next m =>
      split at h
      · next hm =>
        obtain rfl := Option.some.inj h
        exact ⟨rfl, hm⟩
      · cases h
    · cases h
  · rintro ⟨rfl, hn⟩
    exact if_pos hn

/-- The judgement of an amount. -/
def judgeAmount (amount : Scalar) : Except Rejection Int :=
  match amount.positive? with
  | some n => .ok n
  | none => .error (.invalidAmount amount)

lemma screenAmount_eq (amount : Scalar) : screenAmount amount = tell (judgeAmount amount) := by
  rw [screenAmount, judgeAmount]
  cases amount.positive? <;> rfl

lemma judgeAmount_eq_ok_iff {amount : Scalar} {n : Int} :
    judgeAmount amount = .ok n ↔ amount = .whole n ∧ 1 ≤ n := by
  rw [← positive?_eq_some_iff, judgeAmount]
  cases amount.positive? with
  | none => exact ⟨fun h => (nomatch h), fun h => (nomatch h)⟩
  | some m => rw [Except.ok.injEq, Option.some.injEq]

lemma screenAmount_eq_ok_iff {amount : Scalar} {n : Int} :
    screenAmount amount = .ok n ↔ amount = .whole n ∧ 1 ≤ n := by
  rw [screenAmount_eq, tell_eq_ok_iff, judgeAmount_eq_ok_iff]

lemma judgeAmount_eq_error {amount : Scalar} {r : Rejection} (h : judgeAmount amount = .error r) :
    r = .invalidAmount amount := by
  unfold judgeAmount at h
  split at h
  · cases h
  · exact (Except.error.inj h).symm

lemma decides_judgeAmount (amount : Scalar) :
    Decides [⟨∃ n : Int, 1 ≤ n ∧ amount = .whole n, .invalidAmount⟩] (judgeAmount amount) := by
  cases h : judgeAmount amount with
  | ok n =>
    obtain ⟨hamount, hn⟩ := judgeAmount_eq_ok_iff.mp h
    exact allMet_singleton.mpr ⟨n, hn, hamount⟩
  | error r =>
    refine firstUnmet_singleton.mpr ⟨?_, by rw [judgeAmount_eq_error h]; rfl⟩
    rintro ⟨n, hn, hamount⟩
    rw [judgeAmount_eq_ok_iff.mpr ⟨hamount, hn⟩] at h
    cases h

lemma decides_screenCurrency (currency : String) :
    Decides [⟨Text.upper currency ∈ supportedCurrencies, .unsupportedCurrency⟩]
      (screenCurrency currency) := by
  have h : Decides [⟨supportedCurrencies.contains (Text.upper currency) = true,
      .unsupportedCurrency⟩] (screenCurrency currency) :=
    decides_ite (Text.upper currency) (.unsupportedCurrency currency)
  rwa [List.contains_iff_mem] at h

lemma screenCurrency_eq_ok_iff {currency code : String} :
    screenCurrency currency = .ok code ↔
      Text.upper currency ∈ supportedCurrencies ∧ code = Text.upper currency := by
  rw [← List.contains_iff_mem]
  change (if supportedCurrencies.contains (Text.upper currency) = true then
    Except.ok (Text.upper currency) else _) = _ ↔ _
  by_cases h : supportedCurrencies.contains (Text.upper currency) = true
  · rw [if_pos h, Except.ok.injEq]
    exact ⟨fun heq => ⟨h, heq.symm⟩, fun heq => heq.2.symm⟩
  · rw [if_neg h]
    exact ⟨fun heq => (nomatch heq), fun heq => absurd heq.1 h⟩

/-- The day of an instruction is well-formed: it gives none, the empty text, or a calendar day. -/
def IsDateOrNone (date : Option String) : Prop :=
  ∀ text, date = some text → text ≠ "" → ∃ day, Day.read? text = some day

lemma screenOptionalDate_some {text : String} (h : text ≠ "") :
    screenOptionalDate (some text) =
      match Day.read? text with
      | some day => .ok (some day)
      | none => .error (.invalidDate text) := by
  have hnonempty : ¬ text.isEmpty = true := by simpa using h
  rw [screenOptionalDate, if_neg hnonempty, screenDate]
  cases Day.read? text <;> rfl

lemma decides_screenOptionalDate (date : Option String) :
    Decides [⟨IsDateOrNone date, .invalidDate⟩] (screenOptionalDate date) := by
  cases date with
  | none => exact allMet_singleton.mpr fun _ h => (nomatch h)
  | some text =>
    by_cases hempty : text = ""
    · subst hempty
      exact allMet_singleton.mpr fun _ h hne => absurd (Option.some.inj h).symm hne
    · rw [screenOptionalDate_some hempty]
      cases hday : Day.read? text with
      | none =>
        refine firstUnmet_singleton.mpr ⟨fun hdate => ?_, rfl⟩
        obtain ⟨day, hsome⟩ := hdate text rfl hempty
        rw [hday] at hsome
        cases hsome
      | some day =>
        refine allMet_singleton.mpr fun text' htext _ => ⟨day, ?_⟩
        rw [← Option.some.inj htext, hday]

/-! ## Instructions -/

/-- What is required of an instruction by itself. -/
def instructionRequirements (i : RawInstruction) : List Requirement :=
  [⟨IsAccountId i.debit, .invalidAccountId⟩,
    ⟨IsAccountId i.credit, .invalidAccountId⟩,
    ⟨i.debit ≠ i.credit, .sameAccount⟩,
    ⟨∃ n : Int, 1 ≤ n ∧ i.amount = .whole n, .invalidAmount⟩,
    ⟨Text.upper i.currency ∈ supportedCurrencies, .unsupportedCurrency⟩,
    ⟨IsDateOrNone i.date, .invalidDate⟩]

/-- The judgement of an instruction. -/
def Instruction.judge (i : RawInstruction) : Except Rejection Order := do
  let debit ← screenId i.debit
  let credit ← screenId i.credit
  if debit = credit then .error .sameAccount
  else
    let amount ← judgeAmount i.amount
    let currency ← screenCurrency i.currency
    let date ← screenOptionalDate i.date
    .ok { kind := i.kind, amount, currency, debit, credit, date }

/-- An instruction is screened by telling the judgement of it. -/
theorem Instruction.screen_eq (i : RawInstruction) : i.screen = tell i.judge := by
  rw [screen, judge, tell_bind]
  refine bind_congr fun debit => ?_
  rw [tell_bind]
  refine bind_congr fun credit => ?_
  by_cases hsame : debit = credit
  · rw [if_pos hsame, if_pos hsame]
  · rw [if_neg hsame, if_neg hsame, screenAmount_eq]
    simp only [tell_bind, tell_ok]

theorem Instruction.decides_judge (i : RawInstruction) :
    Decides (instructionRequirements i) i.judge := by
  unfold instructionRequirements Instruction.judge
  refine decides_bind (decides_screenId i.debit) fun debit hdebit => ?_
  refine decides_bind (decides_screenId i.credit) fun credit hcredit => ?_
  obtain ⟨_, rfl⟩ := screenId_eq_ok_iff.mp hdebit
  obtain ⟨_, rfl⟩ := screenId_eq_ok_iff.mp hcredit
  refine decides_guard .sameAccount fun _ => ?_
  refine decides_bind (decides_judgeAmount i.amount) fun amount _ => ?_
  refine decides_bind (decides_screenCurrency i.currency) fun currency _ => ?_
  refine decides_bind (decides_screenOptionalDate i.date) fun date _ => ?_
  exact decides_ok _

/-- The order that an instruction becomes when it passes. -/
structure Instruction.PassesAs (i : RawInstruction) (o : Order) : Prop where
  kind : o.kind = i.kind
  debit : o.debit = i.debit
  credit : o.credit = i.credit
  isAccountId_debit : IsAccountId i.debit
  isAccountId_credit : IsAccountId i.credit
  debit_ne_credit : o.debit ≠ o.credit
  amount : i.amount = .whole o.amount
  one_le_amount : 1 ≤ o.amount
  currency : o.currency = Text.upper i.currency
  supported : o.currency ∈ supportedCurrencies
  date : screenOptionalDate i.date = .ok o.date

lemma Instruction.passesAs_of_judge {i : RawInstruction} {o : Order} (h : i.judge = .ok o) :
    i.PassesAs o := by
  obtain ⟨debit, hdebit, h⟩ := bind_eq_ok_iff.mp h
  obtain ⟨credit, hcredit, h⟩ := bind_eq_ok_iff.mp h
  obtain ⟨hdebitId, rfl⟩ := screenId_eq_ok_iff.mp hdebit
  obtain ⟨hcreditId, rfl⟩ := screenId_eq_ok_iff.mp hcredit
  split at h
  · cases h
  next hne =>
  obtain ⟨amount, hamount, h⟩ := bind_eq_ok_iff.mp h
  obtain ⟨currency, hcurrency, h⟩ := bind_eq_ok_iff.mp h
  obtain ⟨date, hdate, h⟩ := bind_eq_ok_iff.mp h
  obtain ⟨hwhole, hpositive⟩ := judgeAmount_eq_ok_iff.mp hamount
  obtain ⟨hsupported, rfl⟩ := screenCurrency_eq_ok_iff.mp hcurrency
  cases h
  exact ⟨rfl, rfl, rfl, hdebitId, hcreditId, hne, hwhole, hpositive, rfl, hsupported, hdate⟩

lemma Instruction.passesAs_of_screen {i : RawInstruction} {o : Order} (h : i.screen = .ok o) :
    i.PassesAs o := by
  rw [screen_eq, tell_eq_ok_iff] at h
  exact passesAs_of_judge h

/-- An instruction that passes as an order becomes that order. -/
lemma Instruction.PassesAs.judge_eq {i : RawInstruction} {o : Order} (h : i.PassesAs o) :
    i.judge = .ok o := by
  have hne : i.debit ≠ i.credit := by
    rw [← h.debit, ← h.credit]
    exact h.debit_ne_credit
  have hcurrency : screenCurrency i.currency = .ok o.currency :=
    screenCurrency_eq_ok_iff.mpr ⟨h.currency ▸ h.supported, h.currency⟩
  unfold judge
  rw [screenId_eq_ok_iff.mpr ⟨h.isAccountId_debit, rfl⟩,
    screenId_eq_ok_iff.mpr ⟨h.isAccountId_credit, rfl⟩,
    judgeAmount_eq_ok_iff.mpr ⟨h.amount, h.one_le_amount⟩, hcurrency, h.date]
  change (if i.debit = i.credit then _ else Except.ok (Instruction.mk _ _ _ _ _ _)) = _
  rw [if_neg hne, ← h.kind, ← h.debit, ← h.credit]

lemma Instruction.PassesAs.screen_eq {i : RawInstruction} {o : Order} (h : i.PassesAs o) :
    i.screen = .ok o := by
  rw [Instruction.screen_eq, h.judge_eq, tell_ok]

/-- Instructions that differ in kind and in days that pass become orders that differ in these, or
fail alike. -/
lemma Instruction.judge_map {i j : RawInstruction} {f : Kind → Kind} {g : Option Day → Option Day}
    (hkind : j.kind = f i.kind) (hdebit : j.debit = i.debit) (hcredit : j.credit = i.credit)
    (hamount : j.amount = i.amount) (hcurrency : j.currency = i.currency)
    (hdate : screenOptionalDate j.date = g <$> screenOptionalDate i.date) :
    j.judge = (fun o => { o with kind := f o.kind, date := g o.date }) <$> i.judge := by
  unfold judge
  rw [hkind, hdebit, hcredit, hamount, hcurrency, hdate]
  simp only [map_bind]
  refine bind_congr fun debit => bind_congr fun credit => ?_
  by_cases hsame : debit = credit
  · rw [if_pos hsame, if_pos hsame]
    rfl
  · rw [if_neg hsame, if_neg hsame]
    simp only [map_bind, bind_map_left]
    rfl

/-! ## The accounts against each other -/

lemma length_eraseDups_le_one_iff {texts : List String} :
    texts.eraseDups.length ≤ 1 ↔ ∀ a ∈ texts, ∀ b ∈ texts, a = b := by
  cases texts with
  | nil => simp
  | cons first later =>
    rw [List.eraseDups_cons, List.length_cons]
    constructor
    · intro hlength
      have hnone : (later.filter fun b => !b == first).eraseDups = [] :=
        List.eq_nil_of_length_eq_zero (by omega)
      have hall : ∀ a ∈ first :: later, a = first := by
        intro a ha
        rcases List.mem_cons.mp ha with rfl | ha
        · rfl
        · by_contra hne
          have hmem : a ∈ (later.filter fun b => !b == first).eraseDups := by
            rw [List.mem_eraseDups, List.mem_filter]
            exact ⟨ha, by simpa using hne⟩
          rw [hnone] at hmem
          cases hmem
      intro a ha b hb
      rw [hall a ha, hall b hb]
    · intro hall
      have hnone : later.filter (fun b => !b == first) = [] := by
        rw [List.filter_eq_nil_iff]
        intro b hb
        simp [hall b (List.mem_cons_of_mem _ hb) first List.mem_cons_self]
      rw [hnone]
      exact Nat.le_refl 1

/-- What is required of the accounts that an instruction names. -/
def involvedRequirements (involved : List Account) : List Requirement :=
  [⟨∀ a ∈ involved, IsAccountId a.id, .invalidAccountId⟩,
    ⟨∀ a ∈ involved, Text.upper a.currency ∈ supportedCurrencies, .unsupportedCurrency⟩,
    ⟨∀ a ∈ involved, ∀ b ∈ involved, a.currency = b.currency, .currencyMismatch⟩]

lemma not_one_lt_length_distinct_iff {accounts : List Account} :
    ¬ 1 < (distinct (accounts.map (·.currency))).length ↔
      ∀ a ∈ accounts, ∀ b ∈ accounts, a.currency = b.currency := by
  rw [distinct, List.length_mergeSort, Nat.not_lt, length_eraseDups_le_one_iff]
  simp only [List.forall_mem_map]

theorem decides_screenAccounts (involved : List Account) :
    Decides (involvedRequirements involved) (screenAccounts involved) := by
  have hids : Decides [⟨∀ a ∈ involved, IsAccountId a.id, .invalidAccountId⟩]
      (involved.mapM fun a => screenId a.id) := by
    refine decides_mapM (fun a : Account => IsAccountId a.id) .invalidAccountId ?_ involved
    intro a
    exact decides_screenId a.id
  have hcurrencies : Decides
      [⟨∀ a ∈ involved, Text.upper a.currency ∈ supportedCurrencies, .unsupportedCurrency⟩]
      (involved.mapM fun a => screenCurrency a.currency) := by
    refine decides_mapM (fun a : Account => Text.upper a.currency ∈ supportedCurrencies)
      .unsupportedCurrency ?_ involved
    intro a
    exact decides_screenCurrency a.currency
  have hsame : Decides [⟨¬ 1 < (distinct (involved.map (·.currency))).length, .currencyMismatch⟩]
      (if 1 < (distinct (involved.map (·.currency))).length then
        .error (.mixedCurrencies (distinct (involved.map (·.currency)))) else .ok involved) :=
    decides_guard (.mixedCurrencies _) fun _ => decides_ok _
  rw [not_one_lt_length_distinct_iff] at hsame
  unfold involvedRequirements screenAccounts
  exact decides_bind hids fun _ _ => decides_bind hcurrencies fun _ _ => hsame

lemma screenAccounts_eq_ok {involved accounts : List Account}
    (h : screenAccounts involved = .ok accounts) : accounts = involved := by
  obtain ⟨_, _, h⟩ := bind_eq_ok_iff.mp h
  obtain ⟨_, _, h⟩ := bind_eq_ok_iff.mp h
  dsimp only at h
  split at h
  · cases h
  · exact (Except.ok.inj h).symm

end Remittance
