import Mathlib.Logic.Relation
import Remittance.Proofs.Comparison

/-!
# Accounts that an instruction does not name

A request may come with accounts that its text does not name, with any ids, balances and
currencies.  They have no influence: two lists that `AgreeOnNamed` give the same transaction or the
same failure, context included, and if the text is no sentence then any two lists do.

`BystanderEdit` is one change of a list that touches an account which is not named.  Every such step
keeps what the lists agree on (`BystanderEdit.agreeOnNamed`), and so does every run of them.
-/

namespace Remittance

/-! ## Lists that differ in bystanders -/

/-- No sentence that the text says names the account. -/
def IsBystander (text : String) (a : Account) : Prop :=
  ∀ i, Sentence.read text = .ok i → a.id ≠ i.debit ∧ a.id ≠ i.credit

/-- The accounts that the text names are the same in both lists, in the same order. -/
def AgreeOnNamed (text : String) (xs ys : List Account) : Prop :=
  ∀ i, Sentence.read text = .ok i →
    Account.withEither i.debit i.credit xs = Account.withEither i.debit i.credit ys

/-- One change of a list of accounts in which a bystander comes in, goes, becomes another bystander,
or changes places with the account next to it. -/
inductive BystanderEdit (text : String) : List Account → List Account → Prop
  | insert {a : Account} (before after : List Account) (ha : IsBystander text a) :
    BystanderEdit text (before ++ after) (before ++ a :: after)
  | remove {a : Account} (before after : List Account) (ha : IsBystander text a) :
    BystanderEdit text (before ++ a :: after) (before ++ after)
  | change {a b : Account} (before after : List Account) (ha : IsBystander text a)
    (hb : IsBystander text b) : BystanderEdit text (before ++ a :: after) (before ++ b :: after)
  | exchange {a b : Account} (before after : List Account)
    (h : IsBystander text a ∨ IsBystander text b) :
    BystanderEdit text (before ++ a :: b :: after) (before ++ b :: a :: after)

section Edits

variable {text : String} {xs ys : List Account}

lemma AgreeOnNamed.trans {zs : List Account} (h : AgreeOnNamed text xs ys)
    (h' : AgreeOnNamed text ys zs) : AgreeOnNamed text xs zs :=
  fun i hi => (h i hi).trans (h' i hi)

/-- A bystander is passed over when the named accounts are picked. -/
lemma IsBystander.withEither_cons {a : Account} (ha : IsBystander text a)
    {i : Instruction Number String} (hi : Sentence.read text = .ok i) (later : List Account) :
    Account.withEither i.debit i.credit (a :: later) =
      Account.withEither i.debit i.credit later := by
  obtain ⟨hdebit, hcredit⟩ := ha i hi
  refine List.filter_cons_of_neg ?_
  simp [hdebit, hcredit]

lemma withEither_append (debit credit : String) (xs ys : List Account) :
    Account.withEither debit credit (xs ++ ys) =
      Account.withEither debit credit xs ++ Account.withEither debit credit ys :=
  List.filter_append xs ys

/-- An account in front is picked or not, whatever comes after it. -/
lemma withEither_cons (debit credit : String) (a : Account) (later : List Account) :
    Account.withEither debit credit (a :: later) =
      Account.withEither debit credit [a] ++ Account.withEither debit credit later :=
  withEither_append debit credit [a] later

/-- One edit changes nothing about the accounts that are named. -/
theorem BystanderEdit.agreeOnNamed (h : BystanderEdit text xs ys) : AgreeOnNamed text xs ys := by
  intro i hi
  cases h with
  | insert before after ha =>
    rw [withEither_append, withEither_append, ha.withEither_cons hi]
  | remove before after ha =>
    rw [withEither_append, withEither_append, ha.withEither_cons hi]
  | change before after ha hb =>
    rw [withEither_append, withEither_append, ha.withEither_cons hi, hb.withEither_cons hi]
  | exchange before after hab =>
    rename_i a b
    rw [withEither_append, withEither_append]
    rcases hab with ha | hb
    · rw [ha.withEither_cons hi, withEither_cons _ _ b (a :: after), ha.withEither_cons hi,
        ← withEither_cons]
    · rw [hb.withEither_cons hi, withEither_cons _ _ a (b :: after), hb.withEither_cons hi,
        ← withEither_cons]

/-- Any number of edits changes nothing about them either. -/
theorem agreeOnNamed_of_edits (h : Relation.ReflTransGen (BystanderEdit text) xs ys) :
    AgreeOnNamed text xs ys := by
  induction h with
  | refl => exact fun _ _ => rfl
  | tail _ hedit ih => exact ih.trans hedit.agreeOnNamed

end Edits

/-! ## Outcomes -/

section Outcomes

variable {text : String} {xs ys : List Account}

/-- Whether the named accounts are there can be seen from those that were picked. -/
lemma resolve_looksLike {α δ : Type} {i : Instruction α δ}
    (h : Account.withEither i.debit i.credit xs = Account.withEither i.debit i.credit ys) :
    Alike Rejection.LooksLike Eq (resolve xs i) (resolve ys i) := by
  refine resolve_alike (fun id hid => ?_) (fun id => ⟨rfl, rfl⟩) h
  rw [← Account.exists_mem_withEither hid, h, Account.exists_mem_withEither hid]

/-- The later stages see the picked accounts only. -/
lemma judge_looksLike
    (hinvolved : Request.involved ⟨xs, text⟩ = Request.involved ⟨ys, text⟩) :
    Alike Rejection.LooksLike Eq (Request.judge ⟨xs, text⟩) (Request.judge ⟨ys, text⟩) := by
  unfold Request.judge
  refine (Alike.refl Rejection.LooksLike.refl _).bind fun _ _ _ _ _ => ?_
  refine (resolve_looksLike hinvolved).bind fun _ _ _ _ _ => ?_
  rw [hinvolved]
  exact Alike.refl Rejection.LooksLike.refl _

lemma outcome_of_agreeOnNamed (h : AgreeOnNamed text xs ys) (today : Day) :
    (clear ⟨xs, text⟩ today).outcome = (clear ⟨ys, text⟩ today).outcome := by
  cases hread : Sentence.read text with
  | error r =>
    have hfailure : ∀ accounts,
        Failure.ofRejection r (none : Option RawInstruction) [] =
          Request.failure ⟨accounts, text⟩ r :=
      fun accounts => failure_of_parse hread
    have houtcome : ∀ accounts, (clear ⟨accounts, text⟩ today).outcome =
        .error (.failure (.ofRejection r (none : Option RawInstruction) [])) := fun accounts =>
      outcome_eq_error_iff.mpr ⟨r, bind_eq_error_iff.mpr (.inl hread), by rw [hfailure accounts]⟩
    rw [houtcome, houtcome]
  | ok i =>
    have hinvolved : Request.involved ⟨xs, text⟩ = Request.involved ⟨ys, text⟩ := by
      rw [Request.involved_eq, Request.involved_eq, ← Sentence.eq_reading_of_parse hread]
      exact h i hread
    rcases (judge_looksLike hinvolved).cases with ⟨order, _, hxs, hys, rfl⟩ | ⟨r, s, hxs, hys, hrs⟩
    · rw [outcome_eq_ok_iff.mpr ⟨order, hxs, rfl⟩, outcome_eq_ok_iff.mpr ⟨order, hys, rfl⟩,
        hinvolved]
    · have hfailure : Request.failure ⟨xs, text⟩ r = Request.failure ⟨ys, text⟩ s :=
        hrs.failure_eq rfl hinvolved
      rw [outcome_eq_error_iff.mpr ⟨r, hxs, rfl⟩, outcome_eq_error_iff.mpr ⟨s, hys, rfl⟩, hfailure]

end Outcomes

/-- Accounts that the text does not name have no influence.  Lists that agree on the named accounts
come to the same, and so do any two lists if the text is no sentence; in particular accounts that
are not named may be inserted, removed, changed and moved about. -/
theorem clear_ignores_bystanders (text : String) (today : Day) :
    (∀ xs ys, AgreeOnNamed text xs ys →
      (clear ⟨xs, text⟩ today).outcome = (clear ⟨ys, text⟩ today).outcome) ∧
    ((∀ i, Sentence.read text ≠ .ok i) → ∀ xs ys,
      (clear ⟨xs, text⟩ today).outcome = (clear ⟨ys, text⟩ today).outcome) ∧
    ∀ xs ys, Relation.ReflTransGen (BystanderEdit text) xs ys →
      (clear ⟨xs, text⟩ today).outcome = (clear ⟨ys, text⟩ today).outcome := by
  refine ⟨fun xs ys h => outcome_of_agreeOnNamed h today, fun hnone xs ys => ?_, fun xs ys h => ?_⟩
  · exact outcome_of_agreeOnNamed (fun i hi => absurd hi (hnone i)) today
  · exact outcome_of_agreeOnNamed (agreeOnNamed_of_edits h) today

/-- A transfer between two accounts. -/
def namesTwo : String :=
  "DEBIT 5 USD FROM ACCOUNT a FOR CREDIT TO ACCOUNT b"

lemma read_namesTwo : Sentence.read namesTwo = .ok ⟨.debit, .whole 5, "USD", "a", "b", none⟩ := by
  decide +kernel

/-- A transfer is turned down alike with and without a bystander in no currency at all and with an id
that no account may have; it is carried out alike before and after an edit; and a text of two words
fails alike with any accounts. -/
theorem clear_ignores_bystanders_between :
    AgreeOnNamed namesTwo
        [⟨"b", 1, "USD"⟩, ⟨"#!", 100000000000000000000, ""⟩, ⟨"a", 3, "USD"⟩]
        [⟨"b", 1, "USD"⟩, ⟨"a", 3, "USD"⟩] ∧
      (clear ⟨[⟨"b", 1, "USD"⟩, ⟨"#!", 100000000000000000000, ""⟩, ⟨"a", 3, "USD"⟩], namesTwo⟩
          ⟨2026, 1, 1, by decide⟩).outcome =
        (clear ⟨[⟨"b", 1, "USD"⟩, ⟨"a", 3, "USD"⟩], namesTwo⟩ ⟨2026, 1, 1, by decide⟩).outcome ∧
      BystanderEdit namesTwo [⟨"b", 1, "USD"⟩, ⟨"a", 8, "USD"⟩]
        [⟨"A", 9, "EUR"⟩, ⟨"b", 1, "USD"⟩, ⟨"a", 8, "USD"⟩] ∧
      (clear ⟨[⟨"b", 1, "USD"⟩, ⟨"a", 8, "USD"⟩], namesTwo⟩ ⟨2026, 1, 1, by decide⟩).outcome =
        .ok ⟨"DEBIT", 5, "USD", "a", "b", none, .successful, "AP00",
          [⟨"b", 6, 1, "USD"⟩, ⟨"a", 3, 8, "USD"⟩]⟩ ∧
      (clear ⟨[⟨"b", 1, "USD"⟩, ⟨"a", 8, "USD"⟩], namesTwo⟩ ⟨2026, 1, 1, by decide⟩).outcome =
        (clear ⟨[⟨"A", 9, "EUR"⟩, ⟨"b", 1, "USD"⟩, ⟨"a", 8, "USD"⟩], namesTwo⟩
          ⟨2026, 1, 1, by decide⟩).outcome ∧
      (∀ i, Sentence.read "DEBIT 5" ≠ .ok i) ∧
      (clear ⟨[], "DEBIT 5"⟩ ⟨2026, 1, 1, by decide⟩).outcome =
        (clear ⟨[⟨"a", 3, "USD"⟩], "DEBIT 5"⟩ ⟨2026, 1, 1, by decide⟩).outcome := by
  have hagree : AgreeOnNamed namesTwo
      [⟨"b", 1, "USD"⟩, ⟨"#!", 100000000000000000000, ""⟩, ⟨"a", 3, "USD"⟩]
      [⟨"b", 1, "USD"⟩, ⟨"a", 3, "USD"⟩] := by
    intro i hi
    rw [read_namesTwo] at hi
    obtain rfl := Except.ok.inj hi
    decide +kernel
  have hedit : BystanderEdit namesTwo [⟨"b", 1, "USD"⟩, ⟨"a", 8, "USD"⟩]
      [⟨"A", 9, "EUR"⟩, ⟨"b", 1, "USD"⟩, ⟨"a", 8, "USD"⟩] := by
    refine .insert [] _ fun i hi => ?_
    rw [read_namesTwo] at hi
    obtain rfl := Except.ok.inj hi
    decide +kernel
  have hnone : ∀ i, Sentence.read "DEBIT 5" ≠ .ok i := by
    have hread : Sentence.read "DEBIT 5" = .error (.malformed 2) := by decide +kernel
    intro i hi
    rw [hread] at hi
    cases hi
  refine ⟨hagree, ?_, hedit, by decide +kernel, ?_, hnone, ?_⟩
  · exact (clear_ignores_bystanders namesTwo _).1 _ _ hagree
  · exact (clear_ignores_bystanders namesTwo _).2.2 _ _ (.single hedit)
  · exact (clear_ignores_bystanders "DEBIT 5" _).2.1 hnone _ _

end Remittance
