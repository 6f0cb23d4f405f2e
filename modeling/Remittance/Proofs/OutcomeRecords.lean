import Remittance.Proofs.Reversal

/-!
# The records of a clearing tell its outcome

A payload that does not conform leaves no record.  Any other leaves at most one note and then one
record of the clearing: a warning with the code and the message of the failure, or an information
about the transaction.  `Json.Told` says so, and `clearPayload_told` that every clearing is told.

There are five stages at which a request is turned down, and each has a note of its own, or none, to
write before the warning.  `Request.FailsIn` names the part of the work to which the stage belongs
by the computation that fails there, so that the note can be traced to it.

The records are texts.  That they carry what they show means that it can be got back from them: the
code in a warning has four characters, and an information is read word by word.  So two clearings
with the same records have the same outcome, as far as records go (`ToldAlike`).
-/

namespace Remittance

open Requirement

/-! ## Notes -/

/-- At most one note, written by the given part of the work. -/
structure AreNotes (source : Source) (notes : List Record) : Prop where
  length_le : notes.length ≤ 1
  level : ∀ note ∈ notes, note.level = .debug
  source : ∀ note ∈ notes, note.source = source

lemma AreNotes.nil (source : Source) : AreNotes source [] :=
  ⟨Nat.zero_le 1, List.forall_mem_nil _, List.forall_mem_nil _⟩

lemma AreNotes.singleton {source : Source} {note : Record} (hlevel : note.level = .debug)
    (hsource : note.source = source) : AreNotes source [note] :=
  ⟨Nat.le_refl 1, List.forall_mem_singleton.mpr hlevel, List.forall_mem_singleton.mpr hsource⟩

/-- The part of the work that is the first to look at what a code stands for. -/
def StatusCode.firstSource : StatusCode → Source
  | .malformedInstruction | .missingKeyword => .grammar
  | .accountNotFound => .accounts
  | .insufficientFunds | .transactionSuccessful | .transactionPending => .settlement
  | _ => .screening

/-- Where one part of the work is the first to look at all the requirements of a stage, the note of
a rejection by the stage is its own. -/
lemma areNotes_of_firstUnmet {source : Source} {rs : List Requirement} {r : Rejection}
    (h : FirstUnmet rs r.code)
    (hcodes : ∀ code ∈ rs.map Requirement.code, code.firstSource = source) :
    AreNotes source r.note?.toList := by
  obtain rfl := hcodes _ h.code_mem
  cases r with
  | malformed words => exact .singleton rfl rfl
  | accountNotFound id supplied => exact .singleton rfl rfl
  | mixedCurrencies currencies => exact .singleton rfl rfl
  | _ => exact .nil _

/-- The settlement turns down without a note. -/
lemma Instruction.areNotes_of_cover {order : Order} {accounts : List Account} {r : Rejection}
    (h : order.cover accounts = .error r) : AreNotes .settlement r.note?.toList := by
  unfold cover at h
  split at h
  · cases h
    exact .nil _
  · split at h
    · cases h
      exact .nil _
    · cases h

/-! ## Where a request is turned down -/

/-- The part of the work that turns a request down on a day, and the rejection. -/
inductive Request.FailsIn (request : Request) (today : Day) : Source → Rejection → Prop
  | sentence {r : Rejection} (h : Sentence.read request.text = .error r) :
      FailsIn request today .grammar r
  | accounts {i : Instruction Number String} {r : Rejection}
      (hread : Sentence.read request.text = .ok i)
      (h : resolve request.accounts (i.mapAmount Scalar.number) = .error r) :
      FailsIn request today .accounts r
  | instruction {i : Instruction Number String} {involved : List Account} {r : Rejection}
      (hread : Sentence.read request.text = .ok i)
      (hresolve : resolve request.accounts (i.mapAmount Scalar.number) = .ok involved)
      (h : (i.mapAmount Scalar.number).screen = .error (.rejected r)) :
      FailsIn request today .screening r
  | involved {order : Order} {involved : List Account} {r : Rejection}
      (hreaches : request.Reaches order involved) (h : screenAccounts involved = .error r) :
      FailsIn request today .screening r
  | settlement {order : Order} {involved : List Account} {r : Rejection}
      (hreaches : request.Reaches order involved)
      (hscreen : screenAccounts involved = .ok involved)
      (h : settle order involved today = .error (.rejected r)) :
      FailsIn request today .settlement r

/-- An order that reaches the settlement is turned down there if it is not covered. -/
lemma Request.Reaches.settle_eq {request : Request} {order : Order} {involved : List Account}
    (hreaches : request.Reaches order involved) (hscreen : screenAccounts involved = .ok involved)
    {r : Rejection} (hcover : order.cover involved = .error r) (today : Day) :
    settle order involved today = .error (.rejected r) := by
  have hsame : ∀ a ∈ involved, ∀ b ∈ involved, a.currency = b.currency :=
    (decides_screenAccounts _).allMet hscreen ⟨_, .currencyMismatch⟩
      (by simp [involvedRequirements])
  obtain ⟨i, hread, hresolve, horder⟩ := hreaches
  obtain rfl := Sentence.eq_reading_of_parse hread
  obtain ⟨hdebit, hcredit, rfl⟩ := (resolve_eq_ok_iff _ _).mp hresolve
  have hpasses := Instruction.passesAs_of_screen horder
  rw [Remittance.settle_eq today (isWritable_of_passesAs hpasses) _ _ hsame, hcover]
  · rw [hpasses.debit]
    exact (Account.exists_mem_withEither (.inl rfl)).mpr hdebit
  · rw [hpasses.credit]
    exact (Account.exists_mem_withEither (.inr rfl)).mpr hcredit

/-- A request that is turned down is so by one part of the work, whose notes are the only ones. -/
lemma Request.exists_failsIn {request : Request} {r : Rejection}
    (h : request.judge = .error r) (today : Day) :
    ∃ source, request.FailsIn today source r ∧ AreNotes source r.note?.toList := by
  rcases bind_eq_error_iff.mp h with hread | ⟨i, hread, h⟩
  · have hunmet := (Sentence.decides_parse _).firstUnmet hread
    exact ⟨.grammar, .sentence hread,
      areNotes_of_firstUnmet hunmet (by simp [Sentence.requirements, StatusCode.firstSource])⟩
  obtain rfl := Sentence.eq_reading_of_parse hread
  rcases bind_eq_error_iff.mp h with hresolve | ⟨involved, hresolve, h⟩
  · have hunmet := (decides_resolve _ _).firstUnmet hresolve
    exact ⟨.accounts, .accounts hread hresolve,
      areNotes_of_firstUnmet hunmet (by simp [accountRequirements, StatusCode.firstSource])⟩
  obtain rfl : involved = request.involved := ((resolve_eq_ok_iff _ _).mp hresolve).2.2
  rcases bind_eq_error_iff.mp h with hjudge | ⟨order, hjudge, h⟩
  · have hunmet := (Instruction.decides_judge _).firstUnmet hjudge
    have hscreen : request.instruction.screen = .error (.rejected r) := by
      rw [Instruction.screen_eq, tell_eq_rejected_iff]
      exact ⟨hjudge, Request.isTellable_of_judge hjudge⟩
    exact ⟨.screening, .instruction hread hresolve hscreen,
      areNotes_of_firstUnmet hunmet (by simp [instructionRequirements, StatusCode.firstSource])⟩
  have hreaches : request.Reaches order request.involved :=
    ⟨_, hread, hresolve, (Instruction.passesAs_of_judge hjudge).screen_eq⟩
  rcases bind_eq_error_iff.mp h with hinvolved | ⟨accounts, hinvolved, hcover⟩
  · have hunmet := (decides_screenAccounts _).firstUnmet hinvolved
    exact ⟨.screening, .involved hreaches hinvolved,
      areNotes_of_firstUnmet hunmet (by simp [involvedRequirements, StatusCode.firstSource])⟩
  · obtain rfl := screenAccounts_eq_ok hinvolved
    exact ⟨.settlement, .settlement hreaches hinvolved (hreaches.settle_eq hinvolved hcover today),
      Instruction.areNotes_of_cover hcover⟩

/-! ## What a record carries -/

/-- The record is the warning about the failure. -/
structure Failure.CarriedBy (f : Failure) (record : Record) : Prop where
  level : record.level = .warning
  source : record.source = .clearing
  text : record.text = "Instruction rejected (" ++ f.code.code ++ "): " ++ f.message

/-- The words of the information about a transaction. -/
def Transaction.informationWords (t : Transaction) : List String :=
  ["Instruction", t.status.word, "(" ++ t.code ++ "):", t.kind, Numeral.integer t.amount,
    t.currency, t.debit, "->", t.credit]

/-- The record is the information about the transaction, and its words are those that it was made
of. -/
structure Transaction.CarriedBy (t : Transaction) (record : Record) : Prop where
  level : record.level = .info
  source : record.source = .clearing
  text : record.text = " ".intercalate t.informationWords
  words : Text.words record.text = t.informationWords

/-- Two transactions agree in all that the information about them shows. -/
structure Transaction.ShowsSame (t u : Transaction) : Prop where
  status : t.status = u.status
  code : t.code = u.code
  kind : t.kind = u.kind
  amount : t.amount = u.amount
  currency : t.currency = u.currency
  debit : t.debit = u.debit
  credit : t.credit = u.credit

lemma StatusCode.length_code (code : StatusCode) : code.code.length = 4 := by
  cases code <;> rfl

lemma StatusCode.ofCode?_code (code : StatusCode) : ofCode? code.code = some code := by
  cases code <;> rfl

lemma StatusCode.code_injective : Function.Injective StatusCode.code := by
  have hback : ofCode? ∘ StatusCode.code = some := funext ofCode?_code
  exact .of_comp (hback ▸ Option.some_injective _)

lemma Status.ofWord?_word (status : Status) : ofWord? status.word = some status := by
  cases status <;> rfl

lemma Status.word_injective : Function.Injective Status.word := by
  have hback : ofWord? ∘ Status.word = some := funext ofWord?_word
  exact .of_comp (hback ▸ Option.some_injective _)

/-- A warning is about one code and one message. -/
lemma Failure.CarriedBy.unique {f g : Failure} {record : Record} (hf : f.CarriedBy record)
    (hg : g.CarriedBy record) : f.code = g.code ∧ f.message = g.message := by
  have htext := hf.text.symm.trans hg.text
  simp only [← String.toList_inj, String.toList_append] at htext
  -- The codes are equally long, so that the messages begin at one place.
  have hlength : f.code.code.toList.length = g.code.code.toList.length := by
    rw [String.length_toList, String.length_toList, f.code.length_code, g.code.length_code]
  obtain ⟨hfront, hmessage⟩ := List.append_inj htext (by simp [hlength])
  have hcode := List.append_cancel_left (List.append_cancel_right hfront)
  exact ⟨StatusCode.code_injective (String.toList_inj.mp hcode), String.toList_inj.mp hmessage⟩

/-- An information is about one transaction, as far as it shows it. -/
lemma Transaction.CarriedBy.unique {t u : Transaction} {record : Record} (ht : t.CarriedBy record)
    (hu : u.CarriedBy record) : t.ShowsSame u := by
  have hwords : t.informationWords = u.informationWords := ht.words.symm.trans hu.words
  simp only [informationWords, List.cons.injEq, true_and, and_true] at hwords
  obtain ⟨hstatus, hcode, hkind, hamount, hcurrency, hdebit, hcredit⟩ := hwords
  simp only [← String.toList_inj, String.toList_append, List.append_cancel_left_eq,
    List.append_cancel_right_eq] at hcode
  exact ⟨Status.word_injective hstatus, String.toList_inj.mp hcode, hkind,
    Numeral.integer_injective hamount, hcurrency, hdebit, hcredit⟩

/-! ## The record of an outcome -/

lemma Rejection.carriedBy_warning (request : Request) (r : Rejection) :
    (request.failure r).CarriedBy r.warning :=
  ⟨rfl, rfl, rfl⟩

/-- The words of an information are a few that never vary, a number, and what passed the screening
of a request whose accounts have ids. -/
lemma Request.ComesTo.isPlainWord_informationWords {request : Request} {order : Order}
    (h : request.ComesTo order) (hids : ∀ a ∈ request.accounts, a.id ≠ "") (today : Day) :
    ∀ w ∈ (Transaction.ofOrder order request.involved today).informationWords,
      Text.IsPlainWord w := by
  have hplain : ∀ id, (∃ a ∈ request.accounts, a.id = id) → IsAccountId id →
      Text.IsPlainWord id := by
    rintro _ ⟨a, ha, rfl⟩ hid
    exact Text.isPlainWord_of_isAccountId (hids a ha) hid
  have hdebit := hplain _ h.debit (h.passes.debit ▸ h.passes.isAccountId_debit)
  have hcredit := hplain _ h.credit (h.passes.credit ▸ h.passes.isAccountId_credit)
  have hcurrency := Text.isPlainWord_of_supported h.passes.supported
  have hkind : ∀ kind : Kind, Text.IsPlainWord kind.keyword := by
    intro kind
    cases kind <;> decide +kernel
  have hstanding : ∀ due : Bool,
      Text.IsPlainWord (if due then Status.successful else .pending).word ∧
        Text.IsPlainWord ("(" ++
          (if due then StatusCode.transactionSuccessful else .transactionPending).code ++
            "):") := by
    decide +kernel
  obtain ⟨hstatus, hcode⟩ := hstanding (order.isDue today)
  have hfirst : Text.IsPlainWord "Instruction" ∧ Text.IsPlainWord "->" := by decide +kernel
  simp only [Transaction.informationWords, Transaction.ofOrder, List.forall_mem_cons]
  exact ⟨hfirst.1, hstatus, hcode, hkind _, Text.isPlainWord_integer _, hcurrency, hdebit, hfirst.2,
    hcredit, List.forall_mem_nil _⟩

lemma Transaction.text_information (t : Transaction) :
    t.information.text = " ".intercalate t.informationWords := by
  simp [← String.toList_inj, information, informationWords]

lemma Request.ComesTo.carriedBy_information {request : Request} {order : Order}
    (h : request.ComesTo order) (hids : ∀ a ∈ request.accounts, a.id ≠ "") (today : Day) :
    (Transaction.ofOrder order request.involved today).CarriedBy
      (Transaction.ofOrder order request.involved today).information where
  level := rfl
  source := rfl
  text := Transaction.text_information _
  words := by
    rw [Transaction.text_information]
    exact Text.words_intercalate (h.isPlainWord_informationWords hids today)

/-! ## The records of a clearing -/

/-- What the clearing of a payload leaves: no record of a payload that does not conform; otherwise
the notes of the stage that failed, or of the settlement, and the record of the outcome. -/
inductive Json.Told (payload : Json) (today : Day) : Journaled Refusal Transaction → Prop
  | violations {found : List Violation} (hconforms : ¬payload.Conforms) :
      Told payload today (.refuse [] (.violations found))
  | failure {request : Request} {source : Source} {r : Rejection} {f : Failure}
      {notes : List Record} {last : Record} (hdescribes : payload.DescribesRequest request)
      (hfails : request.FailsIn today source r) (hcode : f.code = r.code)
      (hmessage : f.message = r.message) (hnotes : AreNotes source notes)
      (hlast : f.CarriedBy last) :
      Told payload today (.refuse (notes ++ [last]) (.failure f))
  | transaction {t : Transaction} {notes : List Record} {last : Record}
      (hconforms : payload.Conforms) (hnotes : AreNotes .settlement notes)
      (hlast : t.CarriedBy last) :
      Told payload today ⟨notes ++ [last], .ok t⟩

/-- Two outcomes are the same as far as records go: violations, a failure with one code and one
message, or a transaction that shows one and the same. -/
inductive ToldAlike : Except Refusal Transaction → Except Refusal Transaction → Prop
  | violations {found found' : List Violation} :
      ToldAlike (.error (.violations found)) (.error (.violations found'))
  | failure {f g : Failure} (hcode : f.code = g.code) (hmessage : f.message = g.message) :
      ToldAlike (.error (.failure f)) (.error (.failure g))
  | transaction {t u : Transaction} (h : t.ShowsSame u) : ToldAlike (.ok t) (.ok u)

lemma Json.DescribesRequest.told {payload : Json} {request : Request}
    (h : payload.DescribesRequest request) (today : Day) :
    payload.Told today (clear request today) := by
  rw [clear_eq]
  cases hjudge : request.judge with
  | error r =>
    obtain ⟨source, hfails, hnotes⟩ := Request.exists_failsIn hjudge today
    exact .failure h hfails rfl rfl hnotes (r.carriedBy_warning request)
  | ok order =>
    have hids : ∀ a ∈ request.accounts, a.id ≠ "" :=
      fun a ha => (h.isNormal.accounts a ha).id_ne_empty
    have hlast := (Request.comesTo_of_judge hjudge).carriedBy_information hids today
    exact .transaction ⟨request, h⟩ (.singleton rfl rfl) hlast

lemma told_clearPayload (payload : Json) (today : Day) :
    payload.Told today (clearPayload payload today) := by
  by_cases hconforms : payload.Conforms
  · obtain ⟨request, hdescribes⟩ := hconforms
    rw [clearPayload_of_describes hdescribes]
    exact hdescribes.told today
  · obtain ⟨found, _, h⟩ := clearPayload_of_not_conforms hconforms today
    rw [h]
    exact .violations hconforms

/-- The last records decide between the outcomes. -/
lemma Json.Told.alike {payload payload' : Json} {today today' : Day}
    {j j' : Journaled Refusal Transaction} (h : payload.Told today j)
    (h' : payload'.Told today' j') (hrecords : j.records = j'.records) :
    ToldAlike j.outcome j'.outcome := by
  have hempty : ∀ {notes : List Record} {last : Record}, notes ++ [last] ≠ [] := by simp
  have hlast : ∀ {notes notes' : List Record} {last last' : Record},
      notes ++ [last] = notes' ++ [last'] → last = last' :=
    fun h => List.singleton_inj.mp (List.append_inj' h rfl).2
  cases h with
  | violations =>
    cases h' with
    | violations => exact .violations
    | failure => exact absurd hrecords.symm hempty
    | transaction => exact absurd hrecords.symm hempty
  | failure _ _ _ _ _ hf =>
    cases h' with
    | violations => exact absurd hrecords hempty
    | failure _ _ _ _ _ hg =>
      obtain rfl := hlast hrecords
      obtain ⟨hcode, hmessage⟩ := hf.unique hg
      exact .failure hcode hmessage
    | transaction _ _ ht =>
      obtain rfl := hlast hrecords
      cases hf.level.symm.trans ht.level
  | transaction _ _ ht =>
    cases h' with
    | violations => exact absurd hrecords hempty
    | failure _ _ _ _ _ hf =>
      obtain rfl := hlast hrecords
      cases hf.level.symm.trans ht.level
    | transaction _ _ hu =>
      obtain rfl := hlast hrecords
      exact .transaction (ht.unique hu)

/-- Every clearing is told by its records, and two that leave the same records are told alike. -/
theorem clearPayload_told (payload : Json) (today : Day) :
    payload.Told today (clearPayload payload today) ∧
      ∀ (payload' : Json) (today' : Day),
        (clearPayload payload today).records = (clearPayload payload' today').records →
        ToldAlike (clearPayload payload today).outcome (clearPayload payload' today').outcome :=
  ⟨told_clearPayload payload today, fun payload' today' hrecords =>
    (told_clearPayload payload today).alike (told_clearPayload payload' today') hrecords⟩

example : (clearPayload (.object [("accounts", .array []), ("instruction", .string "DEBIT 5 USD")])
      ⟨2026, 1, 1, by decide⟩).records =
    [⟨.debug, .grammar, "Malformed instruction: 3 tokens"⟩,
      ⟨.warning, .clearing,
        "Instruction rejected (SY03): The payment instruction is malformed."⟩] := by
  decide +kernel

end Remittance
