import Remittance.Proofs.Judgement

/-!
# Two requests side by side

A statement about two requests follows their judgements stage by stage.  `Alike R S` says of two
results that both are values, related by `S`, or both are rejections, related by `R`, and
`Alike.bind` puts the next two stages behind.  Two requests that name the same accounts of the same
list differ in the screening at most: `Request.Parallels.judge` carries a difference of the two
screened orders through the other stages.

What callers see of a rejection is its code and its message, and `Rejection.LooksLike` is the
relation for that: the number of accounts supplied, say, is only noted in the journal.
-/

namespace Remittance

/-- Two results correspond: both are values or both are rejections, and they are related. -/
def Alike {α β : Type} (R : Rejection → Rejection → Prop) (S : α → β → Prop) :
    Except Rejection α → Except Rejection β → Prop
  | .ok a, .ok b => S a b
  | .error r, .error s => R r s
  | _, _ => False

namespace Alike

variable {α β γ δ : Type} {R : Rejection → Rejection → Prop} {S : α → β → Prop} {T : γ → δ → Prop}

lemma refl (hR : ∀ r, R r r) (x : Except Rejection α) : Alike R Eq x x := by
  cases x with
  | ok a => exact (rfl : a = a)
  | error r => exact hR r

/-- Corresponding stages after corresponding results have corresponding results. -/
lemma bind {x : Except Rejection α} {y : Except Rejection β} {f : α → Except Rejection γ}
    {g : β → Except Rejection δ} (hxy : Alike R S x y)
    (hfg : ∀ a b, x = .ok a → y = .ok b → S a b → Alike R T (f a) (g b)) :
    Alike R T (x >>= f) (y >>= g) := by
  match x, y, hxy with
  | .ok a, .ok b, hab => exact hfg a b rfl rfl hab
  | .error r, .error s, hrs => exact hrs

/-- The two ways in which results correspond. -/
lemma cases {x : Except Rejection α} {y : Except Rejection β} (h : Alike R S x y) :
    (∃ a b, x = .ok a ∧ y = .ok b ∧ S a b) ∨ ∃ r s, x = .error r ∧ y = .error s ∧ R r s := by
  match x, y, h with
  | .ok a, .ok b, hab => exact .inl ⟨a, b, rfl, rfl, hab⟩
  | .error r, .error s, hrs => exact .inr ⟨r, s, rfl, rfl, hrs⟩

end Alike

/-- The search for the named accounts finds them in both lists or in neither. -/
lemma resolve_alike {α δ : Type} {i : Instruction α δ} {xs ys : List Account}
    {R : Rejection → Rejection → Prop} {S : List Account → List Account → Prop}
    (hids : ∀ id, id = i.debit ∨ id = i.credit →
      ((∃ a ∈ xs, a.id = id) ↔ ∃ a ∈ ys, a.id = id))
    (hR : ∀ id, R (.accountNotFound id xs.length) (.accountNotFound id ys.length))
    (hS : S (Account.withEither i.debit i.credit xs) (Account.withEither i.debit i.credit ys)) :
    Alike R S (resolve xs i) (resolve ys i) := by
  have hdebit := hids i.debit (.inl rfl)
  have hcredit := hids i.credit (.inr rfl)
  rw [resolve_eq, resolve_eq]
  by_cases hd : ∃ a ∈ xs, a.id = i.debit
  · rw [if_neg (not_not.mpr hd), if_neg (not_not.mpr (hdebit.mp hd))]
    by_cases hc : ∃ a ∈ xs, a.id = i.credit
    · rw [if_neg (not_not.mpr hc), if_neg (not_not.mpr (hcredit.mp hc))]
      exact hS
    · rw [if_pos hc, if_pos (mt hcredit.mpr hc)]
      exact hR i.credit
  · rw [if_pos hd, if_pos (mt hdebit.mpr hd)]
    exact hR i.debit

/-! ## Requests about the same accounts -/

lemma Request.involved_eq (accounts : List Account) (text : String) :
    involved ⟨accounts, text⟩ =
      Account.withEither (Sentence.reading (Text.words text)).debit
        (Sentence.reading (Text.words text)).credit accounts := by
  simp only [involved, instruction, Instruction.mapAmount]

/-- The second request has the accounts of the first and names the same two of them, and its text is
a sentence if that of the first is one. -/
structure Request.Parallels (first second : Request) : Prop where
  accounts : second.accounts = first.accounts
  debit : second.instruction.debit = first.instruction.debit
  credit : second.instruction.credit = first.instruction.credit
  read : ∃ f, Sentence.read second.text = f <$> Sentence.read first.text

namespace Request.Parallels

variable {first second : Request}

lemma resolve (h : first.Parallels second) :
    resolve second.accounts second.instruction = resolve first.accounts first.instruction := by
  rw [resolve_eq, resolve_eq, h.accounts, h.debit, h.credit]

lemma involved (h : first.Parallels second) : second.involved = first.involved := by
  rw [Request.involved, Request.involved, h.accounts, h.debit, h.credit]

/-- If the two instructions differ in what their judgement hands on and the cover does not look at,
the two requests come to orders that differ in this, or are turned down for the same reason. -/
lemma judge (h : first.Parallels second) {f : Order → Order}
    (hjudge : second.instruction.judge = f <$> first.instruction.judge)
    (hcover : ∀ order accounts, (f order).cover accounts = f <$> order.cover accounts) :
    second.judge = f <$> first.judge := by
  obtain ⟨g, hread⟩ := h.read
  rw [Request.judge, Request.judge, hread, h.resolve, h.involved, hjudge]
  simp only [map_bind, bind_map_left, hcover]

end Request.Parallels

/-! ## Rejections that look alike -/

/-- Callers see no difference between the two rejections. -/
structure Rejection.LooksLike (r s : Rejection) : Prop where
  code : r.code = s.code
  message : r.message = s.message

lemma Rejection.LooksLike.refl (r : Rejection) : r.LooksLike r :=
  ⟨rfl, rfl⟩

/-- Rejections that look alike are the same failure, if the same is known of both requests. -/
lemma Rejection.LooksLike.failure_eq {r s : Rejection} (h : r.LooksLike s) {first second : Request}
    (hinstruction : first.instruction = second.instruction)
    (hinvolved : first.involved = second.involved) : first.failure r = second.failure s := by
  simp only [Request.failure, Failure.ofRejection, h.code, h.message, hinstruction, hinvolved]

end Remittance
