import Remittance.Text.CompositionTable
import Remittance.Text.NameTable

/-!
# Composed texts

Two texts can look the same although one has a single character where the other has a letter and a
mark, or the same marks in another order.  `composed` writes a text in one way: it takes letters and
marks apart, puts the marks on a letter in the order of their classes, and joins every letter with
the marks that it makes one character with.  A text is in composed form if this leaves it alone.
-/

namespace Remittance.Text

/-- The class of a mark; 0 for all other characters. -/
def combiningClass (c : Char) : Nat :=
  ((combiningClasses.find? fun (_, ranges) => isInRanges ranges c).map (·.1)).getD 0

/-! ## Taking apart -/

/-- The letter and the mark that one character stands for. -/
def parts? (c : Char) : Option (Char × Char) :=
  compositions.findSome? fun (mark, pairs) =>
    (pairs.find? (·.2 == c.toNat)).map fun (letter, _) => (Char.ofNat letter, Char.ofNat mark)

/-- The letter and the marks that a character stands for, of which at most so many are taken off. -/
def takenApart (c : Char) : Nat → List Char
  | 0 => [c]
  | n + 1 =>
    match parts? c with
    | some (letter, mark) => takenApart letter n ++ [mark]
    | none => [c]

/-- The letter and the marks that a character stands for.  No letter stands with more than three
marks. -/
def decomposed (c : Char) : List Char :=
  takenApart c 3

/-! ## The order of marks -/

/-- Puts a character at the end of a reversed text; a mark goes before the marks of higher classes
that end the text. -/
def putInOrder (c : Char) : List Char → List Char
  | [] => [c]
  | last :: before =>
    if combiningClass c ≠ 0 ∧ combiningClass c < combiningClass last then
      last :: putInOrder c before
    else c :: last :: before

/-! ## Joining -/

/-- The single character for a letter and a mark. -/
def joined? (letter mark : Char) : Option Char := do
  let pairs ← compositions.lookup mark.toNat
  let both ← pairs.lookup letter.toNat
  return Char.ofNat both

/-- Puts a character at the end of a reversed text; it joins the last letter if it makes one
character with it and is of a higher class than the marks between them. -/
def putJoined (c : Char) (text : List Char) : List Char :=
  let marks := text.takeWhile (combiningClass · != 0)
  match text.drop marks.length with
  | letter :: before =>
    match joined? letter c with
    | some both =>
      if marks.all (combiningClass · < combiningClass c) then marks ++ both :: before else c :: text
    | none => c :: text
  | [] => c :: text

/-- The composed form of a text. -/
def composed (text : List Char) : List Char :=
  let reordered := (text.flatMap decomposed).foldl (fun before c => putInOrder c before) []
  (reordered.foldr putJoined []).reverse

end Remittance.Text
