import Remittance.Numeral.Digits

/-!
# Labels in ASCII

A label of a host name is written in ASCII by its ASCII characters, a hyphen after them, and for
every other character, in ascending order, the distance from the one before, counted in characters
and places.  Distances are written in base 36 with the lowest digit first; the last digit of each is
told by a threshold that depends on its place and on a bias, which follows the distances so far.
-/

namespace Remittance.Text.Punycode

/-! ## Distances -/

/-- The threshold of a digit, where the places are counted in steps of 36. -/
def threshold (bias place : Nat) : Nat :=
  if place ≤ bias then 1 else min 26 (place - bias)

theorem threshold_pos (bias place : Nat) : 0 < threshold bias place := by
  unfold threshold
  split <;> omega

/-- The bias of a distance that is scaled down to at most 455, in so many steps of 36. -/
def scaledBias (steps distance : Nat) : Nat :=
  if 455 < distance then scaledBias (steps + 36) (distance / 35)
  else steps + 36 * distance / (distance + 38)
termination_by distance
decreasing_by exact Nat.div_lt_self (by omega) (by omega)

/-- The bias after a distance, when there are so many characters. -/
def nextBias (first : Bool) (distance count : Nat) : Nat :=
  let damped := if first then distance / 700 else distance / 2
  scaledBias 0 (damped + damped / count)

/-- The digits of a distance. -/
def digits (bias place distance : Nat) : List Nat :=
  let t := threshold bias place
  if distance < t then [distance]
  else
    (t + (distance - t) % (36 - t)) :: digits bias (place + 36) ((distance - t) / (36 - t))
termination_by distance
decreasing_by
  have positive := threshold_pos bias place
  have := Nat.div_le_self (distance - threshold bias place) (36 - threshold bias place)
  omega

/-! ## Writing -/

/-- What is known while the characters of a label are passed over for one code point. -/
structure Progress where
  /-- The characters passed since the last one that was written. -/
  distance : Nat
  bias : Nat
  /-- How many characters are written. -/
  count : Nat
  /-- The digits so far. -/
  digits : List Nat

/-- Passes over a character, which is written if it has the code point.  The label has so many ASCII
characters. -/
def Progress.pass (ascii code : Nat) (p : Progress) (c : Char) : Progress :=
  if c.toNat < code then { p with distance := p.distance + 1 }
  else if c.toNat = code then
    { distance := 0
      bias := nextBias (p.count = ascii) p.distance (p.count + 1)
      count := p.count + 1
      digits := p.digits ++ Punycode.digits p.bias 36 p.distance }
  else p

/-- The digits for the code points that are still to be written, in ascending order, when those
below `next` are. -/
def digitsFrom (label : List Char) (ascii : Nat) :
    (next : Nat) → List Nat → Progress → List Nat
  | _, [], p => p.digits
  | next, code :: later, p =>
    let reached := { p with distance := p.distance + (code - next) * (p.count + 1) }
    let passed := label.foldl (Progress.pass ascii code) reached
    digitsFrom label ascii (code + 1) later { passed with distance := passed.distance + 1 }

/-- The number of characters of a label in ASCII. -/
def length (label : List Char) : Nat :=
  let ascii := (label.filter (·.toNat < 128)).length
  let codes := ((label.filter (128 ≤ ·.toNat)).map Char.toNat).eraseDups.mergeSort
  ascii + (if ascii = 0 then 0 else 1) +
    (digitsFrom label ascii 128 codes ⟨0, 72, ascii, []⟩).length

/-! ## Reading -/

/-- The value of a digit: the letters come first and the decimal digits after them. -/
def digit? (c : Char) : Option Nat :=
  if Numeral.isDecimalDigit c then (Numeral.digit? 10 c).map (· + 26)
  else (Numeral.digit? 36 c).map (· - 10)

/-- The distance at the start of a text, and the text after it. -/
def takeDistance (bias : Nat) :
    (place weight value : Nat) → List Char → Option (Nat × List Char)
  | _, _, _, [] => none
  | place, weight, value, c :: rest =>
    (digit? c).bind fun d =>
      let t := threshold bias place
      let value := value + d * weight
      if d < t then some (value, rest)
      else takeDistance bias (place + 36) (weight * (36 - t)) value rest

/-- Puts the characters of a text of distances into the label.  `next` is the code point and `place`
the place that a distance of zero leads to, and `fuel` bounds the distances. -/
def insert (fuel bias next place : Nat) (first : Bool) (label : List Char) :
    List Char → Option (List Char)
  | [] => some label
  | cs =>
    match fuel with
    | 0 => none
    | fuel + 1 =>
      (takeDistance bias 36 1 0 cs).bind fun (distance, rest) =>
        let count := label.length + 1
        let code := next + (place + distance) / count
        let position := (place + distance) % count
        if h : code.isValidChar then
          insert fuel (nextBias first distance count) code (position + 1) false
            (label.insertIdx position (Char.ofNatAux code h)) rest
        else none

/-- The label that a text in ASCII stands for. -/
def read? (cs : List Char) : Option (List Char) :=
  let (after, before) := cs.reverse.span (· != '-')
  insert cs.length 72 128 0 true (before.drop 1).reverse after.reverse

end Remittance.Text.Punycode
