import Remittance.Text.Blank

/-!
# Words of an instruction

The words of a text are its maximal runs of characters that are no word breaks, in order.  `words`
lists them and `normalize` is the text with a plain space in the place of every word break, so that
both forms of a text have the same words.
-/

namespace Remittance.Text

/-- Puts a finished word in front of the later words, unless it is empty. -/
def close (word : List Char) (later : List (List Char)) : List (List Char) :=
  match word with
  | [] => later
  | _ => word :: later

/-- The run that reaches up to the first word break, possibly empty, and the words after it. -/
def scanWords : List Char → List Char × List (List Char)
  | [] => ([], [])
  | c :: cs =>
    let (word, later) := scanWords cs
    if isWordBreak c then ([], close word later) else (c :: word, later)

/-- The words of a text. -/
def words (s : String) : List String :=
  let (word, later) := scanWords s.toList
  (close word later).map String.ofList

/-- The text with every word break replaced by a plain space. -/
def normalize (s : String) : String :=
  String.ofList (s.toList.map fun c => if isWordBreak c then ' ' else c)

end Remittance.Text
