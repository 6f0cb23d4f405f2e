import Remittance.Text.Composition
import Remittance.Text.Lower
import Remittance.Text.NameTable
import Remittance.Text.Punycode

/-!
# Host names

A host name beyond ASCII is made of labels with dots between them.  `HostName.isLabel` says which
labels there are: of letters, marks and digits in composed form, with hyphens inside and other
characters only beside those that they belong to, and with one direction of writing.  Labels are
limited in length, and so is the name, as they are written in ASCII.
-/

namespace Remittance.HostName

open Text

/-! ## Characters -/

/-- The characters that separate labels. -/
def isDot (c : Char) : Bool :=
  c == '.' || c == '\u3002' || c == '\uff0e' || c == '\uff61'

/-- Whether the character is a mark. -/
def isMark (c : Char) : Bool :=
  isInRanges markRanges c

/-- Whether the character is a mark that takes no place of its own. -/
def isNonspacing (c : Char) : Bool :=
  isMark c && !isInRanges spacingMarkRanges c

/-- Whether the character is a mark that silences the vowel of a consonant. -/
def isSilencer (c : Char) : Bool :=
  combiningClass c == 9

/-- Whether the character is passed over where the letters around it join. -/
def isTransparent (c : Char) : Bool :=
  (isNonspacing c && c != Char.ofNat 0x1171E) || passedOver.contains c.toNat

/-- Whether the character is one of the first ten Arabic digits. -/
def isArabicDigit (c : Char) : Bool :=
  '\u0660' ≤ c && c ≤ '\u0669'

/-- Whether the character is one of the other ten Arabic digits. -/
def isExtendedArabicDigit (c : Char) : Bool :=
  '\u06f0' ≤ c && c ≤ '\u06f9'

/-! ## Characters in their places -/

/-- Whether there may be an invisible joiner between these texts, of which the first is reversed.
One that separates may also be between letters that would join each other. -/
def mayJoin (separates : Bool) (before after : List Char) : Bool :=
  before.head?.any isSilencer ||
    (separates && ((before.dropWhile isTransparent).head?.any (isInRanges joinsNextRanges)) &&
      ((after.dropWhile isTransparent).head?.any (isInRanges joinsPreviousRanges)))

/-- Whether a label may hold a character between these parts of it, of which the first is
reversed. -/
def mayStand (before : List Char) (c : Char) (after : List Char) : Bool :=
  isInRanges nameRanges c ||
  match c with
  | '\u200c' => mayJoin true before after
  | '\u200d' => mayJoin false before after
  | '\u00b7' => before.head? = some 'l' && after.head? = some 'l'
  | '\u0375' => after.head?.any (isInRanges greekRanges)
  | '\u05f3' => before.head?.any (isInRanges hebrewRanges)
  | '\u05f4' => before.head?.any (isInRanges hebrewRanges)
  | '\u30fb' => (before ++ after).any (isInRanges japaneseRanges)
  | c =>
    (isArabicDigit c && !(before ++ after).any isExtendedArabicDigit) ||
      (isExtendedArabicDigit c && !(before ++ after).any isArabicDigit)

/-- Whether a label may hold all its characters; those before the given ones are reversed. -/
def mayAllStand (before : List Char) : List Char → Bool
  | [] => true
  | c :: after => mayStand before c after && mayAllStand (c :: before) after

/-! ## Hyphens -/

/-- Whether the hyphens of a label are inside it, and not in the two places of those of a label that
is written in ASCII. -/
def areHyphensInside (label : List Char) : Bool :=
  label.head? != some '-' && label.getLast? != some '-' && (label.drop 2).take 2 != ['-', '-']

/-! ## Directions -/

/-- Whether the character is written from right to left. -/
def isRightToLeft (c : Char) : Bool :=
  isInRanges rightToLeftRanges c

/-- Whether the character is a number of Arabic script. -/
def isArabicNumber (c : Char) : Bool :=
  isArabicDigit c || isInRanges [(0x10D30, 0x10D39)] c

/-- Whether the character is a number that is written from left to right in any text. -/
def isEuropeanNumber (c : Char) : Bool :=
  Numeral.isDecimalDigit c || isExtendedArabicDigit c

/-- The characters of labels that have no direction of their own. -/
def isNeutral (c : Char) : Bool :=
  isInRanges [(0x2D, 0x2D), (0xB7, 0xB7), (0x2B9, 0x2BA), (0x2C6, 0x2CF), (0x2EC, 0x2EC),
    (0x375, 0x375), (0x200C, 0x200D), (0x2E2F, 0x2E2F), (0x30FB, 0x30FB), (0xA67F, 0xA67F),
    (0xA717, 0xA71F), (0xA788, 0xA788)] c

/-- Whether a label has one direction.  If anything in it is written from right to left, its first
character is, no letter is written the other way, its numbers are of one kind, and its last
character but for marks is not neutral. -/
def hasOneDirection (label : List Char) : Bool :=
  let isDirected (c : Char) : Bool :=
    isRightToLeft c || isArabicNumber c || isEuropeanNumber c
  !label.any (fun c => isRightToLeft c || isArabicNumber c) ||
    (label.head?.any isRightToLeft &&
      label.all (fun c => isDirected c || isNonspacing c || isNeutral c) &&
      !(label.any isArabicNumber && label.any isEuropeanNumber) &&
      (label.reverse.dropWhile isNonspacing).head?.any isDirected)

/-! ## Labels and names -/

/-- Whether the text is a label. -/
def isLabel (label : List Char) : Bool :=
  label.head?.any (!isMark ·) && areHyphensInside label && mayAllStand [] label &&
    hasOneDirection label && composed label == label

/-- Whether the text is in ASCII. -/
def isAscii (cs : List Char) : Bool :=
  cs.all (·.toNat < 128)

/-- Whether a text in ASCII is a label or stands for one. -/
def isAsciiLabel (label : List Char) : Bool :=
  if label.take 4 = ['x', 'n', '-', '-'] then
    label.getLast? != some '-' &&
      (Punycode.read? (label.drop 4)).any fun meant => lower meant == meant && isLabel meant
  else isLabel label

/-- The length of a label as it is written in ASCII, if the text is one. -/
def labelLength? (label : List Char) : Option Nat :=
  let length := if isAscii label then label.length else 4 + Punycode.length label
  if length ≤ 63 && (if isAscii label then isAsciiLabel label else isLabel label) then some length
  else none

/-- The labels of a name, without the empty one after a dot at the end. -/
def labels (name : List Char) : List (List Char) :=
  let parts := name.splitOnP isDot
  if parts.getLast? = some [] then parts.dropLast else parts

/-- Whether the text is a host name, in any case. -/
def isName (text : List Char) : Bool :=
  let name := lower text
  match (labels name).mapM labelLength? with
  | some lengths => lengths.foldl (fun n length => n + length + 1) 0 ≤ 254
  | none => false

end Remittance.HostName
