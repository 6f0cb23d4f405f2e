/-!
# Blank characters

Four sets of blank characters are in use, and no two of them agree.  `isWordBreak` separates the
words of an instruction, `isTrimmable` is taken off both ends of a text field, `isWhiteSpace` off
both ends of a written integer, and `isAsciiBlank` off both ends of a written decimal number.

`trimWith` takes a set off both ends of a text; `trim` is `trimWith isTrimmable` on strings.
-/

namespace Remittance.Text

/-- The space separators: the plain space and sixteen others of various widths. -/
def isSpaceSeparator (c : Char) : Bool :=
  c == ' ' || c == '\u00a0' || c == '\u1680' || ('\u2000' ≤ c && c ≤ '\u200a') ||
    c == '\u202f' || c == '\u205f' || c == '\u3000'

/-- The five line and tabulation controls, from tab to carriage return. -/
def isLayoutControl (c : Char) : Bool :=
  '\t' ≤ c && c ≤ '\x0d'

/-- The 23 characters that separate the words of an instruction: the space separators, the layout
controls and the Ethiopic word space. -/
def isWordBreak (c : Char) : Bool :=
  isSpaceSeparator c || isLayoutControl c || c == '\u1361'

/-- The 25 characters with the white-space property. -/
def isWhiteSpace (c : Char) : Bool :=
  isSpaceSeparator c || isLayoutControl c || c == '\u0085' || c == '\u2028' || c == '\u2029'

/-- The 29 characters that are taken off the ends of a text field: white space and the four
information separators. -/
def isTrimmable (c : Char) : Bool :=
  isWhiteSpace c || ('\x1c' ≤ c && c ≤ '\x1f')

/-- The plain space and the layout controls. -/
def isAsciiBlank (c : Char) : Bool :=
  c == ' ' || isLayoutControl c

/-- Takes the characters of a set off both ends. -/
def trimWith (blank : Char → Bool) (cs : List Char) : List Char :=
  ((cs.dropWhile blank).reverse.dropWhile blank).reverse

/-- Takes the trimmable characters off both ends of a text field. -/
def trim (s : String) : String :=
  String.ofList (trimWith isTrimmable s.toList)

end Remittance.Text
