import Remittance.Text.StandIn

/-!
# Byte encodings of text

Text is sent as bytes in one of five encodings: UTF-8, or UTF-16 or UTF-32 in either byte order.
`Encoding.detect` tells them apart by the zero bytes at the start, which is enough for a text that
starts with two ASCII characters, and `Encoding.decode?` reads the bytes.

A code unit that is half of a surrogate pair stands for no character.  Where it has no other half
beside it, its stand-in takes its place.
-/

namespace Remittance.Text

/-! ## Code units -/

/-- The character of a code unit, or the stand-in of a lone surrogate. -/
def StandIns.unitChar (s : StandIns) (code : Nat) : Char :=
  if isHighSurrogate code || isLowSurrogate code then s.char code else Char.ofNat code

/-- The character of a surrogate pair. -/
def pairChar (high low : Nat) : Char :=
  Char.ofNat (0x10000 + (high - 0xD800) * 0x400 + (low - 0xDC00))

/-- The characters of code units of 16 bits. -/
def StandIns.charsOfUnits (s : StandIns) : List Nat → List Char
  | [] => []
  | [code] => [s.unitChar code]
  | high :: low :: later =>
    if isHighSurrogate high && isLowSurrogate low then pairChar high low :: s.charsOfUnits later
    else s.unitChar high :: s.charsOfUnits (low :: later)

/-! ## UTF-8 -/

/-- The bytes of a text in UTF-8. -/
def bytes (cs : List Char) : List UInt8 :=
  cs.flatMap String.utf8EncodeChar

/-- The text of bytes in UTF-8.  If they are none, every byte beyond ASCII is replaced. -/
def ofBytes (bs : List UInt8) : String :=
  match String.fromUTF8? ⟨bs.toArray⟩ with
  | some s => s
  | none => String.ofList (bs.map fun b => if b < 128 then Char.ofNat b.toNat else '\ufffd')

/-! ## Wider encodings -/

/-- The order in which the bytes of a code unit are sent. -/
inductive ByteOrder where
  | bigEndian
  | littleEndian
deriving DecidableEq

/-- The code unit of some bytes. -/
def ByteOrder.unit : ByteOrder → List UInt8 → Nat
  | .bigEndian, bs => bs.foldl (fun value b => value * 256 + b.toNat) 0
  | .littleEndian, bs => bs.foldr (fun b value => value * 256 + b.toNat) 0

/-- The code units of two bytes each, if no byte is left over. -/
def units16? (order : ByteOrder) : List UInt8 → Option (List Nat)
  | [] => some []
  | a :: b :: later => (units16? order later).map (order.unit [a, b] :: ·)
  | _ => none

/-- The code units of four bytes each, if no byte is left over. -/
def units32? (order : ByteOrder) : List UInt8 → Option (List Nat)
  | [] => some []
  | a :: b :: c :: d :: later => (units32? order later).map (order.unit [a, b, c, d] :: ·)
  | _ => none

/-- How text is sent as bytes. -/
inductive Encoding where
  | utf8
  | utf16 (order : ByteOrder)
  | utf32 (order : ByteOrder)
deriving DecidableEq

namespace Encoding

/-- The encoding of a text by where zeros are among its first bytes. -/
def detect : List UInt8 → Encoding
  | a :: b :: c :: d :: _ =>
    if a = 0 then if b = 0 then .utf32 .bigEndian else .utf16 .bigEndian
    else if b = 0 then if c = 0 ∧ d = 0 then .utf32 .littleEndian else .utf16 .littleEndian
    else .utf8
  | [a, b] =>
    if a = 0 then .utf16 .bigEndian
    else if b = 0 then .utf16 .littleEndian
    else .utf8
  | _ => .utf8

/-- The text of bytes in an encoding.  Nothing is read if bytes are left over or a code unit is
beyond the last code point. -/
def decode? (standIns : StandIns) : Encoding → List UInt8 → Option String
  | .utf8, bs => some (ofBytes bs)
  | .utf16 order, bs =>
    (units16? order bs).map fun codes => String.ofList (standIns.charsOfUnits codes)
  | .utf32 order, bs =>
    match units32? order bs with
    | some codes =>
      if codes.all (· < 0x110000) then some (String.ofList (codes.map standIns.unitChar)) else none
    | none => none

end Encoding

end Remittance.Text
