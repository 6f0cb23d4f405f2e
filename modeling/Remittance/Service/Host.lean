import Remittance.Service.HostName

/-!
# Hosts

The host in a written address is one of three.  Four decimal numbers with points between them are
an address of 32 bits, and what stands between brackets is one of 128 bits, in groups of hexadecimal
digits.  Every other host is a name, and all names in ASCII will do.  `Host.fault?` is what is wrong
with a host of the kind that it is taken for.
-/

namespace Remittance

open Numeral

/-- What a host is taken for and is not. -/
inductive HostFault where
  /-- Four decimal numbers. -/
  | numbers
  /-- Groups of hexadecimal digits between brackets. -/
  | groups
  /-- A name. -/
  | name
deriving DecidableEq

/-- What a host is called that is not what it is taken for. -/
def HostFault.word : HostFault → String
  | .numbers => "IPv4 address"
  | .groups => "IPv6 address"
  | .name => "IDNA hostname"

namespace Host

/-! ## Four numbers -/

/-- Whether a host is taken for four numbers: it is four runs of digits, where any one character may
stand between one run and the next, even another digit.  A run of digits is as many runs as every
second digit can divide it into. -/
def isNumeric (host : List Char) : Bool :=
  let runs := host.splitOnP (!isDecimalDigit ·)
  runs.all (!·.isEmpty) && runs.length ≤ 4 &&
    4 ≤ runs.foldl (fun n run => n + (run.length + 1) / 2) 0

/-- Whether the text is a number of eight bits without zeros in front of it. -/
def isOctet (cs : List Char) : Bool :=
  cs.length ≤ 3 && (cs.length == 1 || cs.head? != some '0') &&
    (readDigits? 10 cs).any (· < 256)

/-- Whether the text is four numbers of eight bits with points between them. -/
def isFourOctets (cs : List Char) : Bool :=
  let parts := cs.splitOn '.'
  parts.length == 4 && parts.all isOctet

/-! ## Groups -/

/-- Whether the text is a group of one to four hexadecimal digits. -/
def isGroup (cs : List Char) : Bool :=
  cs.length ≤ 4 && (readDigits? 16 cs).isSome

/-- The groups on one side of a gap.  At an end of the address, the gap is next to nothing. -/
def beside (parts : List (List Char)) : List (List Char) :=
  if parts = [[]] then [] else parts

/-- Whether the parts between the colons of an address are its eight groups, or fewer of them with
one gap, an empty part that is neither the first nor the last. -/
def areGroups (parts : List (List Char)) : Bool :=
  match (parts.drop 1).dropLast.findIdx? List.isEmpty with
  | none => parts.length == 8 && parts.all isGroup
  | some i =>
    let groups := beside (parts.take (i + 1)) ++ beside (parts.drop (i + 2))
    groups.length ≤ 7 && groups.all isGroup

/-- The parts of an address with two groups in the place of four numbers at the end; none if they
are no such numbers. -/
def withoutOctets? (parts : List (List Char)) : Option (List (List Char)) :=
  match parts.getLast? with
  | some last =>
    if last.contains '.' then
      if isFourOctets last then some (parts.dropLast ++ [['0'], ['0']]) else none
    else some parts
  | none => some parts

/-- Whether the text is an address in groups, which may name a zone after a percent sign. -/
def isGrouped (cs : List Char) : Bool :=
  let (address, zone) := cs.span (· != '%')
  (zone.isEmpty || (1 < zone.length && !(zone.drop 1).contains '%')) &&
    (withoutOctets? (address.splitOn ':')).any areGroups

/-- Whether a host is taken for groups. -/
def isBracketed (host : List Char) : Bool :=
  host.head? == some '[' && host.getLast? == some ']'

/-! ## All hosts -/

/-- What is wrong with a host. -/
def fault? (host : List Char) : Option HostFault :=
  if host.isEmpty then none
  else if isNumeric host then if isFourOctets host then none else some .numbers
  else if isBracketed host then
    if isGrouped (host.drop 1).dropLast then none else some .groups
  else if HostName.isAscii host || HostName.isName host then none
  else some .name

end Host

end Remittance
