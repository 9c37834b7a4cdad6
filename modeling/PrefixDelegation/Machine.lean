import PrefixDelegation.Fault
import PrefixDelegation.Text.Blank

/-!
# Network interfaces of a machine

What a client has to know about the machine it runs on: the interfaces with their numbers and
hardware addresses, and the text of the table of addresses.

A line of the table holds an address as 32 hexadecimal digits and, in its sixth field, the
interface that has it. The link-local address of an interface is the first on its lines that
belongs to `fe80::/10`, which the first three digits tell.
-/

namespace PrefixDelegation

open Text

/-- A network interface. -/
structure Interface where
  name : String
  index : Int
  hardwareAddress : Octets
deriving Repr, DecidableEq

/-- The interfaces of a machine and its table of addresses, if it can be read. -/
structure Machine where
  interfaces : List Interface
  addressTable : Option String
deriving Repr, DecidableEq

namespace Machine

/-- The number of an interface. -/
def interfaceIndex (m : Machine) (name : String) : Except NegotiationError Int :=
  match m.interfaces.find? (·.name == name) with
  | some i => .ok i.index
  | none => .error (.transport (.noInterface name))

/-- The longest name of an interface, in octets; more of a name is not looked at. -/
def maxNameLength : Nat := 15

/-- The hardware address of an interface. -/
def hardwareAddress (m : Machine) (name : String) : Except NegotiationError Octets :=
  let key := name.toUTF8.toList.take maxNameLength
  match m.interfaces.find? (·.name.toUTF8.toList == key) with
  | some i => .ok i.hardwareAddress
  | none => .error (.transport (.noHardwareAddress name .noDevice))

/-- The digits of an address on a line of the table, if the line belongs to an interface. -/
def addressDigits? (interface : String) (line : List Char) : Option (List Char) :=
  match words line with
  | digits :: _ :: _ :: _ :: _ :: name :: _ =>
    if name = interface.toList then some digits else none
  | _ => none

/-- Whether digits have the length of an address and start like those of a link-local one. -/
def startsLinkLocal (digits : List Char) : Bool :=
  digits.length == 32 &&
    ["fe8", "fe9", "fea", "feb"].any fun start =>
      start.toList == (digits.take 3).map Char.toLower

/-- The link-local addresses of an interface as digits, in the order of the table. -/
def linkLocalDigits (table interface : String) : List (List Char) :=
  ((lines table.toList).filterMap (addressDigits? interface)).filter startsLinkLocal

/-- The position of what keeps digits from being octets: a character outside ASCII, if there is
one, or else the first character that is no digit. -/
def strayDigit (digits : List Char) : Nat :=
  (digits.findIdx? (127 < ·.toNat)).getD (digits.findIdx fun c => (hexDigit? c).isNone)

/-- The link-local address of an interface. -/
def linkLocalAddress (m : Machine) (interface : String) : Except Fault String :=
  match m.addressTable with
  | none =>
    .error (.negotiation (.transport (.noAddressTable .notFound)))
  | some table =>
    match linkLocalDigits table interface with
    | [] => .error (.negotiation (.transport (.noLinkLocal interface)))
    | digits :: _ =>
      match Octets.ofHex? digits with
      | some octets => .ok (Address.ipv6Text octets)
      | none => .error (.notHexadecimal (strayDigit digits))

end Machine

end PrefixDelegation
