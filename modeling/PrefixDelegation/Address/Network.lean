import PrefixDelegation.Address.Ipv6
import PrefixDelegation.Decimal.Notation

/-!
# Networks

A network is an address, host bits included, and the number of leading bits that name the network.
It is written as the address, a slash and that number.

A text is read as an IPv4 network if it can be, and else as an IPv6 network. Without a slash the
network is the one address. After the slash stands the length as a whole number, or an address of
the same family that is a netmask (ones before zeros) or a hostmask (zeros before ones). A length
that is neither number nor address is a fault of its own when it holds another slash, and so is the
character zero in a text that is looked at as an IPv6 address.
-/

namespace PrefixDelegation.Address

open Text

/-- The two families of addresses. -/
inductive Family where
  | ipv4
  | ipv6
deriving Repr, DecidableEq

/-- The bits of an address. -/
def Family.width : Family → Nat
  | .ipv4 => 32
  | .ipv6 => 128

/-- How many addresses of a family there are. -/
def Family.size (f : Family) : Nat := Nat.pow 2 f.width

/-- Reads an address of a family. -/
def Family.read? : Family → List Char → Option Nat
  | .ipv4 => readIpv4?
  | .ipv6 => readIpv6?

/-- Writes an address of a family. -/
def Family.write : Family → Nat → List Char
  | .ipv4 => writeIpv4
  | .ipv6 => writeIpv6Chars

/-- An address and the length of its network part. -/
structure Network where
  family : Family
  address : Nat
  length : Nat
  address_lt : address < family.size
  length_le : length ≤ family.width
deriving Repr, DecidableEq

/-- Why a text is no network. -/
inductive NetworkError where
  /-- It has not the form of a network. -/
  | invalid (text : String)
  /-- Its length holds a second slash. -/
  | secondSlash
  /-- It holds the character zero where an address is looked for. -/
  | nullCharacter
deriving Repr, DecidableEq

/-- The wording of a reading error. -/
def NetworkError.message : NetworkError → String
  | .invalid text => "invalid IPNetwork " ++ text
  | .secondSlash =>
    "IPAddress() does not support netmasks or subnet prefixes! See documentation for details."
  | .nullCharacter => "embedded null character"

/-- Whether an error lies in a part of the text rather than in its form. -/
def NetworkError.isInValue : NetworkError → Bool
  | .invalid _ => false
  | .secondSlash | .nullCharacter => true

namespace Network

/-- The text of a network, as characters. -/
def writeChars (n : Network) : List Char := n.family.write n.address ++ '/' :: decimal n.length

/-- The text of a network. -/
def write (n : Network) : String := String.ofList n.writeChars

/-- An address and a length, if they are within the bounds of the family. -/
def make? (family : Family) (address : Nat) (length : Int) : Option Network :=
  if h : address < family.size ∧ length.toNat ≤ family.width ∧ 0 ≤ length then
    some ⟨family, address, length.toNat, h.1, h.2.1⟩
  else none

/-- The length that a mask of a given width stands for, as a netmask or else as a hostmask. -/
def maskLength? (width mask : Nat) : Option Nat :=
  let lengths := List.range (width + 1)
  (lengths.find? fun n => mask == Nat.pow 2 width - Nat.pow 2 (width - n)).or
    (lengths.find? fun n => mask == Nat.pow 2 (width - n) - 1)

/-- Splits a text at its first slash. -/
def splitSlash (s : List Char) : List Char × Option (List Char) :=
  match s.span (· != '/') with
  | (before, _ :: after) => (before, some after)
  | (before, []) => (before, none)

/-- Reads an address within a text. No IPv6 address can be looked for in a text that holds the
character zero. -/
def readPart (family : Family) (s : List Char) : Except NetworkError (Option Nat) :=
  if family = .ipv6 && s.contains '\x00' then .error .nullCharacter else .ok (family.read? s)

/-- Reads a text as a network of one family; the inner `none` means that it is not one. -/
def readAs (family : Family) (s : List Char) : Except NetworkError (Option Network) := do
  let (before, after) := splitSlash s
  match ← readPart family before with
  | none => return none
  | some address =>
    match after with
    | none => return make? family address family.width
    | some length =>
      match Decimal.readInt? length with
      | some n => return make? family address n
      | none =>
        if length.contains '/' then throw .secondSlash
        let mask ← readPart family length
        return (mask.bind (maskLength? family.width)).bind fun n => make? family address n

/-- Reads a network of either family. -/
def read (text : String) : Except NetworkError Network := do
  let s := text.toList
  if let some network ← readAs .ipv4 s then return network
  if let some network ← readAs .ipv6 s then return network
  throw (.invalid text)

end Network

end PrefixDelegation.Address
