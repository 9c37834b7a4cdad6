import PrefixDelegation.Address.Ipv4
import PrefixDelegation.Octets

/-!
# IPv6 addresses as text

An address is a number of 128 bits, written as eight groups of sixteen bits in hexadecimal with
colons between them. In the canonical text the leftmost of the longest runs of at least two zero
groups is written as `::`. Where that run starts the address and is six groups long, or five
groups followed by `ffff`, the last two groups are written as an IPv4 address.

A text is read back when it has eight groups, or at most seven around one `::`; a group has one to
four digits, and an IPv4 address may stand for the last two groups.
-/

namespace PrefixDelegation.Address

open Text

/-- The eight groups of an address. -/
def groups (address : Nat) : List Nat :=
  (List.range 8).map fun i => address / Nat.pow 65536 (7 - i) % 65536

/-- The address with given groups. -/
def ofGroups (gs : List Nat) : Nat := gs.foldl (65536 * · + ·) 0

/-! ### Writing -/

/-- The number of zero groups at the front. -/
def zeroRun (gs : List Nat) : Nat := (gs.takeWhile (· == 0)).length

/-- Where the leftmost longest run of zero groups starts and how long it is. -/
def longestZeroRun (gs : List Nat) : Nat × Nat :=
  (List.range gs.length).foldl
    (fun best i => if zeroRun (gs.drop i) > best.2 then (i, zeroRun (gs.drop i)) else best) (0, 0)

/-- Groups in hexadecimal with colons between them. -/
def writeGroups (gs : List Nat) : List Char := join [':'] (gs.map (numeral 16))

/-- Whether the last two groups are written as an IPv4 address, given the run of zeros. -/
def endsInIpv4 (gs : List Nat) (start length : Nat) : Bool :=
  start == 0 && (length == 6 || (length == 5 && gs[5]? == some 0xffff))

/-- The canonical text of an address, as characters. -/
def writeIpv6Chars (address : Nat) : List Char :=
  let gs := groups address
  let (start, length) := longestZeroRun gs
  if length < 2 then writeGroups gs
  else if endsInIpv4 gs start length then
    let front := ((gs.drop length).take (6 - length)).map (numeral 16)
    ':' :: ':' :: join [':'] (front ++ [writeIpv4 (address % 0x100000000)])
  else writeGroups (gs.take start) ++ ':' :: ':' :: writeGroups (gs.drop (start + length))

/-- The canonical text of an address. -/
def writeIpv6 (address : Nat) : String := String.ofList (writeIpv6Chars address)

/-- The canonical text of an address given by its sixteen octets. -/
def ipv6Text (octets : Octets) : String := writeIpv6 (Octets.toNat octets)

/-! ### Reading -/

/-- The number that hexadecimal digits denote. -/
def hexValue? (s : List Char) : Option Nat :=
  s.foldlM (fun n c => (hexDigit? c).map (16 * n + ·)) 0

/-- A group: one to four hexadecimal digits. -/
def readGroup? (s : List Char) : Option Nat :=
  if s.isEmpty || s.length > 4 then none else hexValue? s

/-- The groups of a text between colons. The last piece may be an IPv4 address if `mayEnd` says
that the text ends the address. -/
def readPieces? (mayEnd : Bool) : List (List Char) → Option (List Nat)
  | [] => some []
  | [piece] =>
    if mayEnd && piece.contains '.' then
      (readIpv4? piece).map fun n => [n / 65536, n % 65536]
    else (readGroup? piece).map ([·])
  | piece :: pieces => do
    let group ← readGroup? piece
    let rest ← readPieces? mayEnd pieces
    return group :: rest

/-- The groups of a text; the empty text has none. -/
def readGroups? (mayEnd : Bool) (s : List Char) : Option (List Nat) :=
  if s.isEmpty then some [] else readPieces? mayEnd (splitAt ':' s)

/-- What stands before and after the first `::`. -/
def splitGap : List Char → Option (List Char × List Char)
  | ':' :: ':' :: rest => some ([], rest)
  | [] => none
  | c :: rest => (splitGap rest).map fun (before, after) => (c :: before, after)

/-- Reads an address as a number of 128 bits. -/
def readIpv6? (s : List Char) : Option Nat :=
  match splitGap s with
  | none => do
    let gs ← readGroups? true s
    if gs.length = 8 then return ofGroups gs else none
  | some (before, after) => do
    let left ← readGroups? false before
    let right ← readGroups? true after
    let count := left.length + right.length
    if count ≤ 7 then return ofGroups (left ++ List.replicate (8 - count) 0 ++ right) else none

end PrefixDelegation.Address
