import PrefixDelegation.Text.Numeral
import PrefixDelegation.Text.Pieces

/-!
# IPv4 addresses as text

Four decimal numbers below 256 with points between them. A number has no leading zeros, so that
an address has one text.
-/

namespace PrefixDelegation.Address

open Text

/-- One of the four numbers: below 256 and without leading zeros. -/
def readByte? (s : List Char) : Option Nat :=
  if s.isEmpty || s.length > 3 || (s.length > 1 && s.head? == some '0') then none
  else (decimalValue? s).filter (· < 256)

/-- Reads an address as a number of 32 bits. -/
def readIpv4? (s : List Char) : Option Nat := do
  let pieces := splitAt '.' s
  if pieces.length ≠ 4 then none
  else
    let bytes ← pieces.mapM readByte?
    return bytes.foldl (256 * · + ·) 0

/-- Writes a number of 32 bits as an address. -/
def writeIpv4 (address : Nat) : List Char :=
  join ['.'] [decimal (address / 0x1000000 % 256), decimal (address / 0x10000 % 256),
    decimal (address / 0x100 % 256), decimal (address % 256)]

end PrefixDelegation.Address
