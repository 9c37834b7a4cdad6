import PrefixDelegation.Text.Numeral

/-!
# Octet strings

Everything that crosses the network is a list of octets. This module gives the two readings the
rest of the library needs: an octet string as a number in network byte order, and an octet string
as pairs of hexadecimal digits.

Hexadecimal text is read leniently between octets and strictly inside one: the six blanks of ASCII
may stand before any pair of digits and after the last, never between the two digits of a pair.
-/

namespace PrefixDelegation

/-- A list of octets. -/
abbrev Octets := List UInt8

namespace Octets

/-- The number an octet string denotes, most significant octet first. -/
def toNat (bs : Octets) : Nat := bs.foldl (fun n b => 256 * n + b.toNat) 0

/-- The lowest `width` octets of a number, most significant first. -/
def ofNat : (width n : Nat) → Octets
  | 0, _ => []
  | width + 1, n => ofNat width (n / 256) ++ [UInt8.ofNat n]

/-- The two hexadecimal digits of one octet. -/
def octetDigits (b : UInt8) : List Char := Text.fixed 16 2 b.toNat

/-- The blanks of ASCII: space, tab, line feed, vertical tab, form feed, carriage return. -/
def isAsciiBlank (c : Char) : Bool := c == ' ' || (9 ≤ c.toNat && c.toNat ≤ 13)

/-- Reads hexadecimal text; blanks are skipped where a pair of digits may start. -/
def ofHex? : List Char → Option Octets
  | [] => some []
  | [c] => if isAsciiBlank c then some [] else none
  | c :: d :: rest =>
    if isAsciiBlank c then ofHex? (d :: rest)
    else do
      let high ← Text.hexDigit? c
      let low ← Text.hexDigit? d
      let octets ← ofHex? rest
      return UInt8.ofNat (16 * high + low) :: octets

end Octets

end PrefixDelegation
