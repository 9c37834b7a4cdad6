/-!
# Numerals

A numeral is the list of digits of a natural number in some base, most significant digit first.
Two shapes are used throughout the library: the shortest numeral (`numeral`), which writes zero as
a single `0` and otherwise starts with a non-zero digit, and the numeral of a fixed width
(`fixed`), which keeps the lowest digits and fills up with zeros. Addresses, dates, transaction
ids and octets are all written with these two, so that reading one back is a statement about one
function.
-/

namespace PrefixDelegation.Text

/-- The character of a digit below sixteen, in lower case. -/
def digitChar (d : Nat) : Char :=
  if d < 10 then Char.ofNat (48 + d) else Char.ofNat (87 + d)

/-- The value of a decimal digit of the ASCII range. -/
def decimalDigit? (c : Char) : Option Nat :=
  if '0' ≤ c ∧ c ≤ '9' then some (c.toNat - 48) else none

/-- The value of a hexadecimal digit of either case. -/
def hexDigit? (c : Char) : Option Nat :=
  if '0' ≤ c ∧ c ≤ '9' then some (c.toNat - 48)
  else if 'a' ≤ c ∧ c ≤ 'f' then some (c.toNat - 87)
  else if 'A' ≤ c ∧ c ≤ 'F' then some (c.toNat - 55)
  else none

/-- The shortest numeral of a number in a base of at least two. -/
def numeral (base n : Nat) : List Char :=
  if _h : n < base ∨ base < 2 then [digitChar n]
  else numeral base (n / base) ++ [digitChar (n % base)]
termination_by n
decreasing_by exact Nat.div_lt_self (by omega) (by omega)

/-- The decimal numeral of a number. -/
def decimal (n : Nat) : List Char := numeral 10 n

/-- The decimal numeral of an integer, with a minus sign before a negative one. -/
def decimalInt : Int → List Char
  | .ofNat n => decimal n
  | .negSucc n => '-' :: decimal (n + 1)

/-- The lowest `width` digits of a number. -/
def fixed (base : Nat) : (width n : Nat) → List Char
  | 0, _ => []
  | width + 1, n => fixed base width (n / base) ++ [digitChar (n % base)]

/-- Fills a text up to a width with a character on its left. -/
def padLeft (width : Nat) (fill : Char) (s : List Char) : List Char :=
  List.replicate (width - s.length) fill ++ s

/-- Fills a text up to a width with a character on its right. -/
def padRight (width : Nat) (fill : Char) (s : List Char) : List Char :=
  s ++ List.replicate (width - s.length) fill

/-- The number that a list of decimal digits denotes; other characters make it `none`. -/
def decimalValue? (s : List Char) : Option Nat :=
  s.foldlM (fun n c => (decimalDigit? c).map (10 * n + ·)) 0

/-- A number in hexadecimal with at least `width` digits after `0x`. -/
def hexWith (width n : Nat) : String :=
  "0x" ++ String.ofList (padLeft width '0' (numeral 16 n))

/-- An integer in hexadecimal, its sign before the `0x`. -/
def hexInt : Int → String
  | .ofNat n => hexWith 1 n
  | .negSucc n => "-" ++ hexWith 1 (n + 1)

end PrefixDelegation.Text
