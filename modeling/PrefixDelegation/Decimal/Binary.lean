/-!
# Binary numbers as exact fractions

A finite double is a whole number of units, where the unit is a power of two: its value is
`± significand · 2 ^ exponent`. All rules about the digits of a double, and about the whole number
nearest to it, are rules about these two integers, so they are computed here in exact arithmetic
and never by dividing doubles.
-/

namespace PrefixDelegation.Decimal

/-- A finite double as sign, significand and power of two. -/
structure Binary where
  /-- Whether the sign bit is set; zero has a sign too. -/
  negative : Bool
  /-- The number of units. -/
  significand : Nat
  /-- The power of two that is one unit. -/
  exponent : Int
deriving Repr, DecidableEq

/-- What the bits of a double say. -/
inductive Reading where
  | finite (value : Binary)
  | infinite (negative : Bool)
  | undefined
deriving Repr, DecidableEq

/-- Takes a double apart into sign, exponent and significand. -/
def Reading.ofFloat (x : Float) : Reading :=
  let bits := x.toBits.toNat
  let negative := bits / Nat.pow 2 63 == 1
  let biased : Nat := bits / Nat.pow 2 52 % 2048
  let fraction : Nat := bits % Nat.pow 2 52
  if biased == 2047 then if fraction == 0 then .infinite negative else .undefined
  else if biased == 0 then .finite ⟨negative, fraction, -1074⟩
  else .finite ⟨negative, Nat.pow 2 52 + fraction, (biased : Int) - 1075⟩

namespace Binary

/-- The numerator of the absolute value, over `denominator`. -/
def numerator (b : Binary) : Nat := b.significand * Nat.pow 2 b.exponent.toNat

/-- A power of two that makes `numerator` whole. -/
def denominator (b : Binary) : Nat := Nat.pow 2 (-b.exponent).toNat

/-- The sign applied to an absolute value. -/
def signed (b : Binary) (n : Nat) : Int := if b.negative then -(n : Int) else n

/-- The value without its fraction: rounding toward zero. -/
def truncate (b : Binary) : Int := b.signed (b.numerator / b.denominator)

/-- The value with its fraction made whole: rounding away from zero. -/
def awayFromZero (b : Binary) : Int :=
  b.signed ((b.numerator + (b.denominator - 1)) / b.denominator)

/-- The whole number nearest to the absolute value; a half goes to the even neighbour. -/
def nearestAbs (b : Binary) : Nat :=
  let low := b.numerator / b.denominator
  let twice := 2 * (b.numerator % b.denominator)
  if twice > b.denominator || (twice == b.denominator && low % 2 == 1) then low + 1 else low

/-- The whole number nearest to the value; a half goes to the even neighbour. -/
def nearest (b : Binary) : Int := b.signed b.nearestAbs

end Binary

/-- A double without its fraction, unless it is no finite number. -/
def truncate? (x : Float) : Option Int :=
  match Reading.ofFloat x with
  | .finite b => some b.truncate
  | _ => none

end PrefixDelegation.Decimal
