import PrefixDelegation.Decimal.Binary

/-!
# The fewest digits that read back

A decimal reads back to a double when it lies in the interval of reals that round to that double:
from half a unit below to half a unit above, the ends included exactly when the significand is
even, and only a quarter of a unit below when the significand is the smallest of its exponent,
because the doubles below stand twice as close.

For a count of digits the decimals with that many digits form a grid. If any point of a grid lies
in the interval, one of the two neighbours of the double on the grid does. So the grids are tried
from one digit to seventeen; the first with a hit gives the digits, the nearer of two hits wins,
and of two equally near ones the even one.
-/

namespace PrefixDelegation.Decimal

/-- A decimal `digits · 10 ^ exponent`. -/
structure Scientific where
  digits : Nat
  exponent : Int
deriving Repr, DecidableEq

/-- A positive double, in quarters of its unit, on the grid of the multiples of a power of ten:
the value is `quarters · scale / step` grid steps, and its rounding interval reaches from
`below` quarters under it to two quarters over it. -/
structure Grid where
  quarters : Nat
  below : Nat
  scale : Nat
  step : Nat
  /-- Whether the ends of the rounding interval belong to it. -/
  closed : Bool

/-- The grid of the multiples of `10 ^ power`. -/
def Grid.ofBinary (b : Binary) (power : Int) : Grid where
  quarters := 4 * b.significand
  below := if b.significand == Nat.pow 2 52 && b.exponent > -1074 then 1 else 2
  scale := Nat.pow 2 (b.exponent - 2).toNat * Nat.pow 10 (-power).toNat
  step := Nat.pow 2 (2 - b.exponent).toNat * Nat.pow 10 power.toNat
  closed := b.significand % 2 == 0

/-- Whether the `n`-th point of the grid reads back to the double. -/
def Grid.hits (g : Grid) (n : Nat) : Bool :=
  let low := (g.quarters - g.below) * g.scale
  let high := (g.quarters + 2) * g.scale
  let point := n * g.step
  (low < point && point < high) || (g.closed && (low == point || point == high))

/-- The point of the grid that is written, if one of the two neighbours reads back. -/
def Grid.choice? (g : Grid) : Option Nat :=
  let exact := g.quarters * g.scale
  let low := exact / g.step
  let twice := 2 * (exact % g.step)
  match g.hits low && low > 0, g.hits (low + 1) with
  | true, true =>
    if twice < g.step || (twice == g.step && low % 2 == 0) then some low else some (low + 1)
  | true, false => some low
  | false, true => some (low + 1)
  | false, false => none

/-- The power of ten just above a positive double: the least `k` with `value < 10 ^ k`. -/
def magnitude (b : Binary) : Int :=
  let estimate : Int := ((Nat.log2 b.significand : Int) + b.exponent) * 30103 / 100000 - 1
  let above (k : Int) : Bool :=
    b.numerator * Nat.pow 10 (-k).toNat < b.denominator * Nat.pow 10 k.toNat
  match (List.range 4).find? fun (i : Nat) => above (estimate + i) with
  | some i => estimate + i
  | none => estimate + 4

/-- The shortest decimal that reads back to the absolute value of a finite double. -/
def shortest (b : Binary) : Scientific :=
  if b.significand == 0 then ⟨0, 0⟩
  else
    let top := magnitude b
    let tryDigits (count : Nat) : Option Scientific :=
      (Grid.ofBinary b (top - count)).choice?.map fun n => ⟨n, top - count⟩
    match (List.range 17).findSome? fun i => tryDigits (i + 1) with
    | some decimal => decimal
    | none =>
      let g := Grid.ofBinary b (top - 17)
      ⟨g.quarters * g.scale / g.step, top - 17⟩

end PrefixDelegation.Decimal
