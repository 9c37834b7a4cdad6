import PrefixDelegation.Decimal.Notation

/-!
# Spans of seconds

Timeouts and waiting times are numbers of seconds, whole or with a fraction. Which of the two was
given shows when they are written, so it is kept; for computing, both are doubles.

A timer counts nanoseconds, and not every number of seconds is one that it can be set to
(`Seconds.timerError?`).
-/

namespace PrefixDelegation

/-- A number of seconds as it was given. -/
inductive Seconds where
  | whole (n : Int)
  | real (x : Float)
deriving Inhabited

namespace Seconds

/-- The double nearest to a number of seconds. -/
def toFloat : Seconds → Float
  | .whole n => Float.ofInt n
  | .real x => x

/-- The double nearest to a number of seconds, unless a whole number is beyond all doubles. -/
def toFloat? : Seconds → Option Float
  | .whole n => if (Float.ofInt n).isInf then none else some (Float.ofInt n)
  | .real x => some x

/-- A number of seconds as it is shown. -/
def write : Seconds → String
  | .whole n => String.ofList (Text.decimalInt n)
  | .real x => Decimal.write x

end Seconds

/-! ### Timers -/

/-- Why a timer cannot be set to a number of seconds. -/
inductive TimerError where
  | undefined
  | negative
  | tooLong
deriving Repr, DecidableEq

namespace Seconds

/-- A number of seconds in nanoseconds. What is left of a nanosecond counts as a whole one. -/
def nanoseconds : Seconds → Except TimerError Int
  | .whole n => .ok (n * 1000000000)
  | .real x =>
    match Decimal.Reading.ofFloat (x * 1000000000.0) with
    | .finite b => .ok b.awayFromZero
    | .infinite _ => .error .tooLong
    | .undefined => .error .undefined

/-- The first number of nanoseconds that no timer counts up to. Timers have 64 bits and a sign. -/
def timerRange : Int := 0x8000000000000000

/-- Why a timer that waits for at most `longest` nanoseconds cannot be set to a number of seconds.
What is out of the range of all timers is too long for any, on either side of zero. -/
def timerError? (longest : Int) (s : Seconds) : Option TimerError :=
  match s.nanoseconds with
  | .error e => some e
  | .ok n =>
    if n < -timerRange ∨ timerRange ≤ n then some .tooLong
    else if n < 0 then some .negative
    else if longest < n then some .tooLong
    else none

end Seconds

end PrefixDelegation
