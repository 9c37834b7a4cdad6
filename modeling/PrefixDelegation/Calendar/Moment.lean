import PrefixDelegation.Calendar.Date
import PrefixDelegation.Decimal.Binary

/-!
# Moments

A moment is what a clock on a wall shows, to the microsecond, with or without the distance of that
clock from universal time. Two moments with an offset are compared as instants, that is by what
universal time it was; two without one are compared by their clocks; a moment with and one without
an offset are never the same and have no order.

Clock readings are microseconds since the start of year 1 and stay before the end of year 9999;
moving a clock past that end is the one failure of `Moment.later?`.
-/

namespace PrefixDelegation.Calendar

/-- The microseconds in a second. -/
def microsPerSecond : Nat := 1000000

/-- The microseconds in a day. -/
def microsPerDay : Nat := 86400 * microsPerSecond

/-- The first clock reading after the end of the calendar. -/
def microLimit : Nat := dayLimit * microsPerDay

/-- How far a clock is ahead of universal time, in microseconds, less than a day either way. -/
structure Offset where
  micros : Int
  bounded : micros.natAbs < microsPerDay
deriving Repr, DecidableEq

/-- The offset of universal time itself. -/
def Offset.zero : Offset := ⟨0, by decide⟩

/-- The reading of a clock. -/
structure Moment where
  /-- Microseconds shown since the start of year 1. -/
  reading : Nat
  /-- The offset of the clock, if it is known. -/
  offset : Option Offset
  bounded : reading < microLimit
deriving Repr, DecidableEq

namespace Moment

/-- The start of year 1 in universal time. -/
def origin : Moment := ⟨0, some Offset.zero, by decide⟩

/-- The epoch of clocks, the start of 1970, in microseconds since the start of year 1. -/
def epoch : Nat := daysBeforeYear 1970 * microsPerDay

/-- The moment some microseconds after the epoch in universal time, if it is within the calendar. -/
def ofEpoch? (micros : Int) : Option Moment :=
  let reading := (epoch + micros).toNat
  if h : 0 ≤ epoch + micros ∧ reading < microLimit then some ⟨reading, some Offset.zero, h.2⟩
  else none

/-- The microseconds of universal time since the start of year 1. -/
def instant (m : Moment) (o : Offset) : Int := m.reading - o.micros

/-- Whether two moments are the same point in time. -/
def same (a b : Moment) : Bool :=
  match a.offset, b.offset with
  | some x, some y => a.instant x == b.instant y
  | none, none => a.reading == b.reading
  | _, _ => false

/-- The microseconds from the second moment to the first, if they can be compared. -/
def since? (a b : Moment) : Option Int :=
  match a.offset, b.offset with
  | some x, some y => some (a.instant x - b.instant y)
  | none, none => some (a.reading - b.reading)
  | _, _ => none

/-- Whether the first moment is before the second. -/
def before (a b : Moment) : Bool :=
  match a.since? b with
  | some gap => gap < 0
  | none => false

/-- Moves a clock by some microseconds, if it stays within the calendar. -/
def shift? (m : Moment) (micros : Int) : Option Moment :=
  let reading := (m.reading + micros).toNat
  if h : 0 ≤ m.reading + micros ∧ reading < microLimit then some ⟨reading, m.offset, h.2⟩
  else none

/-- The moment some whole seconds later, if it is within the calendar. -/
def later? (m : Moment) (seconds : Nat) : Option Moment :=
  m.shift? (seconds * microsPerSecond : Nat)

/-- The same moment on a clock that shows universal time if its offset was unknown. -/
def assumeUniversal (m : Moment) : Moment :=
  match m.offset with
  | some _ => m
  | none => { m with offset := some Offset.zero }

end Moment

/-- Microseconds as seconds: the double nearest to the quotient. -/
def microsToSeconds (micros : Int) : Float :=
  let x := Float.ofScientific micros.natAbs true 6
  if micros < 0 then -x else x

/-- Seconds as whole microseconds: the fraction of a second is scaled and rounded, a half going to
the even neighbour. Only finite numbers of seconds are spans of time. -/
def secondsToMicros? (seconds : Float) : Option Int :=
  match Decimal.Reading.ofFloat seconds with
  | .finite b =>
    let whole := b.truncate
    let fraction := seconds - Float.ofInt whole
    match Decimal.Reading.ofFloat (fraction * 1000000.0) with
    | .finite f => some (whole * microsPerSecond + f.nearest)
    | _ => none
  | _ => none

end PrefixDelegation.Calendar
