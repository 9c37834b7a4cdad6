import PrefixDelegation.Decimal.Shortest
import PrefixDelegation.Text.Blank
import PrefixDelegation.Text.DecimalDigit
import PrefixDelegation.Text.Numeral

/-!
# Numbers as text

`write` lays out the shortest digits of a double: positionally when its leading digit stands
between the fourth place after the point and the sixteenth before it, always with a point and at
least one digit on each side of it; otherwise as a leading digit, the other digits after a point
if there are any, and a signed exponent of at least two digits.

`readFloat?` and `readInt?` accept what people type. Blanks around the number are ignored, digits
may come from any script, and a single underscore may stand between two digits. The information
separators are not blanks here.
-/

namespace PrefixDelegation.Decimal

open Text

/-- The digits of a decimal without trailing zeros, and the place of its point counted from the
first digit. -/
def significantDigits (s : Scientific) : List Char × Int :=
  let all := decimal s.digits
  let kept := (all.reverse.dropWhile (· == '0')).reverse
  (kept, all.length + s.exponent)

/-- Digits with a point at a given place, filled up with zeros on either side. -/
def positional (digits : List Char) (point : Int) : List Char :=
  if point ≤ 0 then '0' :: '.' :: List.replicate (-point).toNat '0' ++ digits
  else
    let before := point.toNat
    let whole := digits.take before ++ List.replicate (before - digits.length) '0'
    let fraction := digits.drop before
    whole ++ '.' :: (if fraction.isEmpty then ['0'] else fraction)

/-- A leading digit, the remaining ones after a point, and the power of ten. -/
def withExponent (digits : List Char) (exponent : Int) : List Char :=
  let mantissa :=
    match digits with
    | [] => []
    | [d] => [d]
    | d :: rest => d :: '.' :: rest
  let sign := if exponent < 0 then '-' else '+'
  mantissa ++ 'e' :: sign :: padLeft 2 '0' (decimal exponent.natAbs)

/-- The digits of a finite double, laid out. -/
def writeBinary (b : Binary) : List Char :=
  let sign := if b.negative then ['-'] else []
  if b.significand == 0 then sign ++ ['0', '.', '0']
  else
    let (digits, point) := significantDigits (shortest b)
    let exponent := point - 1
    sign ++ if -4 ≤ exponent && exponent < 16 then positional digits point
      else withExponent digits exponent

/-- A double as the shortest text that reads back to it. -/
def write (x : Float) : String :=
  match Reading.ofFloat x with
  | .finite b => String.ofList (writeBinary b)
  | .infinite negative => if negative then "-inf" else "inf"
  | .undefined => "nan"

/-- A double rounded to a whole number and written without a point. -/
def writeWhole (x : Float) : String :=
  match Reading.ofFloat x with
  | .finite b => String.ofList ((if b.negative then ['-'] else []) ++ decimal b.nearestAbs)
  | .infinite negative => if negative then "-inf" else "inf"
  | .undefined => "nan"

/-! ### Reading -/

/-- The blanks that may surround a number. -/
def surroundsNumber (c : Char) : Bool :=
  isBlank c && !(0x1c ≤ c.toNat && c.toNat ≤ 0x1f)

/-- A typed number without surrounding blanks and with its digits in ASCII. -/
def normalise (s : List Char) : List Char :=
  let inner := ((s.dropWhile surroundsNumber).reverse.dropWhile surroundsNumber).reverse
  inner.map fun c => ((digitOfAnyScript? c).map digitChar).getD c

/-- Whether every underscore stands between two digits, given the character before. -/
def underscoresFit : (before : Char) → List Char → Bool
  | before, [] => before != '_'
  | before, c :: rest =>
    (c != '_' || (decimalDigit? before).isSome) &&
    (before != '_' || (decimalDigit? c).isSome) && underscoresFit c rest

/-- Removes underscores that stand between digits; a misplaced one makes it `none`. -/
def dropUnderscores? (s : List Char) : Option (List Char) :=
  if underscoresFit ' ' s then some (s.filter (· != '_')) else none

/-- Takes an optional sign off a text; the first part is true for a minus sign. -/
def takeSign : List Char → Bool × List Char
  | '-' :: rest => (true, rest)
  | '+' :: rest => (false, rest)
  | s => (false, s)

/-- Splits a text behind its leading ASCII digits. -/
def spanDigits (s : List Char) : List Char × List Char :=
  s.span fun c => (decimalDigit? c).isSome

/-- The exponent part of a number: nothing, or `e`, an optional sign and digits. -/
def readExponent? : List Char → Option Int
  | [] => some 0
  | c :: rest =>
    if c != 'e' && c != 'E' then none
    else
      let (negative, digits) := takeSign rest
      if digits.isEmpty then none
      else (decimalValue? digits).map fun n => if negative then -(n : Int) else n

/-- The double nearest to `mantissa · 10 ^ exponent`. Decimals beyond the range of doubles are
decided by their magnitude alone. -/
def nearestFloat (mantissa : Nat) (exponent : Int) : Float :=
  let top := (decimal mantissa).length + exponent
  if mantissa == 0 || top < -400 then 0.0
  else if top > 400 then 1.0 / 0.0
  else Float.ofScientific mantissa (exponent < 0) exponent.natAbs

/-- An unsigned decimal number with an optional fraction and an optional exponent. -/
def readUnsigned? (s : List Char) : Option Float :=
  let (whole, rest) := spanDigits s
  let (fraction, rest) :=
    match rest with
    | '.' :: rest => spanDigits rest
    | _ => ([], rest)
  if whole.isEmpty && fraction.isEmpty then none
  else do
    let exponent ← readExponent? rest
    let mantissa ← decimalValue? (whole ++ fraction)
    return nearestFloat mantissa (exponent - fraction.length)

/-- The names of the numbers that have no digits. -/
def namedFloat? (s : List Char) : Option Float :=
  let name := String.ofList (s.map Char.toLower)
  if name == "inf" || name == "infinity" then some (1.0 / 0.0)
  else if name == "nan" then some (0.0 / 0.0)
  else none

/-- Reads a number that may have a fraction and an exponent. -/
def readFloat? (s : String) : Option Float := do
  let (negative, body) := takeSign (← dropUnderscores? (normalise s.toList))
  let x ← (namedFloat? body).or (readUnsigned? body)
  return if negative then -x else x

/-- The most digits that a whole number may have, leading zeros included. -/
def maxDigits : Nat := 4300

/-- Reads a whole number. -/
def readInt? (s : List Char) : Option Int := do
  let (negative, digits) := takeSign (← dropUnderscores? (normalise s))
  if digits.isEmpty || maxDigits < digits.length then none
  else
    let n ← decimalValue? digits
    return if negative then -(n : Int) else n

end PrefixDelegation.Decimal
