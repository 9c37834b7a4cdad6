import PrefixDelegation.Calendar.Moment
import PrefixDelegation.Text.Numeral
import PrefixDelegation.Text.Quoted

/-!
# Dates and times as text

`Moment.write` gives a moment its canonical text: date, `T`, time, a fraction of six digits unless
it is zero, and the offset if it is known, whose seconds and fraction are left out when they are
zero.

`Moment.read` accepts that text and the other layouts of the standard that have an unambiguous
reading. Dates come with or without dashes and as calendar or week dates, any one character
separates date and time, and a time comes with or without colons. Fields are digits of the ASCII
range. Three tolerances are part of the format: one character may stand between the time and the
sign of the offset, further characters may stand there once a fraction has six digits, and an
offset of zero seconds is universal time whatever fraction it is written with. A character of
value zero ends a time early.

A text that has none of the layouts is malformed; a text that has one, with a field out of its
range, is reported by that field, the offset before the date and the date before the time.
-/

namespace PrefixDelegation.Calendar

open Text

/-- Why a text is no moment. -/
inductive MomentError where
  | malformed (text : String)
  | yearOutOfRange (year : Nat)
  | monthOutOfRange
  | dayOutOfRange
  | hourOutOfRange
  | minuteOutOfRange
  | secondOutOfRange
  | offsetOutOfRange (micros : Int)
deriving Repr, DecidableEq

/-- A span of time by its days, seconds and microseconds, those that are zero left out. -/
def describeSpan (micros : Int) : String :=
  let days := micros.fdiv microsPerDay
  let rest := (micros.fmod microsPerDay).toNat
  let seconds := rest / microsPerSecond
  let fraction := rest % microsPerSecond
  let parts :=
    (if days = 0 then [] else ["days=" ++ toString days]) ++
    (if seconds = 0 then [] else ["seconds=" ++ toString seconds]) ++
    (if fraction = 0 then [] else ["microseconds=" ++ toString fraction])
  "datetime.timedelta(" ++ (if parts.isEmpty then "0" else String.intercalate ", " parts) ++ ")"

/-- The wording of a reading error. -/
def MomentError.message : MomentError → String
  | .malformed text => "Invalid isoformat string: " ++ quoted text
  | .yearOutOfRange year => "year " ++ toString year ++ " is out of range"
  | .monthOutOfRange => "month must be in 1..12"
  | .dayOutOfRange => "day is out of range for month"
  | .hourOutOfRange => "hour must be in 0..23"
  | .minuteOutOfRange => "minute must be in 0..59"
  | .secondOutOfRange => "second must be in 0..59"
  | .offsetOutOfRange micros =>
    "offset must be a timedelta strictly between -timedelta(hours=24) and timedelta(hours=24), not "
      ++ describeSpan micros ++ "."

/-! ### Writing -/

/-- A fraction of a second as six digits after a point, or nothing when it is zero. -/
def writeFraction (micros : Nat) : List Char :=
  if micros = 0 then [] else '.' :: fixed 10 6 micros

/-- Hours, minutes and seconds of a day, two digits each. -/
def writeTime (micros : Nat) : List Char :=
  let seconds := micros / microsPerSecond
  fixed 10 2 (seconds / 3600) ++ ':' :: fixed 10 2 (seconds / 60 % 60) ++
    ':' :: fixed 10 2 (seconds % 60) ++ writeFraction (micros % microsPerSecond)

/-- Year, month and day with dashes between them. -/
def writeDate (d : Date) : List Char :=
  fixed 10 4 d.year ++ '-' :: fixed 10 2 d.month ++ '-' :: fixed 10 2 d.day

/-- A sign, hours and minutes, and seconds when they are not zero. -/
def writeOffset (o : Offset) : List Char :=
  let micros := o.micros.natAbs
  let seconds := micros / microsPerSecond
  let fraction := micros % microsPerSecond
  let minutes := fixed 10 2 (seconds / 3600) ++ ':' :: fixed 10 2 (seconds / 60 % 60)
  let exact := if seconds % 60 = 0 ∧ fraction = 0 then []
    else ':' :: fixed 10 2 (seconds % 60) ++ writeFraction fraction
  (if o.micros < 0 then '-' else '+') :: minutes ++ exact

/-- The characters of the canonical text of a moment. -/
def Moment.writeChars (m : Moment) : List Char :=
  writeDate (Date.ofDays (m.reading / microsPerDay)) ++ 'T' :: writeTime (m.reading % microsPerDay)
    ++ match m.offset with
      | some o => writeOffset o
      | none => []

/-- The canonical text of a moment. -/
def Moment.write (m : Moment) : String := String.ofList m.writeChars

/-! ### Reading -/

/-- Takes a number of exactly `count` digits off the front of a text. -/
def takeDigits? : (count : Nat) → List Char → Option (Nat × List Char)
  | count, s =>
    if s.length < count then none
    else (decimalValue? (s.take count)).map fun n => (n, s.drop count)

/-- A date as it is written: by month and day, or by week and weekday. -/
inductive WrittenDate where
  | ofMonth (year month day : Nat)
  | ofWeek (year week weekday : Nat)

/-- Reads the part of a text that is the date. -/
def readDate? (s : List Char) : Option WrittenDate := do
  let (year, rest) ← takeDigits? 4 s
  let dashed := rest.head? == some '-'
  let rest := if dashed then rest.drop 1 else rest
  match rest with
  | 'W' :: rest =>
    let (week, rest) ← takeDigits? 2 rest
    if rest.isEmpty then return .ofWeek year week 1
    else
      let rest ← if dashed then (if rest.head? == some '-' then some (rest.drop 1) else none)
        else some rest
      let (weekday, _) ← takeDigits? 1 rest
      return .ofWeek year week weekday
  | _ =>
    let (month, rest) ← takeDigits? 2 rest
    let rest ← if dashed then (if rest.head? == some '-' then some (rest.drop 1) else none)
      else some rest
    let (day, _) ← takeDigits? 2 rest
    return .ofMonth year month day

/-- Where the date of a text ends. The fifth and sixth characters tell the layouts apart; a week
date without dashes has a weekday when an odd number of digits would be left for the time. -/
def dateLength? (s : List Char) : Option Nat :=
  let at? (i : Nat) : Option Char := s[i]?
  if s.length < 7 then none
  else if s.length = 7 then some 7
  else if at? 4 == some '-' then
    if at? 5 == some 'W' then
      if at? 8 == some '-' then
        if s.length = 9 then none
        else if ((at? 10).bind decimalDigit?).isSome then some 8
        else some 10
      else some 8
    else some 10
  else if at? 4 == some 'W' then
    let digits := 7 + (spanLength (s.drop 7))
    if digits < 9 then some digits else if digits % 2 = 0 then some 7 else some 8
  else some 8
where
  /-- The number of digits at the front of a text. -/
  spanLength (s : List Char) : Nat := (s.takeWhile fun c => (decimalDigit? c).isSome).length

/-- A time of day as it is written, and whether the text ended with it. -/
structure WrittenTime where
  hour : Nat
  minute : Nat
  second : Nat
  micros : Nat
  complete : Bool

/-- The time in microseconds, whatever the ranges of its fields. -/
def WrittenTime.total (t : WrittenTime) : Nat :=
  (3600 * t.hour + 60 * t.minute + t.second) * microsPerSecond + t.micros

/-- Reads a fraction of a second: its first six digits count, and what follows six digits is only
looked at to see whether the text is complete. -/
def readFraction? (s : List Char) (more : Bool) : Option (Nat × Bool) := do
  let count := min 6 s.length
  let (n, rest) ← takeDigits? count s
  let ended :=
    match rest.dropWhile fun c => (decimalDigit? c).isSome with
    | [] => !more
    | c :: _ => c.toNat == 0
  return (n * Nat.pow 10 (6 - count), ended)

/-- What follows a field of a time. -/
inductive AfterField where
  | finished (complete : Bool)
  | field (rest : List Char)
  | fraction (rest : List Char)

/-- Decides what follows a field: the end, one stray character, the next field, or a fraction. -/
def afterField? (colons more : Bool) (s : List Char) : Option AfterField :=
  match s with
  | [] => some (.finished (!more))
  | [c] => if c.toNat < 0x80 then some (.finished (c.toNat == 0)) else none
  | c :: rest =>
    if colons && c == ':' then some (.field rest)
    else if c == '.' || c == ',' then some (.fraction rest)
    else if colons then none
    else some (.field s)

/-- Reads a time of day. `more` says whether an offset follows the text. -/
def readTime? (s : List Char) (more : Bool) : Option WrittenTime := do
  let (hour, rest) ← takeDigits? 2 s
  let colons := rest.head? == some ':'
  match ← afterField? colons more rest with
  | .finished complete => return ⟨hour, 0, 0, 0, complete⟩
  | .fraction rest =>
    let (micros, complete) ← readFraction? rest more
    return ⟨hour, 0, 0, micros, complete⟩
  | .field rest =>
    let (minute, rest) ← takeDigits? 2 rest
    match ← afterField? colons more rest with
    | .finished complete => return ⟨hour, minute, 0, 0, complete⟩
    | .fraction rest =>
      let (micros, complete) ← readFraction? rest more
      return ⟨hour, minute, 0, micros, complete⟩
    | .field rest =>
      let (second, rest) ← takeDigits? 2 rest
      match ← afterField? colons more rest with
      | .finished complete => return ⟨hour, minute, second, 0, complete⟩
      | .fraction rest | .field rest =>
        let (micros, complete) ← readFraction? rest more
        return ⟨hour, minute, second, micros, complete⟩

/-- Reads a time of day and the offset behind it, in microseconds. -/
def readZonedTime? (s : List Char) : Option (WrittenTime × Option Int) := do
  let startsOffset (c : Char) : Bool := c == '+' || c == '-' || c == 'Z'
  let (clock, zone) := s.span fun c => !startsOffset c
  let time ← readTime? clock (!zone.isEmpty)
  match zone with
  | [] => if time.complete then some (time, none) else none
  | 'Z' :: rest =>
    if rest.isEmpty || rest.head? == some '\x00' then some (time, some 0) else none
  | sign :: rest =>
    let distance ← readTime? rest false
    if !distance.complete then none
    else if distance.total < microsPerSecond then some (time, some 0)
    else some (time, some (if sign == '-' then -(distance.total : Int) else distance.total))

/-- The day of a written date, if there is one. -/
def WrittenDate.toDays (d : WrittenDate) (text : String) : Except MomentError Nat :=
  match d with
  | .ofMonth year month day =>
    if year < 1 || year ≥ yearLimit then .error (.yearOutOfRange year)
    else if month < 1 || month > 12 then .error .monthOutOfRange
    else if day < 1 || day > daysInMonth year month then .error .dayOutOfRange
    else .ok (Date.toDays ⟨year, month, day⟩)
  | .ofWeek year week day =>
    match ofWeekDate? year week day with
    | none => .error (.malformed text)
    | some days => if days < dayLimit then .ok days else .error (.yearOutOfRange yearLimit)

/-- The time of day of a written time. -/
def WrittenTime.toMicros (t : WrittenTime) : Except MomentError Nat :=
  if t.hour > 23 then .error .hourOutOfRange
  else if t.minute > 59 then .error .minuteOutOfRange
  else if t.second > 59 then .error .secondOutOfRange
  else .ok t.total

/-- An offset of some microseconds. -/
def Offset.ofMicros (micros : Int) : Except MomentError Offset :=
  if h : micros.natAbs < microsPerDay then .ok ⟨micros, h⟩ else .error (.offsetOutOfRange micros)

/-- Whether a written date names a week that does not exist, which makes its text malformed. -/
def WrittenDate.isMalformed : WrittenDate → Bool
  | .ofMonth .. => false
  | .ofWeek year week day => (ofWeekDate? year week day).isNone

/-- Puts the parts of a moment together. -/
def Moment.assemble (text : String) (date : WrittenDate) (time : WrittenTime)
    (zone : Option Int) : Except MomentError Moment := do
  let offset ← zone.mapM Offset.ofMicros
  let days ← date.toDays text
  let micros ← time.toMicros
  let reading := days * microsPerDay + micros
  if h : reading < microLimit then return ⟨reading, offset, h⟩ else throw (.malformed text)

/-- Reads a moment. -/
def Moment.read (text : String) : Except MomentError Moment := do
  let malformed := MomentError.malformed text
  let s := text.toList
  let some length := dateLength? s | throw malformed
  let some date := readDate? (s.take length) | throw malformed
  if date.isMalformed then throw malformed
  if s.length ≤ length then Moment.assemble text date ⟨0, 0, 0, 0, true⟩ none
  else
    let some (time, zone) := readZonedTime? (s.drop (length + 1)) | throw malformed
    Moment.assemble text date time zone

end PrefixDelegation.Calendar
