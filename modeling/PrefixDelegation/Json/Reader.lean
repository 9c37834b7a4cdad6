import PrefixDelegation.Json.Value

/-!
# Reading JSON

The reader accepts the JSON grammar and the three names `NaN`, `Infinity` and `-Infinity`. It goes
through the text once; a fault is reported by its kind and by the place where it was noticed, as
line, column and number of characters before it. There are two more reasons to stop: lists and
objects that are nested too deeply for the reader, and whole numbers with too many digits.

Every function takes what is left of the text, returns what is left behind it, and is bounded by a
count of steps that starts above the length of the text. A value takes one step and at least one
character, so the count never runs out first.

A `\u` escape that is half of a pair and stands alone names no character; it is read as the
replacement character.
-/

namespace PrefixDelegation.Json

open Text

/-- What is wrong with a text that is not JSON. -/
inductive Problem where
  | byteOrderMark
  | expectingValue
  | expectingName
  | expectingColon
  | expectingComma
  | extraData
  | unterminatedText
  | controlCharacter
  | badEscape
  | badUnitEscape
deriving Repr, DecidableEq

/-- The wording of a problem. -/
def Problem.message : Problem → String
  | .byteOrderMark => "Unexpected UTF-8 BOM (decode using utf-8-sig)"
  | .expectingValue => "Expecting value"
  | .expectingName => "Expecting property name enclosed in double quotes"
  | .expectingColon => "Expecting ':' delimiter"
  | .expectingComma => "Expecting ',' delimiter"
  | .extraData => "Extra data"
  | .unterminatedText => "Unterminated string starting at"
  | .controlCharacter => "Invalid control character at"
  | .badEscape => "Invalid \\escape"
  | .badUnitEscape => "Invalid \\uXXXX escape"

/-- Why reading stops. -/
inductive Stop where
  /-- A problem, and the number of characters that were left where it was noticed. -/
  | problem (p : Problem) (left : Nat)
  | tooDeep
  | tooManyDigits (count : Nat)
deriving Repr, DecidableEq

/-- A problem and its place in the text. -/
structure SyntaxError where
  problem : Problem
  line : Nat
  column : Nat
  before : Nat
deriving Repr, DecidableEq

/-- The wording of a syntax error. -/
def SyntaxError.message (e : SyntaxError) : String :=
  e.problem.message ++ ": line " ++ toString e.line ++ " column " ++ toString e.column
    ++ " (char " ++ toString e.before ++ ")"

/-- Why a text cannot be read. -/
inductive ReadError where
  | malformed (e : SyntaxError)
  /-- Lists and objects are nested too deeply. -/
  | tooDeep
  /-- A whole number has too many digits. -/
  | tooManyDigits (count : Nat)
deriving Repr, DecidableEq

/-- The wording of a reason not to read a text. -/
def ReadError.message : ReadError → String
  | .malformed e => e.message
  | .tooDeep => "lists and objects are nested too deeply"
  | .tooManyDigits count =>
    "Exceeds the limit (" ++ toString Decimal.maxDigits
      ++ " digits) for integer string conversion: value has " ++ toString count
      ++ " digits; use sys.set_int_max_str_digits() to increase the limit"

/-- The place in a text where so many characters are left. -/
def SyntaxError.locate (p : Problem) (left : Nat) (text : List Char) : SyntaxError :=
  let passed := text.take (text.length - left)
  let sinceNewline := (passed.reverse.takeWhile (· != '\n')).length
  ⟨p, passed.count '\n' + 1, sinceNewline + 1, passed.length⟩

/-- What a stop means for the text it happened in. -/
def Stop.explain (stop : Stop) (text : List Char) : ReadError :=
  match stop with
  | .problem p left => .malformed (.locate p left text)
  | .tooDeep => .tooDeep
  | .tooManyDigits count => .tooManyDigits count

/-- How deep lists and objects can be nested for a reader. Every reader copes with a list in an
object in an object. -/
structure Nesting where
  levels : Nat
  three_le : 3 ≤ levels
deriving Repr, DecidableEq

/-- Drops the blanks between tokens. -/
def skipBlanks (s : List Char) : List Char :=
  s.dropWhile fun c => c == ' ' || c == '\t' || c == '\n' || c == '\r'

/-- The character of a unit of sixteen bits; half of a pair has none. -/
def charOfUnit (unit : Nat) : Char :=
  if 0xd800 ≤ unit ∧ unit < 0xe000 then '\ufffd' else Char.ofNat unit

/-- The unit of sixteen bits that four hexadecimal digits denote. -/
def unit? (s : List Char) : Option Nat :=
  s.foldlM (fun n c => (hexDigit? c).map (16 * n + ·)) 0

/-- The character that a letter behind a backslash stands for. -/
def escapedChar? : Char → Option Char
  | '"' => some '"'
  | '\\' => some '\\'
  | '/' => some '/'
  | 'b' => some '\x08'
  | 'f' => some '\x0c'
  | 'n' => some '\n'
  | 'r' => some '\r'
  | 't' => some '\t'
  | _ => none

/-- Reads the four digits behind `\u`, and a second such escape if the two make a pair. `s` starts
at the letter. -/
def readUnit (s : List Char) : Except Stop (Char × List Char) := do
  let digits := s.drop 1
  if digits.length ≤ 4 then throw (.problem .badUnitEscape s.length)
  let some high := unit? (digits.take 4) | throw (.problem .badUnitEscape s.length)
  let rest := digits.drop 4
  if 0xd800 ≤ high ∧ high < 0xdc00 ∧ rest.length > 6 then
    match rest with
    | '\\' :: 'u' :: more =>
      let some low := unit? (more.take 4) | throw (.problem .badUnitEscape (rest.length - 1))
      if 0xdc00 ≤ low ∧ low < 0xe000 then
        return (Char.ofNat (0x10000 + (high - 0xd800) * 0x400 + (low - 0xdc00)), more.drop 4)
      else return (charOfUnit high, rest)
    | _ => return (charOfUnit high, rest)
  else return (charOfUnit high, rest)

/-- Reads a text up to its closing quote. `start` is what was left at the opening quote. -/
def readText (start : Nat) : (steps : Nat) → (read : List Char) → List Char →
    Except Stop (String × List Char)
  | 0, _, _ => .error (.problem .unterminatedText start)
  | _, _, [] => .error (.problem .unterminatedText start)
  | _, read, '"' :: rest => .ok (String.ofList read.reverse, rest)
  | steps + 1, read, '\\' :: rest =>
    match rest with
    | [] => .error (.problem .unterminatedText start)
    | 'u' :: _ => do
      let (c, rest) ← readUnit rest
      readText start steps (c :: read) rest
    | letter :: rest' =>
      match escapedChar? letter with
      | some c => readText start steps (c :: read) rest'
      | none => .error (.problem .badEscape (rest.length + 1))
  | steps + 1, read, c :: rest =>
    if c.toNat < 0x20 then .error (.problem .controlCharacter (rest.length + 1))
    else readText start steps (c :: read) rest

/-- The digits at the front of a text, and what follows them. -/
def spanDigits (s : List Char) : List Char × List Char := s.span fun c => '0' ≤ c ∧ c ≤ '9'

/-- Reads the exponent of a number, if there is a complete one. -/
def readExponent (s : List Char) : Option Int × List Char :=
  match s with
  | e :: rest =>
    if e == 'e' || e == 'E' then
      let (negative, rest) :=
        match rest with
        | '-' :: rest => (true, rest)
        | '+' :: rest => (false, rest)
        | _ => (false, rest)
      match spanDigits rest with
      | ([], _) => (none, s)
      | (digits, rest) =>
        let n : Int := (decimalValue? digits).getD 0
        (some (if negative then -n else n), rest)
    else (none, s)
  | [] => (none, s)

/-- Reads a number, if the text starts with one. -/
def readNumber? (s : List Char) : Option (Json × List Char) :=
  let (negative, rest) :=
    match s with
    | '-' :: rest => (true, rest)
    | _ => (false, s)
  let (digits, rest) :=
    match rest with
    | '0' :: rest => (['0'], rest)
    | _ => spanDigits rest
  if digits.isEmpty then none
  else
    let (fraction, rest) :=
      match rest with
      | '.' :: after =>
        match spanDigits after with
        | ([], _) => ([], rest)
        | (places, after) => (places, after)
      | _ => ([], rest)
    let (exponent, rest) := readExponent rest
    let mantissa := (decimalValue? (digits ++ fraction)).getD 0
    if fraction.isEmpty && exponent.isNone then
      some (.whole (if negative then -(mantissa : Int) else mantissa), rest)
    else
      let x := Decimal.nearestFloat mantissa (exponent.getD 0 - fraction.length)
      some (.real (if negative then -x else x), rest)

/-- The values that are written as a name. -/
def namedValues : List (List Char × Json) :=
  [("null".toList, .null), ("true".toList, .bool true), ("false".toList, .bool false),
    ("NaN".toList, .real (0.0 / 0.0)), ("Infinity".toList, .real (1.0 / 0.0)),
    ("-Infinity".toList, .real (-1.0 / 0.0))]

/-- Reads a name or a number. -/
def readSimple (s : List Char) : Except Stop (Json × List Char) :=
  match namedValues.find? fun (name, _) => name.isPrefixOf s with
  | some (name, value) => .ok (value, s.drop name.length)
  | none =>
    match readNumber? s with
    | some (.whole n, rest) =>
      let count := (spanDigits (if s.head? == some '-' then s.drop 1 else s)).1.length
      if Decimal.maxDigits < count then .error (.tooManyDigits count) else .ok (.whole n, rest)
    | some (value, rest) => .ok (value, rest)
    | none => .error (.problem .expectingValue s.length)

mutual

/-- Reads one value, in which lists and objects may go as deep as given. -/
def readValue : (steps depth : Nat) → List Char → Except Stop (Json × List Char)
  | 0, _, s => .error (.problem .expectingValue s.length)
  | steps + 1, depth, s =>
    match s with
    | '"' :: rest => do
      let (content, rest) ← readText s.length (rest.length + 1) [] rest
      return (.text content, rest)
    | '[' :: rest =>
      if depth = 0 then .error .tooDeep
      else
        let rest := skipBlanks rest
        match rest with
        | ']' :: rest => .ok (.list [], rest)
        | _ => readItems steps (depth - 1) [] rest
    | '\x7b' :: rest =>
      if depth = 0 then .error .tooDeep
      else
        let rest := skipBlanks rest
        match rest with
        | '\x7d' :: rest => .ok (.object [], rest)
        | _ => readMembers steps (depth - 1) [] rest
    | _ => readSimple s

/-- Reads the items of a list from the start of one, with those already read in front. -/
def readItems : (steps depth : Nat) → (items : List Json) → List Char →
    Except Stop (Json × List Char)
  | 0, _, _, s => .error (.problem .expectingValue s.length)
  | steps + 1, depth, items, s => do
    let (item, rest) ← readValue steps depth s
    let rest := skipBlanks rest
    match rest with
    | ']' :: rest => return (.list (items ++ [item]), rest)
    | ',' :: rest => readItems steps depth (items ++ [item]) (skipBlanks rest)
    | _ => throw (.problem .expectingComma rest.length)

/-- Reads the members of an object from the start of one, with those already read in front. -/
def readMembers : (steps depth : Nat) → (members : List (String × Json)) → List Char →
    Except Stop (Json × List Char)
  | 0, _, _, s => .error (.problem .expectingName s.length)
  | steps + 1, depth, members, s =>
    match s with
    | '"' :: rest => do
      let (name, rest) ← readText s.length (rest.length + 1) [] rest
      let rest := skipBlanks rest
      match rest with
      | ':' :: rest =>
        let (value, rest) ← readValue steps depth (skipBlanks rest)
        let rest := skipBlanks rest
        let members := setMember members name value
        match rest with
        | '\x7d' :: rest => return (.object members, rest)
        | ',' :: rest => readMembers steps depth members (skipBlanks rest)
        | _ => throw (.problem .expectingComma rest.length)
      | _ => throw (.problem .expectingColon rest.length)
    | _ => .error (.problem .expectingName s.length)

end

/-- Reads a text that is one value with blanks around it. -/
def readAll (nesting : Nesting) (s : List Char) : Except Stop Json := do
  if s.head? == some '\ufeff' then throw (.problem .byteOrderMark s.length)
  let (value, rest) ← readValue (2 * s.length + 2) nesting.levels (skipBlanks s)
  let rest := skipBlanks rest
  if rest.isEmpty then return value else throw (.problem .extraData rest.length)

/-- Reads a JSON document. -/
def read (nesting : Nesting) (text : String) : Except ReadError Json :=
  let s := text.toList
  (readAll nesting s).mapError (·.explain s)

end PrefixDelegation.Json
