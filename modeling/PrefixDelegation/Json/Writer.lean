import PrefixDelegation.Json.Value

/-!
# Writing JSON

Two layouts are used. `compact` stands on one line, with a blank behind every comma and colon.
`indented` gives every item and member a line of its own, two blanks deeper than what holds it;
an empty list or object stays on one line.

Text is written in printable ASCII: the quote, the backslash and the common controls by a letter,
every other character by its number in units of sixteen bits.
-/

namespace PrefixDelegation.Json

open Text

/-- One unit of sixteen bits as an escape. -/
def unitEscape (unit : Nat) : List Char := '\\' :: 'u' :: fixed 16 4 unit

/-- A character as it stands in a text. -/
def writeChar (c : Char) : List Char :=
  if c == '"' then ['\\', '"']
  else if c == '\\' then ['\\', '\\']
  else if c == '\n' then ['\\', 'n']
  else if c == '\r' then ['\\', 'r']
  else if c == '\t' then ['\\', 't']
  else if c.toNat == 12 then ['\\', 'f']
  else if c.toNat == 8 then ['\\', 'b']
  else if ' ' ≤ c ∧ c ≤ '~' then [c]
  else if c.toNat < 0x10000 then unitEscape c.toNat
  else
    let above := c.toNat - 0x10000
    unitEscape (0xd800 + above / 0x400) ++ unitEscape (0xdc00 + above % 0x400)

/-- A text between quotes. -/
def writeText (s : String) : String :=
  String.ofList ('"' :: s.toList.flatMap writeChar ++ ['"'])

/-- A number that is not whole, or not finite. -/
def writeReal (x : Float) : String :=
  match Decimal.Reading.ofFloat x with
  | .finite _ => Decimal.write x
  | .infinite negative => if negative then "-Infinity" else "Infinity"
  | .undefined => "NaN"

mutual

/-- A value on one line. -/
def compact : Json → String
  | .null => "null"
  | .bool b => if b then "true" else "false"
  | .whole n => String.ofList (decimalInt n)
  | .real x => writeReal x
  | .text s => writeText s
  | .list items => "[" ++ String.intercalate ", " (compactItems items) ++ "]"
  | .object members => "\x7b" ++ String.intercalate ", " (compactMembers members) ++ "\x7d"

/-- The items of a list, each on one line. -/
def compactItems : List Json → List String
  | [] => []
  | item :: items => compact item :: compactItems items

/-- The members of an object, each on one line. -/
def compactMembers : List (String × Json) → List String
  | [] => []
  | (name, value) :: members => (writeText name ++ ": " ++ compact value) :: compactMembers members

end

/-- Lines one level deeper than a bracketed value at a depth, with the brackets around them. -/
def bracketed (depth : Nat) (opening closing : String) (lines : List String) : String :=
  if lines.isEmpty then opening ++ closing
  else
    let indent (n : Nat) := "\n" ++ String.ofList (List.replicate (2 * n) ' ')
    opening ++ indent (depth + 1) ++ String.intercalate ("," ++ indent (depth + 1)) lines
      ++ indent depth ++ closing

mutual

/-- A value that starts at a depth, its parts on lines of their own. -/
def indentedAt (depth : Nat) : Json → String
  | .list items => bracketed depth "[" "]" (indentedItems (depth + 1) items)
  | .object members => bracketed depth "\x7b" "\x7d" (indentedMembers (depth + 1) members)
  | .null => compact .null
  | .bool b => compact (.bool b)
  | .whole n => compact (.whole n)
  | .real x => compact (.real x)
  | .text s => compact (.text s)

/-- The items of a list at a depth. -/
def indentedItems (depth : Nat) : List Json → List String
  | [] => []
  | item :: items => indentedAt depth item :: indentedItems depth items

/-- The members of an object at a depth. -/
def indentedMembers (depth : Nat) : List (String × Json) → List String
  | [] => []
  | (name, value) :: members =>
    (writeText name ++ ": " ++ indentedAt depth value) :: indentedMembers depth members

end

/-- A value with its parts on lines of their own. -/
def indented (value : Json) : String := indentedAt 0 value

end PrefixDelegation.Json
