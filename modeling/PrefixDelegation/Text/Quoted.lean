import PrefixDelegation.Text.Numeral
import PrefixDelegation.Text.Printable

/-!
# Quoted text

Messages show a text that a user typed between quotes, so that blanks at its ends and characters
that show nothing can be seen. The quote is `'`, unless the text holds `'` and no `"`. Inside, the
quote in use and the backslash are escaped by a backslash, the three common controls by a letter,
and every other unprintable character by its number in hexadecimal, with two, four or eight
digits after `\x`, `\u` or `\U`.
-/

namespace PrefixDelegation.Text

/-- The quote that a text is written in. -/
def quoteFor (s : List Char) : Char :=
  if s.contains '\'' && !s.contains '"' then '"' else '\''

/-- The number of a character that cannot be shown, as an escape of the smallest width. -/
def numberEscape (n : Nat) : List Char :=
  if n < 0x100 then '\\' :: 'x' :: fixed 16 2 n
  else if n < 0x10000 then '\\' :: 'u' :: fixed 16 4 n
  else '\\' :: 'U' :: fixed 16 8 n

/-- One character as it stands between quotes. -/
def quoteChar (quote c : Char) : List Char :=
  if c == quote || c == '\\' then ['\\', c]
  else if c == '\n' then ['\\', 'n']
  else if c == '\r' then ['\\', 'r']
  else if c == '\t' then ['\\', 't']
  else if isPrintable c then [c]
  else numberEscape c.toNat

/-- A text between quotes. -/
def quoted (s : String) : String :=
  let cs := s.toList
  let quote := quoteFor cs
  String.ofList (quote :: cs.flatMap (quoteChar quote) ++ [quote])

/-- A list of texts, each between quotes, in brackets. -/
def quotedList (items : List String) : String :=
  "[" ++ String.intercalate ", " (items.map quoted) ++ "]"

end PrefixDelegation.Text
