import PrefixDelegation.Console.Markup
import PrefixDelegation.Console.Wrap
import PrefixDelegation.Text.Numeral

/-!
# Tables of two columns

A table has a title and rows of a label and a value, in a frame. Labels are short and decide how
wide their column is. Values are texts with markup; their column is as wide as their longest line,
as long as the table fits into the console. A value that is wider is broken between words, and a
word that is too long is cut off.
-/

namespace PrefixDelegation.Console

/-- A label and a value. -/
structure Row where
  label : String
  value : String

/-- A titled table. -/
structure Table where
  title : String
  rows : List Row

namespace Table

/-- A row as it is shown: the label, and the value without its markup. -/
abbrev ShownRow := List Char × List Char

/-- How wide a text is: as wide as its longest line. -/
def widthOf (s : List Char) : Nat := ((Text.lines s).map cellCount).foldl max 0

/-- How wide the widest of some texts is. -/
def widest (texts : List (List Char)) : Nat := (texts.map widthOf).foldl max 0

/-- The columns that the frame and the blanks around the cells take. -/
def frameWidth : Nat := 7

/-- A line of the frame, with its three corners. -/
def ruler (left middle right : Char) (labels values : Nat) : List Char :=
  left :: List.replicate (labels + 2) '─' ++ middle :: List.replicate (values + 2) '─' ++ [right]

/-- A text in the middle of a width; an odd blank is on the right. -/
def centred (width : Nat) (s : List Char) : List Char :=
  Text.padRight width ' ' (List.replicate ((width - s.length) / 2) ' ' ++ s)

/-- The lines of a row. The label stands on the first. -/
def rowLines (labels values : Nat) (row : ShownRow) : List (List Char) :=
  (wrap .ellipsis values row.2).zipIdx.map fun (line, i) =>
    '│' :: ' ' :: resize labels (if i = 0 then row.1 else []) ++ " │ ".toList
      ++ resize values line ++ " │".toList

/-- The text of a table in a console of a width. -/
def render (t : Table) (console : Nat) : Except MarkupError String := do
  let rows : List ShownRow ← t.rows.mapM fun r =>
    return (r.label.toList, ← Markup.plain r.value.toList)
  let labels := widest (rows.map (·.1))
  let values := min (widest (rows.map (·.2))) (console - frameWidth - labels)
  let all := centred (labels + values + frameWidth) t.title.toList
    :: ruler '┌' '┬' '┐' labels values
    :: rows.flatMap (rowLines labels values) ++ [ruler '└' '┴' '┘' labels values]
  return String.ofList (all.flatMap (· ++ ['\n']))

end Table

end PrefixDelegation.Console
