import PrefixDelegation.Console.Cells
import PrefixDelegation.Text.Blank
import PrefixDelegation.Text.Pieces

/-!
# Text in a limited width

A console has a number of columns, and a line that is longer is broken between words. A word goes
onto the line as long as it fits without the blanks that follow it; these stay on the line, and
what of them is beyond the width is dropped. A word that is too long for any line starts on a line
of its own: it is either folded into pieces as wide as the console, or left as it is.

All widths are counted in cells. A tab leads to the next column that is a multiple of eight. What is
still too wide in the end is cut off, with an ellipsis where words are not folded.
-/

namespace PrefixDelegation.Console

open Text (isBlank trimRight)

/-! ### Tabs -/

/-- How far tabs are apart. -/
def tabWidth : Nat := 8

/-- Joins pieces that were separated by tabs, from a column on. A tab is at least one blank. -/
def expandPieces : (column : Nat) → List (List Char) → List Char
  | _, [] => []
  | _, [piece] => piece
  | column, piece :: rest =>
    let before := piece ++ [' ']
    let column := column + cellCount before
    let more := (tabWidth - column % tabWidth) % tabWidth
    before ++ List.replicate more ' ' ++ expandPieces (column + more) rest

/-- Replaces the tabs of a line by blanks. -/
def expandTabs (line : List Char) : List Char := expandPieces 0 (Text.splitAt '\t' line)

/-! ### Words -/

/-- The words of a text together with the blanks around them: the blanks before the first word
belong to it, all others to the word before. -/
def paddedWords : (limit : Nat) → List Char → List (List Char)
  | 0, _ => []
  | limit + 1, s =>
    let before := s.takeWhile isBlank
    let rest := s.dropWhile isBlank
    let word := rest.takeWhile fun c => !isBlank c
    let after := rest.dropWhile fun c => !isBlank c
    if word.isEmpty then []
    else (before ++ word ++ after.takeWhile isBlank)
      :: paddedWords limit (after.dropWhile isBlank)

/-- What becomes of a word that is too long for a line, and of a line that is too long. -/
inductive Overflow where
  | fold
  | ellipsis
deriving Repr, DecidableEq

/-- Lines that are finished, and the one that words are added to, with the cells that its words
take. -/
structure Wrapping where
  finished : List (List Char)
  line : List Char
  cells : Nat

namespace Wrapping

/-- Starts a new line, unless nothing is on this one. -/
def newLine (w : Wrapping) : Wrapping :=
  if w.line.isEmpty then w else ⟨w.finished ++ [w.line], [], 0⟩

/-- Adds something to the line. -/
def put (w : Wrapping) (s : List Char) : Wrapping :=
  { w with line := w.line ++ s, cells := w.cells + cellCount s }

/-- Adds a word with the blanks around it. -/
def add (overflow : Overflow) (width : Nat) (w : Wrapping) (word : List Char) : Wrapping :=
  let needed := cellCount (trimRight word)
  if w.cells + needed ≤ width then w.put word
  else if needed ≤ width ∨ overflow = .ellipsis then w.newLine.put word
  else (foldInto width word).foldl (fun w piece => w.newLine.put piece) w

end Wrapping

/-! ### Lines -/

/-- Drops the blanks at the end of a line that are beyond a number of characters. -/
def trimBeyond (length : Nat) (line : List Char) : List Char :=
  line.take (max length (trimRight line).length)

/-- Cuts a line that is too wide. -/
def truncate (overflow : Overflow) (width : Nat) (line : List Char) : List Char :=
  if cellCount line ≤ width then line
  else match overflow with
    | .fold => resize width line
    | .ellipsis => resize (width - 1) line ++ ['…']

/-- Breaks a text without line ends into lines. -/
def wrapLine (overflow : Overflow) (width : Nat) (s : List Char) : List (List Char) :=
  let s := expandTabs s
  let w := (paddedWords s.length s).foldl (Wrapping.add overflow width) ⟨[], [], 0⟩
  let line := if w.finished.isEmpty && w.line.isEmpty then s else w.line
  (w.finished ++ [line]).map fun line => truncate overflow width (trimBeyond width line)

/-- The lines of a text that is shown in a width. -/
def wrap (overflow : Overflow) (width : Nat) (s : List Char) : List (List Char) :=
  (Text.splitAt '\n' s).flatMap (wrapLine overflow width)

end PrefixDelegation.Console
