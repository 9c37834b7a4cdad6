import PrefixDelegation.Console.CharWidth

/-!
# Text in cells

How many cells a text takes is more than a matter of its characters. What follows a joiner is drawn
together with what stands before it, and takes no cell of its own; a selector that asks for the
picture of a symbol can make the symbol wider. `cellCount` measures a text.

A text can only be divided between *clusters*: a cluster is a character together with all that is
drawn with it. Where a text would be divided in the middle of a cluster, a blank stands for either
part of it.
-/

namespace PrefixDelegation.Console

/-- The character that joins what stands before and behind it into one picture. -/
def joiner : Char := '\u200d'

/-- The character that asks for the picture of the symbol before. -/
def pictureSelector : Char := '\ufe0f'

/-! ### Measuring -/

/-- The cells of a text that follows a character which a selector can still widen. -/
def cellsAfter : (last : Option Char) → List Char → Nat
  | _, [] => 0
  | last, c :: rest =>
    if c = joiner then
      match rest with
      | [] => 0
      | _ :: rest => cellsAfter last rest
    else if c = pictureSelector then
      match last with
      | some symbol => (if hasPicture symbol then 1 else 0) + cellsAfter none rest
      | none => cellsAfter none rest
    else if charWidth c = 0 then cellsAfter last rest
    else charWidth c + cellsAfter (some c) rest

/-- How many cells a text takes. -/
def cellCount (s : List Char) : Nat := cellsAfter none s

/-! ### Clusters -/

/-- Characters that are drawn together, and the cells that they take. -/
structure Cluster where
  text : List Char
  cells : Nat
deriving Repr, DecidableEq

namespace Cluster

/-- Adds characters that are drawn together with those of a cluster. -/
def join (k : Cluster) (s : List Char) (cells : Nat) : Cluster := ⟨k.text ++ s, k.cells + cells⟩

/-- The text of clusters. -/
def textOf (clusters : List Cluster) : List Char := clusters.flatMap (·.text)

/-- The cells of clusters. -/
def cellsOf (clusters : List Cluster) : Nat := clusters.foldl (· + ·.cells) 0

end Cluster

/-- The clusters of a text, with the cluster being read in front and the character that a selector
can still widen. -/
def clustersFrom : (current : Cluster) → (last : Option Char) → List Char → List Cluster
  | current, _, [] => [current]
  | current, last, c :: rest =>
    if c = joiner then
      match rest with
      | [] => [current.join [c] 0]
      | joined :: rest => clustersFrom (current.join [c, joined] 0) last rest
    else if c = pictureSelector then
      if last.any hasPicture then clustersFrom (current.join [c] 1) none rest
      else clustersFrom (current.join [c] 0) last rest
    else if charWidth c = 0 then clustersFrom (current.join [c] 0) last rest
    else current :: clustersFrom ⟨[c], charWidth c⟩ (some c) rest

/-- The clusters of a text. -/
def clusters : List Char → List Cluster
  | [] => []
  | c :: rest =>
    if c = joiner ∨ c = pictureSelector ∨ charWidth c = 0 then clustersFrom ⟨[c], 0⟩ none rest
    else clustersFrom ⟨[c], charWidth c⟩ (some c) rest

/-! ### Dividing -/

/-- The front of clusters that takes a number of cells. A cluster that is divided leaves a blank. -/
def frontOf : (cells : Nat) → List Cluster → List Char
  | _, [] => []
  | cells, k :: rest =>
    if cells = 0 then []
    else if k.cells ≤ cells then k.text ++ frontOf (cells - k.cells) rest
    else [' ']

/-- A text that takes exactly a number of cells: filled up with blanks, or its front. -/
def resize (cells : Nat) (s : List Char) : List Char :=
  let count := cellCount s
  if count ≤ cells then s ++ List.replicate (cells - count) ' ' else frontOf cells (clusters s)

/-- Divides clusters into lines of at most a number of cells, with the line being filled in
front. -/
def foldFrom (cells : Nat) : (line : List Cluster) → List Cluster → List (List Char)
  | line, [] => if Cluster.cellsOf line = 0 then [] else [Cluster.textOf line]
  | line, k :: rest =>
    if cells < Cluster.cellsOf line + k.cells then
      Cluster.textOf line :: foldFrom cells [k] rest
    else foldFrom cells (line ++ [k]) rest

/-- Divides a text into lines of at most a number of cells. -/
def foldInto (cells : Nat) (s : List Char) : List (List Char) := foldFrom cells [] (clusters s)

end PrefixDelegation.Console
