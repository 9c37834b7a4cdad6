import PrefixDelegation.Text.Pieces

/-!
# Paths

A path is a list of names with slashes between them. Slashes that follow one another count as one,
a slash at the end means nothing, and so does the name `.`; the name `..` is kept. What remains is
the *tidy* path, and its text is the one shown in messages. Only a path that starts with exactly
two slashes keeps both.
-/

namespace PrefixDelegation

open Text

/-- A tidy path: how many slashes it starts with, and its names. -/
structure Path where
  slashes : Nat
  names : List String
deriving Repr, DecidableEq

namespace Path

/-- How many slashes at the start of a path are kept. -/
def keptSlashes (s : List Char) : Nat :=
  let leading := (s.takeWhile (· == '/')).length
  if leading = 2 then 2 else min leading 1

/-- Reads a path. -/
def read (s : String) : Path where
  slashes := keptSlashes s.toList
  names := ((splitAt '/' s.toList).map String.ofList).filter fun name => name ≠ "" ∧ name ≠ "."

/-- The text of a path; the path without names is `.`. -/
def write (p : Path) : String :=
  if p.slashes = 0 ∧ p.names = [] then "."
  else String.ofList (List.replicate p.slashes '/' ++ join ['/'] (p.names.map String.toList))

/-- The last name of a path. -/
def name? (p : Path) : Option String := p.names.getLast?

/-- The path with something added to its last name. -/
def withSuffix (p : Path) (suffix : String) : Path :=
  { p with names := p.names.dropLast ++ [(p.name?.getD "") ++ suffix] }

/-- The path with more names at its end. -/
def below (p : Path) (names : List String) : Path := { p with names := p.names ++ names }

end Path

end PrefixDelegation
