/-!
# Pieces between separators

A text that holds a list of things writes a separator between neighbours. `splitAt` takes such a
text apart and `join` puts it together. There is always at least one piece, since a text without
a separator is a piece itself.
-/

namespace PrefixDelegation.Text

/-- Splits a text at every occurrence of a character. -/
def splitAt (separator : Char) : List Char → List (List Char)
  | [] => [[]]
  | c :: rest =>
    if c == separator then [] :: splitAt separator rest
    else match splitAt separator rest with
      | [] => [[c]]
      | piece :: pieces => (c :: piece) :: pieces

/-- The pieces of a text with a separator between neighbours. -/
def join (separator : List Char) : List (List Char) → List Char
  | [] => []
  | [piece] => piece
  | piece :: pieces => piece ++ separator ++ join separator pieces

end PrefixDelegation.Text
