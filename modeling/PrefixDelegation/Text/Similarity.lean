/-!
# How alike two words are

The likeness of two words is counted in the characters that they have in common: those of the
longest piece that stands in both, and then, in the same way, those of what stands before that
piece in both words and of what stands behind it. Two words are alike when these characters, counted
in both words, are at least three fifths of all their characters.

`Text.similar` picks the words that somebody may have meant.
-/

namespace PrefixDelegation.Text

/-- How many characters two words start with in common. -/
def commonLength : List Char → List Char → Nat
  | a :: as, b :: bs => if a = b then commonLength as bs + 1 else 0
  | _, _ => 0

/-- A piece that stands in two words: where it starts in the first and in the second, and how long
it is. -/
structure CommonPiece where
  first : Nat
  second : Nat
  length : Nat
deriving Repr, DecidableEq

/-- The longer of two pieces, and the former if they are as long as each other. -/
def CommonPiece.longer (p q : CommonPiece) : CommonPiece := if p.length < q.length then q else p

/-- The longest piece that stands in two words. Of several it is the one that starts earliest in the
first word, and then in the second. -/
def longestPiece (a b : List Char) : CommonPiece :=
  (List.range a.length).foldl (fun best i =>
    (List.range b.length).foldl (fun best j =>
      best.longer ⟨i, j, commonLength (a.drop i) (b.drop j)⟩) best) ⟨0, 0, 0⟩

/-- How many characters two words have in common. There are at most as many pieces as the limit
says, which the length of the first word is enough for. -/
def commonCount : (limit : Nat) → List Char → List Char → Nat
  | 0, _, _ => 0
  | limit + 1, a, b =>
    let p := longestPiece a b
    if p.length = 0 then 0
    else p.length + commonCount limit (a.take p.first) (b.take p.second)
      + commonCount limit (a.drop (p.first + p.length)) (b.drop (p.second + p.length))

/-- How alike a word is to another: a share of the characters of both. -/
structure Likeness where
  word : String
  common : Nat
  total : Nat
deriving Repr, DecidableEq

namespace Likeness

/-- How alike a word is to another. -/
def of (word other : String) : Likeness where
  word
  common := 2 * commonCount word.length word.toList other.toList
  total := word.length + other.length

/-- Whether the share is three fifths or more. -/
def isClose (l : Likeness) : Bool := 3 * l.total ≤ 5 * l.common

/-- Whether a word is to be preferred: its share is the greater, or as great and it stands later in
the order of words. -/
def precedes (l m : Likeness) : Bool :=
  m.common * l.total < l.common * m.total ||
    (l.common * m.total = m.common * l.total && decide (¬ l.word < m.word))

end Likeness

/-- The words that are most like another, at most three, in the order of words. -/
def similar (words : List String) (other : String) : List String :=
  let close := (words.map (Likeness.of · other)).filter Likeness.isClose
  (((close.mergeSort Likeness.precedes).take 3).map (·.word)).mergeSort fun a b => decide (¬ b < a)

end PrefixDelegation.Text
