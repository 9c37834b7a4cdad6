import PrefixDelegation.Fault

/-!
# Transaction identifiers in sequence

A sequencer hands out the transaction identifiers it was given, each once and in order, so that
negotiations can be repeated exactly. When they are used up, identifiers come from a source of
random ones. It remembers which of the two the last identifier came from.
-/

namespace PrefixDelegation

/-- Where a transaction identifier came from. -/
inductive IdSource where
  | deterministic
  | random
deriving Repr, DecidableEq

/-- Random transaction identifiers still to be drawn; after them every draw gives zero. -/
abbrev RandomIds := List TransactionId

/-- Draws a random transaction identifier. -/
def RandomIds.draw : RandomIds → TransactionId × RandomIds
  | [] => (default, [])
  | id :: rest => (id, rest)

/-- Transaction identifiers still to be handed out. -/
structure Sequencer where
  queue : List TransactionId
  lastSource : Option IdSource
deriving Repr, DecidableEq

namespace Sequencer

/-- The transaction identifiers with given numbers, or the first number that is out of range. -/
def idsOf : List Int → Except Misuse (List TransactionId)
  | [] => .ok []
  | n :: rest =>
    match TransactionId.ofInt? n with
    | none => .error (.idOutOfRange n)
    | some id => (idsOf rest).map (id :: ·)

/-- A sequencer that hands out the identifiers with given numbers. -/
def ofNumbers (numbers : List Int) : Except Misuse Sequencer :=
  (idsOf numbers).map (⟨·, none⟩)

/-- How many identifiers are left. -/
def remaining (s : Sequencer) : Nat := s.queue.length

/-- Whether all identifiers were handed out. -/
def isExhausted (s : Sequencer) : Bool := s.queue.isEmpty

/-- Hands out the next identifier; fails, and changes nothing, when none is left. -/
def take (s : Sequencer) : Except NegotiationError TransactionId × Sequencer :=
  match s.queue with
  | [] => (.error .idsExhausted, s)
  | id :: rest => (.ok id, ⟨rest, some .deterministic⟩)

/-- Remembers that an identifier came from elsewhere. -/
def markRandom (s : Sequencer) : Sequencer := { s with lastSource := some .random }

/-- Hands out the next identifier, or a random one when none is left. -/
def next (s : Sequencer) (random : RandomIds) : TransactionId × Sequencer × RandomIds :=
  match s.take with
  | (.ok id, s) => (id, s, random)
  | (.error _, s) =>
    let (id, random) := random.draw
    (id, s.markRandom, random)

end Sequencer

end PrefixDelegation
