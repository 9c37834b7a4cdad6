import PrefixDelegation.Wire.Layout

/-!
# Chains and lists of options

Octets hold options in two ways. A *chain* is one option behind another: it goes on until no
option can be read from the octets that are left, which then are *raw*, or until an option whose
code ends the chain, behind which all that is left is *padding*.

The options that an option holds form a *list*. Reading a list follows the chain of its first
option, and only that option becomes an element; if the chain ends in padding, the padding is read
as the rest of the list, and otherwise the list is complete. Octets that start with a code that no
list can go on with, or from which no option can be read, become one raw element.

An option whose list has more than a hundred elements cannot be read. Reading a chain therefore
needs the lists inside it, and reading a list the chains inside it; both are one recursion on the
number of octets, `elements`.
-/

namespace PrefixDelegation.Wire

/-- The most elements that a list of options may have. -/
def elementLimit : Nat := 100

/-- An element of a list of options. -/
inductive Element where
  | raw (octets : Octets)
  | option (octets : Octets)
deriving Repr, DecidableEq

/-- The elements of a list of options. With `listed` false the octets are read on behind an
element: they are part of its chain until the chain ends in padding, and yield no element before
that. -/
def elements (listed : Bool) (bs : Octets) : List Element :=
  match _h : extent? bs with
  | none => if listed && !bs.isEmpty then [.raw bs] else []
  | some n =>
    if listed && !isListable (codeOf bs) then [.raw bs]
    else if (elements true (heldBy bs n)).length > elementLimit then
      if listed then [.raw bs] else []
    else
      let rest := elements (endsChain (codeOf bs)) (bs.drop n)
      if listed then .option (bs.take n) :: rest else rest
termination_by bs.length
decreasing_by
  · exact heldBy_length_lt (by assumption)
  · exact drop_extent_length_lt (by assumption)

/-- Whether the option at the front holds too many options to be read. -/
def isCrowded (bs : Octets) (extent : Nat) : Bool :=
  (elements true (heldBy bs extent)).length > elementLimit

/-- The octets that follow the last option of a chain. -/
inductive Tail where
  | nothing
  | raw (octets : Octets)
  | padding (octets : Octets)
deriving Repr, DecidableEq

/-- The tail made of what is left behind an option that ends its chain. -/
def Tail.ofPadding (bs : Octets) : Tail := if bs.isEmpty then .nothing else .padding bs

/-- The tail made of octets from which no option can be read. -/
def Tail.ofRaw (bs : Octets) : Tail := if bs.isEmpty then .nothing else .raw bs

/-- The octets of a tail. -/
def Tail.octets : Tail → Octets
  | .nothing => []
  | .raw bs | .padding bs => bs

/-- Options one behind another and what follows them. -/
structure Chain where
  options : List Octets
  tail : Tail
deriving Repr, DecidableEq

/-- Reads the chain of options in some octets. -/
def Chain.read (bs : Octets) : Chain :=
  match _h : extent? bs with
  | none => ⟨[], .ofRaw bs⟩
  | some n =>
    if isCrowded bs n then ⟨[], .ofRaw bs⟩
    else if endsChain (codeOf bs) then ⟨[bs.take n], .ofPadding (bs.drop n)⟩
    else
      let rest := Chain.read (bs.drop n)
      ⟨bs.take n :: rest.options, rest.tail⟩
termination_by bs.length
decreasing_by exact drop_extent_length_lt (by assumption)

end PrefixDelegation.Wire
