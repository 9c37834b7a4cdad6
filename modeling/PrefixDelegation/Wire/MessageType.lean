/-!
# Message types and transaction identifiers

A message of the protocol starts with one octet that says what it is and three that say which
exchange it belongs to. Number zero is no message, and the two relay types have no transaction
identifier, so neither is ever exchanged between a client and a server; all sixteen numbers are
kept as types all the same, because a type can be expected, named and set.

`expectedReply` says how a server answers: two of the types that a client sends have one answering
type, and any other type stands for "no particular answer".
-/

namespace PrefixDelegation

/-- The types of messages. -/
inductive MessageType where
  | none
  | solicit
  | advertise
  | request
  | confirm
  | renew
  | rebind
  | reply
  | release
  | decline
  | reconfigure
  | informationRequest
  | relayForward
  | relayReply
  | leasequery
  | leasequeryReply
deriving Repr, DecidableEq, Inhabited

namespace MessageType

/-- All types, in the order of their numbers. -/
def all : List MessageType :=
  [.none, .solicit, .advertise, .request, .confirm, .renew, .rebind, .reply, .release, .decline,
    .reconfigure, .informationRequest, .relayForward, .relayReply, .leasequery, .leasequeryReply]

/-- The number of a type. -/
def toNat : MessageType → Nat
  | .none => 0
  | .solicit => 1
  | .advertise => 2
  | .request => 3
  | .confirm => 4
  | .renew => 5
  | .rebind => 6
  | .reply => 7
  | .release => 8
  | .decline => 9
  | .reconfigure => 10
  | .informationRequest => 11
  | .relayForward => 12
  | .relayReply => 13
  | .leasequery => 14
  | .leasequeryReply => 15

/-- The type with a number. -/
def ofNat? (n : Nat) : Option MessageType := all[n]?

/-- The name of a type in messages and logs. -/
def name : MessageType → String
  | .none => "NONE"
  | .solicit => "SOLICIT"
  | .advertise => "ADVERTISE"
  | .request => "REQUEST"
  | .confirm => "CONFIRM"
  | .renew => "RENEW"
  | .rebind => "REBIND"
  | .reply => "REPLY"
  | .release => "RELEASE"
  | .decline => "DECLINE"
  | .reconfigure => "RECONFIGURE"
  | .informationRequest => "INFORMATION_REQUEST"
  | .relayForward => "RELAY_FORWARD"
  | .relayReply => "RELAY_REPLY"
  | .leasequery => "LEASEQUERY"
  | .leasequeryReply => "LEASEQUERY_REPLY"

/-- Whether messages of a type are wrapped for a relay and carry no transaction identifier. -/
def isRelay : MessageType → Bool
  | .relayForward | .relayReply => true
  | _ => false

/-- The type a server answers with, or `none` if any answer will do. -/
def expectedReply : MessageType → MessageType
  | .solicit => .advertise
  | .request => .reply
  | .relayForward => .relayReply
  | .leasequery => .leasequeryReply
  | _ => .none

end MessageType

/-- A transaction identifier: a number of 24 bits. -/
structure TransactionId where
  val : Nat
  val_lt : val < 0x1000000
deriving Repr, DecidableEq

namespace TransactionId

instance : Inhabited TransactionId := ⟨⟨0, by decide⟩⟩

/-- The identifier with a number, if the number fits. -/
def ofInt? (n : Int) : Option TransactionId :=
  if h : 0 ≤ n ∧ n.toNat < 0x1000000 then some ⟨n.toNat, h.2⟩ else none

/-- The identifier given by the lowest 24 bits of a number. -/
def ofNat (n : Nat) : TransactionId := ⟨n % 0x1000000, Nat.mod_lt _ (by decide)⟩

/-- Transaction identifiers are their numbers. -/
theorem eq_of_val_eq {x y : TransactionId} (h : x.val = y.val) : x = y := by
  cases x
  cases y
  cases h
  rfl

/-- The identifier with a number is the one whose number it is. -/
theorem ofInt?_eq_some_iff {n : Int} {id : TransactionId} : ofInt? n = some id ↔ n = id.val := by
  constructor
  · intro h
    unfold ofInt? at h
    split at h
    · next hfits =>
      obtain rfl := Option.some.inj h
      exact (Int.toNat_of_nonneg hfits.1).symm
    · cases h
  · rintro rfl
    exact dif_pos ⟨Int.natCast_nonneg id.val, id.val_lt⟩

/-- A number that does not fit has no identifier. -/
theorem ofInt?_eq_none_iff {n : Int} : ofInt? n = none ↔ ¬ (0 ≤ n ∧ n ≤ 0xFFFFFF) := by
  unfold ofInt?
  split
  · next hfits =>
    simp only [reduceCtorEq, false_iff, Classical.not_not]
    omega
  · next hfits =>
    simp only [true_iff]
    omega

end TransactionId

end PrefixDelegation
