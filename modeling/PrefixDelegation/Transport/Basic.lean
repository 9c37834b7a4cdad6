import PrefixDelegation.Fault
import PrefixDelegation.Seconds
import PrefixDelegation.Transport.Address

/-!
# Transports

A transport is an endpoint for datagrams, seen as a value: sending and receiving give an answer
and the transport as it is afterwards. Time passes only while a transport waits, so a transport
also tells the time, on a clock that only moves forward and on the clock on the wall.

What a transport can still deliver is finite: every datagram that is received lowers `pending`.
That is what bounds the wait for a reply.
-/

namespace PrefixDelegation

/-- An endpoint for datagrams. -/
class Transport (τ : Type) where
  /-- The time on a clock that only moves forward. -/
  clock : τ → Float
  /-- The time on the wall. -/
  now : τ → Calendar.Moment
  /-- Sends a datagram, waiting at most the given time. -/
  send : τ → (data : Octets) → (target : SocketAddress) → (timeout : Seconds) →
    Except Fault Unit × τ
  /-- Receives a datagram of at most `maxSize` octets before a deadline of `clock`. -/
  receive : τ → (maxSize : Int) → (deadline : Float) → Except Fault Octets × τ
  /-- Gives the endpoint up. -/
  close : τ → τ
  /-- How many datagrams can still be received at most. -/
  pending : τ → Nat
  /-- A datagram that was received is no longer pending. -/
  pending_receive_lt : ∀ (t t' : τ) (maxSize : Int) (deadline : Float) (data : Octets),
    receive t maxSize deadline = (.ok data, t') → pending t' < pending t

/-- A datagram cut down to a size. A negative size takes that many octets off its end. -/
def cutTo (maxSize : Int) (data : Octets) : Octets :=
  if 0 ≤ maxSize then data.take maxSize.toNat else data.take (data.length - maxSize.natAbs)

end PrefixDelegation
