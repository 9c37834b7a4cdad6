import PrefixDelegation.Transport.Basic

/-!
# Scripted transports

A transport whose future is written down: the datagrams and failures that receiving will meet, and
the failures that sending will meet. It keeps a list of what was asked of it. Its clocks stand
still, and a script that is used up lets the deadline pass.
-/

namespace PrefixDelegation

/-- What receiving meets next. -/
inductive Delivery where
  | datagram (data : Octets)
  | timeout (text : String)
  | failure (text : String)
deriving Repr, DecidableEq

/-- What was asked of a scripted transport. -/
inductive ScriptEvent where
  | send (data : Octets) (target : SocketAddress) (timeout : Seconds)
  | receive (maxSize : Int) (deadline : Float)
  | close

/-- A transport that plays a script. -/
structure Script where
  clock : Float
  now : Calendar.Moment
  /-- What receiving will meet, in order. -/
  deliveries : List Delivery
  /-- What sending will meet, in order; after that it succeeds. -/
  refusals : List (Option String)
  /-- What was asked so far. -/
  events : List ScriptEvent

namespace Script

/-- Remembers that something was asked. -/
def note (s : Script) (event : ScriptEvent) : Script := { s with events := s.events ++ [event] }

/-- Sends a datagram. -/
def send (s : Script) (data : Octets) (target : SocketAddress) (timeout : Seconds) :
    Except Fault Unit × Script :=
  let s := s.note (.send data target timeout)
  match s.refusals with
  | [] => (.ok (), s)
  | none :: rest => (.ok (), { s with refusals := rest })
  | some text :: rest =>
    (.error (.negotiation (.transport (.reported text))), { s with refusals := rest })

/-- Receives what the script says. -/
def receive (s : Script) (maxSize : Int) (deadline : Float) :
    Except Fault Octets × Script :=
  let s := s.note (.receive maxSize deadline)
  match s.deliveries with
  | [] => (.error (.negotiation (.timeout .deadline)), s)
  | .datagram data :: rest => (.ok (cutTo maxSize data), { s with deliveries := rest })
  | .timeout text :: rest =>
    (.error (.negotiation (.timeout (.reported text))), { s with deliveries := rest })
  | .failure text :: rest =>
    (.error (.negotiation (.transport (.reported text))), { s with deliveries := rest })

instance : Transport Script where
  clock := Script.clock
  now := Script.now
  send := send
  receive := receive
  close s := s.note .close
  pending s := s.deliveries.length
  pending_receive_lt := by
    intro s s' maxSize deadline data h
    simp only [receive, note] at h
    split at h <;> simp_all
    obtain ⟨-, rfl⟩ := h
    simp

end Script

end PrefixDelegation
