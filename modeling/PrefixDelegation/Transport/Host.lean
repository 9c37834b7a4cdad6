import PrefixDelegation.Journal
import PrefixDelegation.Machine
import PrefixDelegation.Transport.Basic

/-!
# Datagram sockets of a host

A host is a machine together with one datagram socket, its clocks, and all that will happen on the
socket: what arrives and after how long, and which attempts to send are refused. What was asked of
the socket is kept in order.

A wait ends with the next arrival, if that comes before the time to wait is over. An arrival that
takes as long as the wait, or longer, is lost with it. Both clocks move by the time that passed.

Before it sends or waits, a socket sets its timer. To a time that the timer cannot be set to, nothing
is sent or waited for.
-/

namespace PrefixDelegation

open Calendar

/-- What comes in on a socket, and how many seconds after the wait for it began. -/
structure Arrival where
  delay : Float
  content : Except OsError Octets

/-- Why a datagram is not sent. -/
inductive Refusal where
  | timeout
  | os (e : OsError)
deriving Repr, DecidableEq

/-- What was asked of a socket. -/
inductive SocketEvent where
  | shareAddress
  | bind (address : SocketAddress)
  /-- An attempt to send, which takes at most the given time. -/
  | attempt (timeout : Seconds)
  /-- What an attempt has sent. -/
  | sent (data : Octets) (target : SocketAddress)
  /-- A wait for something to come in, which takes at most the given time. -/
  | await (timeout : Seconds)
  | close

/-- A machine with a socket. -/
structure Host where
  machine : Machine
  clock : Float
  now : Moment
  /-- Whether an address can be taken. -/
  bindRefusal : Option OsError
  /-- Whether the timer of the socket can be set to a time. -/
  timerError? : Seconds → Option TimerError
  arrivals : List Arrival
  /-- What sending will meet, in order; after that it succeeds. -/
  refusals : List (Option Refusal)
  events : List SocketEvent

namespace Host

/-- Remembers that something was asked. -/
def note (h : Host) (event : SocketEvent) : Host := { h with events := h.events ++ [event] }

/-- Lets some seconds pass on both clocks. -/
def elapse (h : Host) (seconds : Float) : Host :=
  { h with
    clock := h.clock + seconds
    now := ((secondsToMicros? seconds).bind h.now.shift?).getD h.now }

/-- Opens the socket on a local address. A refused socket is closed again. -/
def listen (h : Host) (address : SocketAddress) : Except OsError Record × Host :=
  let h := (h.note .shareAddress).note (.bind address)
  match h.bindRefusal with
  | some e => (.error e, h.note .close)
  | none => (.ok ⟨.transport, .debug, "Bound UDP socket to " ++ address.describe⟩, h)

/-- The longest time that the timer of a socket can be set to, in nanoseconds. It waits for
milliseconds, of which it counts as many as 31 bits hold. -/
def longestWait : Int := 0x7FFFFFFF * 1000000

/-- Attempts to send a datagram. -/
def transmit (h : Host) (data : Octets) (target : SocketAddress) :
    Except NegotiationError Unit × Host :=
  match h.refusals with
  | [] => (.ok (), h.note (.sent data target))
  | none :: rest => (.ok (), { h with refusals := rest }.note (.sent data target))
  | some refusal :: rest =>
    let h := { h with refusals := rest }
    match refusal with
    | .timeout => (.error (.transport (.writeTimeout target.host)), h)
    | .os e =>
      if e.isTimeout then (.error (.transport (.writeTimeout target.host)), h)
      else (.error (.transport (.writeFailed target.host e)), h)

/-- Sends a datagram. -/
def send (h : Host) (data : Octets) (target : SocketAddress) (timeout : Seconds) :
    Except Fault Unit × Host :=
  match h.timerError? timeout with
  | some e => (.error (.timer e), h)
  | none =>
    let (outcome, h) := (h.note (.attempt timeout)).transmit data target
    (outcome.mapError .negotiation, h)

/-- Waits for the next arrival, at most some seconds. -/
def await (h : Host) (maxSize : Int) (seconds : Float) : Except NegotiationError Octets × Host :=
  match h.arrivals with
  | [] => (.error (.timeout .deadline), h.elapse seconds)
  | arrival :: rest =>
    let h := { h with arrivals := rest }
    if arrival.delay ≥ seconds then (.error (.timeout .deadline), h.elapse seconds)
    else
      let h := h.elapse arrival.delay
      match arrival.content with
      | .ok data => (.ok (cutTo maxSize data), h)
      | .error e =>
        if e.isTimeout then (.error (.timeout .deadline), h)
        else (.error (.transport (.readFailed e)), h)

/-- A wait that ends with a datagram uses an arrival up. -/
theorem length_await_lt {h h' : Host} {maxSize : Int} {seconds : Float} {data : Octets}
    (received : h.await maxSize seconds = (.ok data, h')) :
    h'.arrivals.length < h.arrivals.length := by
  simp only [await, elapse] at received
  split at received
  · -- nothing is left to come in
    simp at received
  · next arrival rest arrivals =>
    split at received
    · -- the next arrival takes too long
      simp at received
    · split at received
      · -- a datagram: one arrival less is left
        simp only [Prod.mk.injEq] at received
        obtain ⟨-, rfl⟩ := received
        simp [arrivals]
      · split at received <;> simp at received

/-- Receives a datagram before a deadline. -/
def receive (h : Host) (maxSize : Int) (deadline : Float) : Except Fault Octets × Host :=
  let remaining := deadline - h.clock
  if remaining ≤ 0.0 then (.error (.negotiation (.timeout .deadline)), h)
  else
    match h.timerError? (.real remaining) with
    | some e => (.error (.timer e), h)
    | none =>
      let (outcome, h) := (h.note (.await (.real remaining))).await maxSize remaining
      (outcome.mapError .negotiation, h)

instance : Transport Host where
  clock := Host.clock
  now := Host.now
  send := send
  receive := receive
  close h := h.note .close
  pending h := h.arrivals.length
  pending_receive_lt := by
    intro h h' maxSize deadline data received
    simp only [receive] at received
    split at received
    · -- the deadline is over
      simp at received
    · split at received
      · -- the timer cannot be set
        simp at received
      · rcases hawait : (h.note (.await (.real (deadline - h.clock)))).await maxSize
          (deadline - h.clock) with ⟨outcome, after⟩
        rw [hawait] at received
        cases outcome with
        | error e => cases (Prod.mk.inj received).1
        | ok data' =>
          obtain ⟨-, rfl⟩ := Prod.mk.inj received
          have fewer := length_await_lt hawait
          exact fewer

end Host

end PrefixDelegation
