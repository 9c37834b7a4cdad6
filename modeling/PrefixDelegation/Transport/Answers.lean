import PrefixDelegation.Transport.Host

/-!
# Answers of a real socket

To a `Host` all that will happen on its socket is known beforehand. On a real machine it is not: it
has to be found out, question by question. So a program starts on a host of which nothing is known,
and looks for the first question in what it asked of the socket that has no answer yet. It puts
that question to the real socket and starts again, on a host that knows the answer. What it does up
to the question is the same each time, and when no question is open it has come to its end.

`Answers.open?` finds the question, and `Answers.host` is the host that knows the answers.
-/

namespace PrefixDelegation

/-- What can be asked of a real socket. -/
inductive Question where
  | bind (address : SocketAddress)
  | send (data : Octets) (target : SocketAddress) (timeout : Seconds)
  | await (timeout : Seconds)

/-- What is known about a socket, each kind of answer in the order of its questions. -/
structure Answers where
  /-- Whether the address could be taken, if that was asked. -/
  binding : Option (Option OsError) := none
  refusals : List (Option Refusal) := []
  arrivals : List Arrival := []

namespace Answers

/-- The first question among what was asked of a socket that goes beyond the answers. -/
def open? (a : Answers) : List SocketEvent → Option Question
  | [] => none
  | .bind address :: events =>
    if a.binding.isSome then a.open? events else some (.bind address)
  | .attempt timeout :: events =>
    match a.refusals, events with
    | _ :: rest, events => { a with refusals := rest }.open? events
    | [], .sent data target :: _ => some (.send data target timeout)
    | [], events => a.open? events
  | .await timeout :: events =>
    match a.arrivals with
    | _ :: rest => { a with arrivals := rest }.open? events
    | [] => some (.await timeout)
  | _ :: events => a.open? events

/-- A host that knows the answers, and of which nothing was asked so far. -/
def host (a : Answers) (machine : Machine) (clock : Float) (now : Calendar.Moment) : Host where
  machine
  clock
  now
  bindRefusal := a.binding.join
  timerError? := Seconds.timerError? Host.longestWait
  arrivals := a.arrivals
  refusals := a.refusals
  events := []

/-- The answer to the question of an address. -/
def bound (a : Answers) (refusal : Option OsError) : Answers := { a with binding := some refusal }

/-- The answer to an attempt to send. -/
def sent (a : Answers) (refusal : Option Refusal) : Answers :=
  { a with refusals := a.refusals ++ [refusal] }

/-- The answer to a wait. -/
def arrived (a : Answers) (arrival : Arrival) : Answers :=
  { a with arrivals := a.arrivals ++ [arrival] }

end Answers

end PrefixDelegation
